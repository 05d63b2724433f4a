import PolyBot.Lib.Machine
import PolyBot.Primitives

/-!
# The rebalance planner

The inventory of a token is held at Binance and in the wallet.  A plan moves some of it when one of
the two holds less than the start balance: a deposit toward half of the inventory, or a withdrawal
that the exchange's minimum, maximum and multiple bound as well.

* `planRebalance`: the plan for balances and the transfers under way.
* `Decision`: the four ways a plan can turn out, with `decision_of_planAction`.
* `rounds`: plans made and carried out one after the other.
* `rebalance_planning_converges`: plans are safe, and the rounds settle without turning back.
-/

namespace PolyBot.Rebalance

inductive Location
  | binance
  | wallet
  deriving DecidableEq

inductive Direction
  | walletToBinance
  | binanceToWallet
  deriving DecidableEq

inductive Route
  | direct (binanceNetwork : String) (chainId : Nat)
  | across (binanceNetwork : String) (bridgeChainId walletChainId : Nat)
  deriving DecidableEq

structure WithdrawalRules where
  minimum : Nat
  maximum : Nat
  multiple : Nat
  deriving DecidableEq

structure RouteCandidate where
  route : Route
  binanceDepositEnabled : Bool
  binanceWithdrawalEnabled : Bool
  acrossWalletToBridgeEnabled : Bool
  acrossBridgeToWalletEnabled : Bool
  withdrawal : WithdrawalRules
  deriving DecidableEq

structure RebalancePolicy where
  tokenSymbol : String
  referenceInventory : Nat
  startThresholdBps : Nat
  routes : List RouteCandidate
  deriving DecidableEq

structure BalanceSnapshot where
  binance : Nat
  wallet : Nat
  deriving DecidableEq

structure PendingTransfer where
  source : Location
  destination : Location
  amount : Nat
  deriving DecidableEq

structure RebalanceAction where
  direction : Direction
  amount : Nat
  route : Route
  deriving DecidableEq

structure RebalancePlan where
  projected : BalanceSnapshot
  referenceInventory : Nat
  startBalance : Nat
  binanceTarget : Nat
  walletTarget : Nat
  action : Option RebalanceAction
  deriving DecidableEq

variable (policy : RebalancePolicy)

def validateRules (candidate : RouteCandidate) :
    Except String Unit := do
  require (candidate.withdrawal.multiple ≠ 0)
    s!"{policy.tokenSymbol} withdrawal multiple must be positive"
  require (candidate.withdrawal.minimum ≤ candidate.withdrawal.maximum)
    s!"{policy.tokenSymbol} withdrawal minimum exceeds maximum"

def validatePolicy : Except String Unit := do
  require (isBlank policy.tokenSymbol = false) "rebalance token symbol is empty"
  require (policy.referenceInventory ≠ 0)
    s!"{policy.tokenSymbol} reference inventory must be positive"
  require (0 < policy.startThresholdBps ∧ policy.startThresholdBps < 5000)
    s!"{policy.tokenSymbol} rebalance start threshold must be between 1 and 4999 bps"
  require (policy.routes ≠ []) s!"{policy.tokenSymbol} has no configured rebalance routes"
  policy.routes.forM (validateRules policy)

def RebalancePolicy.startBalance : Except String Nat := do
  let scaled ← orError (checkedMul 256 policy.referenceInventory policy.startThresholdBps)
    s!"{policy.tokenSymbol} start balance overflow"
  require (scaled / 10000 ≠ 0) s!"{policy.tokenSymbol} derived start balance is zero"
  return scaled / 10000

/-! ## Balances -/

/-- The balances once a pending transfer has arrived. -/
def projectTransfer (projected : BalanceSnapshot) (transfer : PendingTransfer) :
    Except String BalanceSnapshot :=
  match transfer.source, transfer.destination with
  | .binance, .wallet => do
    let binance ← orError (checkedSub projected.binance transfer.amount)
      "pending Binance debit exceeds the observed balance"
    let wallet ← orError (checkedAdd 256 projected.wallet transfer.amount)
      "pending wallet credit overflows the projected balance"
    return ⟨binance, wallet⟩
  | .wallet, .binance => do
    let wallet ← orError (checkedSub projected.wallet transfer.amount)
      "pending wallet debit exceeds the observed balance"
    let binance ← orError (checkedAdd 256 projected.binance transfer.amount)
      "pending Binance credit overflows the projected balance"
    return ⟨binance, wallet⟩
  | _, _ => .error "pending transfer source and destination are identical"

def projectedBalances (snapshot : BalanceSnapshot) (pending : List PendingTransfer) :
    Except String BalanceSnapshot :=
  pending.foldlM projectTransfer snapshot

/-! ## Routes and withdrawals -/

def RouteCandidate.supports (candidate : RouteCandidate) (direction : Direction) : Bool :=
  match candidate.route, direction with
  | .direct .., .walletToBinance => candidate.binanceDepositEnabled
  | .direct .., .binanceToWallet => candidate.binanceWithdrawalEnabled
  | .across .., .walletToBinance =>
    candidate.binanceDepositEnabled && candidate.acrossWalletToBridgeEnabled
  | .across .., .binanceToWallet =>
    candidate.binanceWithdrawalEnabled && candidate.acrossBridgeToWalletEnabled

def Direction.name : Direction → String
  | .walletToBinance => "WalletToBinance"
  | .binanceToWallet => "BinanceToWallet"

def selectRoute (direction : Direction) : Except String RouteCandidate :=
  orError (policy.routes.find? (·.supports direction))
    s!"{policy.tokenSymbol} has no currently available {direction.name} route"

def constrainWithdrawal (requested : Nat) (rules : WithdrawalRules) : Nat :=
  if requested = 0 then
    0
  else
    let bounded := min (max requested rules.minimum) rules.maximum
    let rounded := bounded - bounded % rules.multiple
    if rounded < rules.minimum then 0 else rounded

/-! ## The plan -/

-- subtraction of natural numbers stops at zero, as the source's does with its default

def planBinanceRefill (projected : BalanceSnapshot) (startBalance binanceTarget : Nat) :
    Except String (Option RebalanceAction) :=
  let walletSurplus := projected.wallet - startBalance
  let targetDeficit := binanceTarget - projected.binance
  let amount := min targetDeficit walletSurplus
  if amount = 0 then
    .ok none
  else do
    let candidate ← selectRoute policy .walletToBinance
    return some ⟨.walletToBinance, amount, candidate.route⟩

/-- What a short wallet asks for. -/
def requestedWithdrawal (projected : BalanceSnapshot) (startBalance walletTarget : Nat) : Nat :=
  min (walletTarget - projected.wallet) (projected.binance - startBalance)

def planWalletRefill (projected : BalanceSnapshot) (startBalance walletTarget : Nat) :
    Except String (Option RebalanceAction) :=
  let binanceSurplus := projected.binance - startBalance
  let requested := requestedWithdrawal projected startBalance walletTarget
  if requested = 0 then
    .ok none
  else do
    let candidate ← selectRoute policy .binanceToWallet
    let amount := constrainWithdrawal requested candidate.withdrawal
    return if amount ≠ 0 ∧ amount ≤ binanceSurplus then
      some ⟨.binanceToWallet, amount, candidate.route⟩
    else
      none

def planAction (projected : BalanceSnapshot) (startBalance binanceTarget walletTarget : Nat) :
    Except String (Option RebalanceAction) :=
  if projected.binance < startBalance then
    planBinanceRefill policy projected startBalance binanceTarget
  else if projected.wallet < startBalance then
    planWalletRefill policy projected startBalance walletTarget
  else
    .ok none

def planRebalance (snapshot : BalanceSnapshot) (pending : List PendingTransfer) :
    Except String RebalancePlan := do
  validatePolicy policy
  let startBalance ← policy.startBalance
  let projected ← projectedBalances snapshot pending
  let total ← orError (checkedAdd 256 projected.binance projected.wallet)
    s!"{policy.tokenSymbol} inventory overflow"
  let required ← orError (checkedMul 256 startBalance 2)
    s!"{policy.tokenSymbol} minimum inventory overflow"
  require (required ≤ total)
    s!"{policy.tokenSymbol} total inventory is below the configured minimum"
  let binanceTarget := total / 2
  let walletTarget := total - binanceTarget
  let action ← planAction policy projected startBalance binanceTarget walletTarget
  return { projected := projected, referenceInventory := policy.referenceInventory,
           startBalance := startBalance, binanceTarget := binanceTarget,
           walletTarget := walletTarget, action := action }

/-! ## Actions carried out -/

namespace BalanceSnapshot

def total (balances : BalanceSnapshot) : Nat :=
  balances.binance + balances.wallet

/-- The balances once an action is carried out without a fee. -/
def after (balances : BalanceSnapshot) (action : RebalanceAction) : BalanceSnapshot :=
  match action.direction with
  | .walletToBinance => ⟨balances.binance + action.amount, balances.wallet - action.amount⟩
  | .binanceToWallet => ⟨balances.binance - action.amount, balances.wallet + action.amount⟩

/-- The balance an action takes from. -/
def source (balances : BalanceSnapshot) (direction : Direction) : Nat :=
  match direction with
  | .walletToBinance => balances.wallet
  | .binanceToWallet => balances.binance

end BalanceSnapshot

open BalanceSnapshot

/-- An action while it is under way. -/
def RebalanceAction.transfer (action : RebalanceAction) : PendingTransfer :=
  match action.direction with
  | .walletToBinance => ⟨.wallet, .binance, action.amount⟩
  | .binanceToWallet => ⟨.binance, .wallet, action.amount⟩

variable {action : RebalanceAction} {balances projected snapshot : BalanceSnapshot}
  {policy : RebalancePolicy} {pending : List PendingTransfer} {startBalance : Nat}

theorem projectedBalances_append_transfer
    (base : projectedBalances snapshot pending = .ok projected)
    (enough : action.amount ≤ projected.source action.direction) (fits : projected.total < 2 ^ 256) :
    projectedBalances snapshot (pending ++ [action.transfer]) =
      .ok (projected.after action) := by
  unfold projectedBalances at base ⊢
  rw [List.foldlM_append, base]
  obtain ⟨direction, amount, route⟩ := action
  unfold total at fits
  cases direction with
  | walletToBinance =>
    have covered : amount ≤ projected.wallet := enough
    have debit : checkedSub projected.wallet amount = some (projected.wallet - amount) :=
      checkedSub_eq_some.mpr ⟨covered, rfl⟩
    have credit : checkedAdd 256 projected.binance amount = some (projected.binance + amount) :=
      checkedAdd_eq_some.mpr ⟨by omega, rfl⟩
    simp [projectTransfer, RebalanceAction.transfer, debit, credit, after]
  | binanceToWallet =>
    have covered : amount ≤ projected.binance := enough
    have debit : checkedSub projected.binance amount = some (projected.binance - amount) :=
      checkedSub_eq_some.mpr ⟨covered, rfl⟩
    have credit : checkedAdd 256 projected.wallet amount = some (projected.wallet + amount) :=
      checkedAdd_eq_some.mpr ⟨by omega, rfl⟩
    simp [projectTransfer, RebalanceAction.transfer, debit, credit, after]

theorem total_after (enough : action.amount ≤ balances.source action.direction) :
    (balances.after action).total = balances.total := by
  obtain ⟨direction, amount, route⟩ := action
  cases direction with
  | walletToBinance | binanceToWallet =>
    simp only [source] at enough
    simp only [after, total]
    omega

/-! ## What a plan decides -/

/-- A withdrawal is a multiple within the exchange's limits. -/
theorem constrainWithdrawal_allowed {requested : Nat} {rules : WithdrawalRules}
    (positive : constrainWithdrawal requested rules ≠ 0) :
    rules.multiple ∣ constrainWithdrawal requested rules ∧
      rules.minimum ≤ constrainWithdrawal requested rules ∧
      constrainWithdrawal requested rules ≤ rules.maximum := by
  unfold constrainWithdrawal at positive ⊢
  split at positive
  · exact absurd rfl positive
  · rename_i asked
    rw [if_neg asked]
    dsimp only at positive ⊢
    generalize bound : min (max requested rules.minimum) rules.maximum = bounded at positive ⊢
    split at positive
    · exact absurd rfl positive
    · rename_i reaches
      rw [if_neg reaches]
      have below : bounded ≤ rules.maximum := by
        rw [← bound]
        exact min_le_right _ _
      exact ⟨Nat.dvd_sub_mod bounded, by omega, by omega⟩

/-- What the rules of a route leave of what a short wallet asks for. -/
def allowedWithdrawal (balances : BalanceSnapshot) (startBalance : Nat) (candidate : RouteCandidate) :
    Nat :=
  constrainWithdrawal
    (requestedWithdrawal balances startBalance (balances.total - balances.total / 2))
    candidate.withdrawal

/-- How a plan turns out for balances that make up twice the start balance. -/
inductive Decision (policy : RebalancePolicy) (balances : BalanceSnapshot) (startBalance : Nat) :
    Option RebalanceAction → Prop
  /-- Binance is short and is refilled. -/
  | deposit (short : balances.binance < startBalance) (candidate : RouteCandidate)
      (selected : selectRoute policy .walletToBinance = .ok candidate) :
      Decision policy balances startBalance (some ⟨.walletToBinance,
        min (balances.total / 2 - balances.binance) (balances.wallet - startBalance),
        candidate.route⟩)
  /-- The wallet is short and is refilled as the withdrawal rules allow. -/
  | withdrawal (enough : startBalance ≤ balances.binance) (short : balances.wallet < startBalance)
      (candidate : RouteCandidate)
      (selected : selectRoute policy .binanceToWallet = .ok candidate)
      (positive : allowedWithdrawal balances startBalance candidate ≠ 0)
      (covered : allowedWithdrawal balances startBalance candidate ≤
        balances.binance - startBalance) :
      Decision policy balances startBalance (some ⟨.binanceToWallet,
        allowedWithdrawal balances startBalance candidate, candidate.route⟩)
  /-- The wallet is short, and the rules leave nothing or ask for more than the surplus. -/
  | stuck (enough : startBalance ≤ balances.binance) (short : balances.wallet < startBalance)
      (candidate : RouteCandidate)
      (selected : selectRoute policy .binanceToWallet = .ok candidate)
      (barred : allowedWithdrawal balances startBalance candidate = 0 ∨
        balances.binance - startBalance < allowedWithdrawal balances startBalance candidate) :
      Decision policy balances startBalance none
  /-- Neither is short. -/
  | balanced (binance : startBalance ≤ balances.binance) (wallet : startBalance ≤ balances.wallet) :
      Decision policy balances startBalance none

/-- Every plan that is made is one of the four decisions. -/
theorem decision_of_planAction {action : Option RebalanceAction} (funded : 2 * startBalance ≤ balances.total)
    (planned : planAction policy balances startBalance (balances.total / 2)
      (balances.total - balances.total / 2) = .ok action) :
    Decision policy balances startBalance action := by
  have sum : balances.total = balances.binance + balances.wallet := rfl
  unfold planAction at planned
  split at planned
  · rename_i short
    have asks : min (balances.total / 2 - balances.binance) (balances.wallet - startBalance) ≠ 0 := by
      omega
    simp only [planBinanceRefill, if_neg asks, bind_eq_ok, pure_eq_ok] at planned
    obtain ⟨candidate, selected, rfl⟩ := planned
    exact .deposit short candidate selected
  · rename_i enough
    split at planned
    · rename_i short
      have asks : requestedWithdrawal balances startBalance
          (balances.total - balances.total / 2) ≠ 0 := by
        unfold requestedWithdrawal
        omega
      simp only [planWalletRefill, if_neg asks, bind_eq_ok, pure_eq_ok] at planned
      obtain ⟨candidate, selected, rfl⟩ := planned
      split
      · rename_i allowed
        exact .withdrawal (by omega) short candidate selected allowed.1 allowed.2
      · rename_i barred
        exact .stuck (by omega) short candidate selected (by unfold allowedWithdrawal; omega)
    · rename_i wallet
      cases planned
      exact .balanced (by omega) (by omega)

/-- With a route in each direction a plan is always made. -/
theorem planAction_succeeds {binanceTarget walletTarget : Nat}
    (routed : ∀ direction, ∃ candidate ∈ policy.routes, candidate.supports direction = true) :
    ∃ action, planAction policy balances startBalance binanceTarget walletTarget = .ok action := by
  have selects : ∀ direction, ∃ candidate, selectRoute policy direction = .ok candidate := by
    intro direction
    obtain ⟨candidate, mem, supports⟩ := routed direction
    have found : (policy.routes.find? (·.supports direction)).isSome = true :=
      List.find?_isSome.mpr ⟨candidate, mem, supports⟩
    obtain ⟨first, isFirst⟩ := Option.isSome_iff_exists.mp found
    exact ⟨first, by rw [selectRoute, isFirst]; rfl⟩
  obtain ⟨deposit, deposits⟩ := selects .walletToBinance
  obtain ⟨withdrawal, withdraws⟩ := selects .binanceToWallet
  simp only [planAction, planBinanceRefill, planWalletRefill, deposits, withdraws]
  split_ifs <;> exact ⟨_, rfl⟩

/-- The withdrawal rules leave nothing of what a short wallet asks for, or raise it above what
Binance can spare. -/
def Barred (policy : RebalancePolicy) (startBalance : Nat) (balances : BalanceSnapshot) : Prop :=
  ∃ candidate, selectRoute policy .binanceToWallet = .ok candidate ∧
    let amount := constrainWithdrawal
      (requestedWithdrawal balances startBalance (balances.total - balances.total / 2))
      candidate.withdrawal
    amount = 0 ∨ balances.binance - startBalance < amount

/-- An action moves a positive amount, leaves its source the start balance, and keeps to the
withdrawal rules of the route that was selected for it. -/
structure Safe (policy : RebalancePolicy) (startBalance : Nat) (balances : BalanceSnapshot)
    (action : RebalanceAction) : Prop where
  positive : 0 < action.amount
  leaves : action.amount + startBalance ≤ balances.source action.direction
  allowed : action.direction = .binanceToWallet → ∃ candidate,
    selectRoute policy .binanceToWallet = .ok candidate ∧ action.route = candidate.route ∧
      candidate.withdrawal.multiple ∣ action.amount ∧
      candidate.withdrawal.minimum ≤ action.amount ∧ action.amount ≤ candidate.withdrawal.maximum

theorem Decision.safe (funded : 2 * startBalance ≤ balances.total)
    (decision : Decision policy balances startBalance (some action)) :
    Safe policy startBalance balances action := by
  have sum : balances.total = balances.binance + balances.wallet := rfl
  cases decision with
  | deposit short candidate selected =>
    refine ⟨?_, ?_, fun direction => nomatch direction⟩
    · dsimp only
      omega
    · simp only [source]
      omega
  | withdrawal enough short candidate selected positive covered =>
    refine ⟨Nat.pos_of_ne_zero positive, ?_, ?_⟩
    · simp only [source]
      omega
    · intro _
      obtain ⟨multiple, minimum, maximum⟩ := constrainWithdrawal_allowed positive
      exact ⟨candidate, selected, rfl, multiple, minimum, maximum⟩

/-- A deposit leaves both venues with the start balance. -/
theorem Decision.cures (funded : 2 * startBalance ≤ balances.total)
    (short : balances.binance < startBalance)
    (decision : Decision policy balances startBalance (some action)) :
    startBalance ≤ (balances.after action).binance ∧
      startBalance ≤ (balances.after action).wallet := by
  have sum : balances.total = balances.binance + balances.wallet := rfl
  cases decision with
  | deposit =>
    simp only [after]
    omega
  | withdrawal enough => omega

/-! ## Plans carried out one after the other -/

/-- The policy is valid and the inventory is twice its start balance. -/
structure Funded (policy : RebalancePolicy) (startBalance : Nat) (balances : BalanceSnapshot) :
    Prop where
  valid : validatePolicy policy = .ok ()
  start : policy.startBalance = .ok startBalance
  enough : 2 * startBalance ≤ balances.total
  fits : balances.total < 2 ^ 256

theorem Funded.after (funded : Funded policy startBalance balances)
    (safe : Safe policy startBalance balances action) :
    Funded policy startBalance (balances.after action) := by
  have conserved := total_after (Nat.le_of_add_right_le safe.leaves)
  exact ⟨funded.valid, funded.start, by rw [conserved]; exact funded.enough,
    by rw [conserved]; exact funded.fits⟩

/-- A plan depends on the projected balances only. -/
theorem planRebalance_of_projected (base : projectedBalances snapshot pending = .ok projected) :
    planRebalance policy snapshot pending = planRebalance policy projected [] := by
  have same : projectedBalances projected [] = .ok projected := rfl
  unfold planRebalance
  rw [base, same]

/-- The plan for balances without transfers under way. -/
theorem planRebalance_eq_ok {plan : RebalancePlan} :
    planRebalance policy balances [] = .ok plan ↔
      Funded policy plan.startBalance balances ∧
      ∃ action, planAction policy balances plan.startBalance (balances.total / 2)
          (balances.total - balances.total / 2) = .ok action ∧
        plan = ⟨balances, policy.referenceInventory, plan.startBalance, balances.total / 2,
          balances.total - balances.total / 2, action⟩ := by
  have same : projectedBalances balances [] = .ok balances := rfl
  simp only [planRebalance, same, checkedMul, bind_eq_ok, orError_eq_ok, require_eq_ok, pure_eq_ok,
    checkedAdd_eq_some, checkedNat_eq_some, Except.ok.injEq]
  constructor
  · intro planned
    obtain ⟨_, valid, startBalance, start, _, rfl, _, ⟨fits, rfl⟩, _, ⟨-, rfl⟩, _, enough, action,
      decided, rfl⟩ := planned
    have twice : 2 * startBalance ≤ balances.total := by
      rw [Nat.mul_comm]
      exact enough
    exact ⟨⟨valid, start, twice, fits⟩, action, decided, rfl⟩
  · intro made
    obtain ⟨funded, action, decided, shape⟩ := made
    obtain ⟨valid, start, twice, fits⟩ := funded
    have required : plan.startBalance * 2 ≤ balances.binance + balances.wallet := by
      rw [Nat.mul_comm]
      exact twice
    refine ⟨(), valid, plan.startBalance, start, balances, rfl, _, ⟨fits, rfl⟩, _,
      ⟨lt_of_le_of_lt required fits, rfl⟩, (), required, action, decided, ?_⟩
    exact shape.symm

/-- Plans made and carried out until one has no action, at most `n` of them. -/
def rounds (policy : RebalancePolicy) :
    Nat → BalanceSnapshot → Except String (List RebalanceAction × BalanceSnapshot)
  | 0, balances => .ok ([], balances)
  | n + 1, balances => do
    let plan ← planRebalance policy balances []
    match plan.action with
    | none => return ([], balances)
    | some action =>
      let (rest, final) ← rounds policy n (balances.after action)
      return (action :: rest, final)

/-- Nothing is left to do: both venues hold the start balance, or the withdrawal rules bar what the
wallet lacks. -/
structure Settled (policy : RebalancePolicy) (startBalance : Nat) (balances : BalanceSnapshot) :
    Prop where
  idle : ∃ plan, planRebalance policy balances [] = .ok plan ∧ plan.action = none
  reached : startBalance ≤ balances.binance ∧ startBalance ≤ balances.wallet ∨
    balances.wallet < startBalance ∧ Barred policy startBalance balances

section Rounds

variable (routed : ∀ direction, ∃ candidate ∈ policy.routes, candidate.supports direction = true)
include routed

/-- The first round: nothing is left to do, or an action comes before the rounds behind it. -/
theorem Funded.round (funded : Funded policy startBalance balances) :
    (∀ n, rounds policy n balances = .ok ([], balances)) ∧ Settled policy startBalance balances ∨
      ∃ action, Decision policy balances startBalance (some action) ∧
        ∀ {n rest final}, rounds policy n (balances.after action) = .ok (rest, final) →
          rounds policy (n + 1) balances = .ok (action :: rest, final) := by
  obtain ⟨action, decided⟩ := planAction_succeeds routed
  have decision := decision_of_planAction funded.enough decided
  have planned : planRebalance policy balances [] = .ok ⟨balances, policy.referenceInventory,
      startBalance, balances.total / 2, balances.total - balances.total / 2, action⟩ :=
    planRebalance_eq_ok.mpr ⟨funded, action, decided, rfl⟩
  cases action with
  | none =>
    refine .inl ⟨fun n => ?_, ⟨_, planned, rfl⟩, ?_⟩
    · cases n with
      | zero => rfl
      | succ n => simp only [rounds, planned, ok_bind]; rfl
    · cases decision with
      | stuck enough short candidate selected barred =>
        exact .inr ⟨short, candidate, selected, barred⟩
      | balanced binance wallet => exact .inl ⟨binance, wallet⟩
  | some action =>
    refine .inr ⟨action, decision, fun later => ?_⟩
    simp only [rounds, planned, ok_bind, later]
    rfl

/-- Rounds that begin with enough at Binance only withdraw, and end when the wallet has what it
lacked or can have no more. -/
theorem rounds_withdraw (n : Nat) (funded : Funded policy startBalance balances)
    (enough : startBalance ≤ balances.binance) :
    ∃ actions final, rounds policy n balances = .ok (actions, final) ∧
      final.total = balances.total ∧ (∀ action ∈ actions, action.direction = .binanceToWallet) ∧
      (startBalance - balances.wallet < n → Settled policy startBalance final) := by
  induction n generalizing balances with
  | zero => exact ⟨[], balances, rfl, rfl, by simp, by simp⟩
  | succ n ih =>
    rcases funded.round routed with ⟨idle, settled⟩ | ⟨action, decision, acts⟩
    · exact ⟨[], balances, idle _, rfl, by simp, fun _ => settled⟩
    · have safe := decision.safe funded.enough
      have conserved := total_after (Nat.le_of_add_right_le safe.leaves)
      have withdraws : action.direction = .binanceToWallet ∧ balances.wallet < startBalance := by
        cases decision with
        | deposit short => omega
        | withdrawal _ short => exact ⟨rfl, short⟩
      obtain ⟨withdraws, short⟩ := withdraws
      -- the wallet gains, and Binance keeps the start balance
      have leaves := safe.leaves
      have positive := safe.positive
      have moved : balances.after action =
          ⟨balances.binance - action.amount, balances.wallet + action.amount⟩ := by
        rw [after, withdraws]
      rw [withdraws, source] at leaves
      obtain ⟨rest, final, ran, total, directions, settles⟩ := ih (funded.after safe)
        (by rw [moved]; dsimp only; omega)
      refine ⟨action :: rest, final, acts ran, total.trans conserved, ?_, ?_⟩
      · intro other mem
        rcases List.mem_cons.mp mem with rfl | later
        · exact withdraws
        · exact directions other later
      · intro rounds
        apply settles
        rw [moved]
        dsimp only
        omega

/-- Rounds from any balances: a deposit comes alone. -/
theorem rounds_settle (n : Nat) (funded : Funded policy startBalance balances) :
    ∃ actions final, rounds policy n balances = .ok (actions, final) ∧
      final.total = balances.total ∧
      (∀ first ∈ actions.head?, ∀ action ∈ actions, action.direction = first.direction) ∧
      (startBalance < n → Settled policy startBalance final) := by
  by_cases short : balances.binance < startBalance
  · cases n with
    | zero => exact ⟨[], balances, rfl, rfl, by simp, by simp⟩
    | succ n =>
      rcases funded.round routed with ⟨idle, settled⟩ | ⟨action, decision, acts⟩
      · exact ⟨[], balances, idle _, rfl, by simp, fun _ => settled⟩
      · have safe := decision.safe funded.enough
        have conserved := total_after (Nat.le_of_add_right_le safe.leaves)
        have cured := decision.cures funded.enough short
        -- the next plan finds nothing to do
        rcases (funded.after safe).round routed with ⟨idle, settled⟩ | ⟨_, again, -⟩
        · exact ⟨[action], balances.after action, acts (idle n), conserved, by simp, fun _ => settled⟩
        · cases again with
          | deposit | withdrawal => omega
  · obtain ⟨actions, final, ran, total, directions, settles⟩ :=
      rounds_withdraw routed n funded (by omega)
    refine ⟨actions, final, ran, total, ?_, fun _ => settles (by omega)⟩
    intro first isFirst action mem
    rw [directions action mem, directions first (List.mem_of_mem_head? isFirst)]

end Rounds

/-- A plan is safe, and planning again while its action is under way gives the plan for the balances
after it.  With a route in each direction the rounds never fail, keep the total, never turn back,
and settle; a shortage at Binance is over after one action. -/
theorem rebalance_planning_converges {policy : RebalancePolicy} {snapshot : BalanceSnapshot}
    {pending : List PendingTransfer} {plan : RebalancePlan}
    (planned : planRebalance policy snapshot pending = .ok plan) :
    (∀ action, plan.action = some action →
      Safe policy plan.startBalance plan.projected action ∧
      planRebalance policy snapshot (pending ++ [action.transfer]) =
        planRebalance policy (plan.projected.after action) []) ∧
    (plan.projected.binance < plan.startBalance → ∃ action, plan.action = some action ∧
      plan.startBalance ≤ (plan.projected.after action).binance ∧
      plan.startBalance ≤ (plan.projected.after action).wallet) ∧
    ((∀ direction, ∃ candidate ∈ policy.routes, candidate.supports direction = true) →
      ∀ n, ∃ actions final, rounds policy n plan.projected = .ok (actions, final) ∧
        final.total = plan.projected.total ∧
        (∀ first ∈ actions.head?, ∀ action ∈ actions, action.direction = first.direction) ∧
        (plan.startBalance < n → Settled policy plan.startBalance final)) := by
  have based : ∃ projected, projectedBalances snapshot pending = .ok projected := by
    simp only [planRebalance, bind_eq_ok] at planned
    obtain ⟨_, _, _, _, projected, base, _⟩ := planned
    exact ⟨projected, base⟩
  obtain ⟨projected, base⟩ := based
  rw [planRebalance_of_projected base, planRebalance_eq_ok] at planned
  obtain ⟨funded, action, decided, shape⟩ := planned
  have decision := decision_of_planAction funded.enough decided
  obtain ⟨_, _, startBalance, _, _, chosen⟩ := plan
  simp only [RebalancePlan.mk.injEq] at shape
  obtain ⟨rfl, -, -, -, -, rfl⟩ := shape
  dsimp only at funded decision ⊢
  refine ⟨?_, ?_, ?_⟩
  · intro action acts
    subst acts
    have safe := decision.safe funded.enough
    refine ⟨safe, planRebalance_of_projected ?_⟩
    exact projectedBalances_append_transfer base (Nat.le_of_add_right_le safe.leaves) funded.fits
  · intro short
    cases chosen with
    | none =>
      cases decision with
      | stuck | balanced => omega
    | some action => exact ⟨action, rfl, decision.cures funded.enough short⟩
  · intro routed n
    exact rounds_settle routed n funded

/-- A wallet that is filled by at most 500 at a time. -/
def shortWallet : RebalancePolicy where
  tokenSymbol := "WLD"
  referenceInventory := 8000
  startThresholdBps := 2500
  routes := [⟨.direct "WLD" 480, true, true, false, false, ⟨200, 500, 10⟩⟩]

theorem short_wallet_settles :
    planRebalance shortWallet ⟨7000, 1000⟩ [⟨.wallet, .binance, 100⟩] =
        .ok ⟨⟨7100, 900⟩, 8000, 2000, 4000, 4000,
          some ⟨.binanceToWallet, 500, .direct "WLD" 480⟩⟩ ∧
      ∃ actions final, rounds shortWallet 2001 ⟨7100, 900⟩ = .ok (actions, final) ∧
        final.total = 8000 ∧ Settled shortWallet 2000 final := by
  have planned : planRebalance shortWallet ⟨7000, 1000⟩ [⟨.wallet, .binance, 100⟩] =
      .ok ⟨⟨7100, 900⟩, 8000, 2000, 4000, 4000,
        some ⟨.binanceToWallet, 500, .direct "WLD" 480⟩⟩ := by
    rfl
  refine ⟨planned, ?_⟩
  have routed : ∀ direction, ∃ candidate ∈ shortWallet.routes,
      candidate.supports direction = true := by
    intro direction
    cases direction with
    | walletToBinance | binanceToWallet => exact ⟨_, List.mem_cons_self, rfl⟩
  obtain ⟨-, -, converges⟩ := rebalance_planning_converges planned
  obtain ⟨actions, final, ran, total, -, settles⟩ := converges routed 2001
  exact ⟨actions, final, ran, total, settles (by decide)⟩

end PolyBot.Rebalance
