import PolyBot.Inventory.Reservations

/-!
# The capital allocator

The allocator plans transfers of capital between the locations of one account.  Every venue asset
has one reviewed economic asset; a transfer stays within it, its debit is its credit and its fee,
and what is in flight and what is proposed may together not exceed what is free at the source.

The debits are summed up source by source while the intents are worked through, and each sum is
checked at once.  `planIntents_eq_ok` says that the checks on the partial sums come to one check on
the total of every source, which is what makes the plan independent of the order of its intents.

* `planIntents_eq_ok`: when the intents are accepted, and with which proposals.
* `plan_within_available_in_any_order`: what an accepted plan spends, and in which orders it is
  accepted.
-/

namespace PolyBot.Portfolio

open PolyBot.Inventory Tally

inductive CapitalAllocatorMode
  | disabled
  | shadow
  | fullLive
  deriving DecidableEq

structure CapitalTokenPolicy where
  economicAssetId : String
  maximumDebit : U256
  maximumFee : U256

structure CapitalNetworkPolicy where
  networkId : String
  tokens : Std.TreeMap String CapitalTokenPolicy

/-- The part of the policy that decides on a plan. -/
structure CapitalPolicy where
  networkId : String
  tokenAEconomicAssetId : String
  tokenBEconomicAssetId : String
  maximumConcurrentTransfers : Nat
  maximumTokenADebit : U256
  maximumTokenBDebit : U256
  maximumTokenAFee : U256
  maximumTokenBFee : U256
  additionalTokens : Std.TreeMap String CapitalTokenPolicy
  directNetworks : Std.TreeMap Nat CapitalNetworkPolicy
  directRouteOnly : Bool
  bridgeMutationsEnabled : Bool
  externalMutationAuthorized : Bool

structure AllocationIntent where
  proposalId : String
  economicAssetId : String
  source : InventoryKey
  destination : InventoryKey
  destinationCredit : U256
  fee : U256
  deriving DecidableEq

structure AllocationProposal where
  proposalId : String
  economicAssetId : String
  source : InventoryKey
  destination : InventoryKey
  sourceDebit : U256
  destinationCredit : U256
  fee : U256
  externalMutationAuthorized : Bool
  deriving DecidableEq

def conserves (sourceDebit destinationCredit fee : U256) : Bool :=
  (checkedAddU256 destinationCredit fee).any (· = sourceDebit)

def AllocationProposal.conserves (proposal : AllocationProposal) : Bool :=
  Portfolio.conserves proposal.sourceDebit proposal.destinationCredit proposal.fee

structure InFlightTransfer where
  economicAssetId : String
  source : InventoryKey
  destination : InventoryKey
  sourceDebit : U256
  destinationCredit : U256
  fee : U256

structure InventoryPortfolioSnapshot where
  observed : Std.TreeMap InventoryKey U256
  reservedTotals : Tally InventoryKey 256

structure PortfolioAudit where
  observedByEconomicAsset : Tally String 256
  availableByEconomicAsset : List (String × U256)
  reservedByEconomicAsset : Tally String 256
  observedLocationAssets : Nat

/-- An amount added to the total of a key. -/
def addTo {κ : Type} [Ord κ] (overflow : String) (totals : Tally κ 256) (key : κ) (amount : U256) :
    Except String (Tally κ 256) := do
  let total ← orError (checkedAddU256 (totals.total key) amount) overflow
  return totals.insert key total

def addAmount : Tally String 256 → String → U256 → Except String (Tally String 256) :=
  addTo "economic asset portfolio total overflow"

def addKeyAmount : Tally InventoryKey 256 → InventoryKey → U256 →
    Except String (Tally InventoryKey 256) :=
  addTo "allocator source debit overflow"

/-- What is free at a source. -/
def snapshotAvailable (snapshot : InventoryPortfolioSnapshot) (key : InventoryKey) :
    Except String U256 := do
  let observed ← orError snapshot.observed[key]?
    s!"allocator has no observed source {key.venueAssetId}"
  orError (checkedSubU256 observed (snapshot.reservedTotals.total key))
    "allocator reservations exceed observed source inventory"

/-- The network of a route between an exchange account and a wallet. -/
def routeNetworkId : InventoryLocation → InventoryLocation → Except String String
  | .binanceAccount _, .evmWallet networkId _ => .ok networkId
  | .evmWallet networkId _, .binanceAccount _ => .ok networkId
  | _, _ => .error "rebalance proposal is not a direct Binance/EVM route"

/-- The largest debit and fee of an economic asset on the network of its route. -/
def policyLimits (policy : CapitalPolicy) (economicAsset : String) :
    Option CapitalNetworkPolicy → Except String (U256 × U256)
  | some network => do
    let token ← orError (network.tokens.values.find? (·.economicAssetId = economicAsset))
      "rebalance proposal asset is not approved on the direct network"
    return (token.maximumDebit, token.maximumFee)
  | none =>
    if policy.directNetworks.isEmpty ∧ economicAsset = policy.tokenAEconomicAssetId then
      .ok (policy.maximumTokenADebit, policy.maximumTokenAFee)
    else if policy.directNetworks.isEmpty ∧ economicAsset = policy.tokenBEconomicAssetId then
      .ok (policy.maximumTokenBDebit, policy.maximumTokenBFee)
    else
      match policy.directNetworks.isEmpty,
        policy.additionalTokens.values.find? (economicAsset = ·.economicAssetId) with
      | true, some token => .ok (token.maximumDebit, token.maximumFee)
      | _, _ => .error "rebalance proposal uses an asset outside the approved portfolio"

def validateLiveProposal (policy : CapitalPolicy) (intent : AllocationIntent)
    (sourceDebit : U256) : Except String Unit := do
  let networkId ← routeNetworkId intent.source.location intent.destination.location
  let networkPolicy := policy.directNetworks.values.find? (·.networkId = networkId)
  let (maximumDebit, maximumFee) ← policyLimits policy intent.economicAssetId networkPolicy
  require (sourceDebit ≤ maximumDebit ∧ intent.fee ≤ maximumFee)
    "rebalance proposal exceeds the asset value or fee cap"
  require (networkPolicy.isSome ∨ policy.directNetworks.isEmpty ∧ networkId = policy.networkId)
    "rebalance proposal is not on an approved direct network"

structure CapitalAllocator where
  mode : CapitalAllocatorMode
  economicAssets : Std.TreeMap InventoryKey String
  capitalPolicy : Option CapitalPolicy

namespace CapitalAllocator

variable (allocator : CapitalAllocator) (inventory : InventoryPortfolioSnapshot)
  (intent : AllocationIntent)

def mapping (key : InventoryKey) : Except String String :=
  orError allocator.economicAssets[key]? s!"unreviewed portfolio venue asset {key.venueAssetId}"

/-- One observed balance, with what is reserved of it, added to the totals of its economic asset. -/
def auditBalance (totals : Tally String 256 × Tally String 256) (balance : InventoryKey × U256) :
    Except String (Tally String 256 × Tally String 256) := do
  let economic ← allocator.mapping balance.1
  let observed ← addAmount totals.1 economic balance.2
  let reservedAmount := inventory.reservedTotals.total balance.1
  require (reservedAmount ≤ balance.2) "reserved portfolio amount exceeds observed balance"
  let reserved ← addAmount totals.2 economic reservedAmount
  return (observed, reserved)

def auditSnapshot :
    Except String PortfolioAudit := do
  let (observed, reserved) ←
    inventory.observed.toList.foldlM (allocator.auditBalance inventory) (∅, ∅)
  inventory.reservedTotals.keys.forM fun key =>
    require (key ∈ inventory.observed) "reservation references an unobserved portfolio asset"
  let available ← observed.toList.mapM fun (economic, total) => do
    let amount ← orError (checkedSubU256 total (reserved.total economic))
      "portfolio reservations exceed observed economic asset"
    return (economic, amount)
  return ⟨observed, available, reserved, inventory.observed.size⟩

/-- Whether both ends of a route are mapped to an economic asset; the second end is looked up only
when the first is. -/
def withinAsset (economicAssetId : String) (source destination : InventoryKey) :
    Except String Bool := do
  let mapped ← allocator.mapping source
  if mapped = economicAssetId then
    let mapped ← allocator.mapping destination
    return mapped = economicAssetId
  else
    return false

def validateTransfer (economicAssetId : String) (source destination : InventoryKey)
    (sourceDebit destinationCredit fee : U256) :
    Except String Unit := do
  require (source ≠ destination) "allocator source and destination are identical"
  let within ← allocator.withinAsset economicAssetId source destination
  require (within = true) "allocator route crosses economic assets"
  require (conserves sourceDebit destinationCredit fee = true)
    "allocator transfer is not conserved across credit and fee"

/-- The checks of a live allocator on its policy. -/
def validateLivePolicy (capitalPolicy : Option CapitalPolicy) (inFlight : List InFlightTransfer) :
    Except String Unit := do
  let policy ← orError capitalPolicy "live allocator has no capital policy"
  require (policy.externalMutationAuthorized ∧ policy.maximumConcurrentTransfers = 1 ∧
      (policy.directRouteOnly ∨ policy.bridgeMutationsEnabled) ∧
      ¬ (policy.directRouteOnly ∧ policy.bridgeMutationsEnabled))
    "live allocator policy has no singular reviewed route mode"
  require (inFlight.length < policy.maximumConcurrentTransfers)
    "capital policy permits only one external transfer at a time"

/-- The debits of the transfers in flight, source by source, each within what is free there. -/
def inFlightDebits (inFlight : List InFlightTransfer) :
    Except String (Tally InventoryKey 256) := do
  let sourceDebits ← inFlight.foldlM
    (fun debits transfer => addKeyAmount debits transfer.source transfer.sourceDebit) ∅
  sourceDebits.toList.forM fun (source, debit) => do
    let available ← snapshotAvailable inventory source
    require (debit ≤ available) "in-flight transfers overspend source inventory"
  return sourceDebits

/-- The caps of the policy, where there is one. -/
def validatePolicy (sourceDebit : U256) : Except String Unit :=
  match allocator.capitalPolicy with
  | some policy => validateLiveProposal policy intent sourceDebit
  | none => pure ()

/-- The checks of an intent by itself. -/
def validateIntent : Except String U256 := do
  let sourceDebit ← orError (checkedAddU256 intent.destinationCredit intent.fee)
    "allocator proposal amount overflow"
  allocator.validateTransfer intent.economicAssetId intent.source intent.destination sourceDebit
    intent.destinationCredit intent.fee
  allocator.validatePolicy intent sourceDebit
  return sourceDebit

def proposal (sourceDebit : U256) : AllocationProposal :=
  ⟨intent.proposalId, intent.economicAssetId, intent.source, intent.destination, sourceDebit,
    intent.destinationCredit, intent.fee, allocator.mode = .fullLive⟩

/-- One round of the loop over the intents. -/
def planIntent (sourceDebits : Tally InventoryKey 256) (intent : AllocationIntent) :
    Except String (Tally InventoryKey 256 × AllocationProposal) := do
  let sourceDebit ← allocator.validateIntent intent
  let sourceDebits ← addKeyAmount sourceDebits intent.source sourceDebit
  let available ← snapshotAvailable inventory intent.source
  require (sourceDebits.total intent.source ≤ available)
    "allocator proposals overspend source inventory"
  require ((allocator.proposal intent sourceDebit).conserves = true)
    "allocator proposal does not conserve value"
  return (sourceDebits, allocator.proposal intent sourceDebit)

def planIntents (allocator : CapitalAllocator) (inventory : InventoryPortfolioSnapshot) :
    Tally InventoryKey 256 → List AllocationIntent → Except String (List AllocationProposal)
  | _, [] => .ok []
  | sourceDebits, intent :: intents => do
    let (sourceDebits, proposal) ← allocator.planIntent inventory sourceDebits intent
    let proposals ← allocator.planIntents inventory sourceDebits intents
    return proposal :: proposals

/-- What the mode asks of the policy. -/
def validateMode (inFlight : List InFlightTransfer) : Except String Unit :=
  if allocator.mode = .fullLive then validateLivePolicy allocator.capitalPolicy inFlight else pure ()

def planSnapshot (inFlight : List InFlightTransfer) (intents : List AllocationIntent) :
    Except String (List AllocationProposal) := do
  let _ ← allocator.auditSnapshot inventory
  inFlight.forM fun transfer =>
    allocator.validateTransfer transfer.economicAssetId transfer.source transfer.destination
      transfer.sourceDebit transfer.destinationCredit transfer.fee
  if allocator.mode = .disabled then return [] else
    allocator.validateMode inFlight
    let sourceDebits ← inFlightDebits inventory inFlight
    allocator.planIntents inventory sourceDebits intents

/-! ## The parts of a plan -/

variable {allocator : CapitalAllocator} {inventory : InventoryPortfolioSnapshot}
  {intent : AllocationIntent} {inFlight : List InFlightTransfer} {intents : List AllocationIntent}

section Parts

theorem snapshotAvailable_eq_ok {key : InventoryKey} {available : U256}
    (free : snapshotAvailable inventory key = .ok available) :
    ∃ observed, inventory.observed[key]? = some observed ∧
      inventory.reservedTotals.total key ≤ observed ∧
      available = observed - inventory.reservedTotals.total key := by
  simp only [snapshotAvailable, bind_eq_ok, orError_eq_ok, checkedSubU256] at free
  obtain ⟨observed, held, left⟩ := free
  split at left
  · exact ⟨observed, held, ‹_›, (Option.some.inj left).symm⟩
  · cases left

theorem addTo_eq_ok {κ : Type} [Ord κ] {overflow : String} {totals next : Tally κ 256} {key : κ}
    {amount : U256} :
    addTo overflow totals key amount = .ok next ↔
      (totals.total key).toNat + amount.toNat < 2 ^ 256 ∧
        next = totals.insert key (totals.total key + amount) := by
  simp only [addTo, bind_eq_ok, orError_eq_ok, pure_eq_ok, checkedAddU256]
  constructor
  · rintro ⟨total, sum, rfl⟩
    split at sum
    · cases sum
      exact ⟨‹_›, rfl⟩
    · cases sum
  · rintro ⟨fits, rfl⟩
    exact ⟨_, if_pos fits, rfl⟩

variable {destinationCredit fee sourceDebit : U256} {destination source : InventoryKey}
  {economicAssetId : String}

theorem conserves_eq_true :
    conserves sourceDebit destinationCredit fee = true ↔
      destinationCredit.toNat + fee.toNat < 2 ^ 256 ∧ destinationCredit + fee = sourceDebit := by
  unfold conserves checkedAddU256
  split <;> simp_all

theorem withinAsset_eq_true :
    allocator.withinAsset economicAssetId source destination = .ok true ↔
      allocator.economicAssets[source]? = some economicAssetId ∧
        allocator.economicAssets[destination]? = some economicAssetId := by
  unfold withinAsset mapping
  cases allocator.economicAssets[source]? with
  | none => simp [orError]
  | some mapped =>
    by_cases same : mapped = economicAssetId
    · cases allocator.economicAssets[destination]? <;> simp [orError, same]
    · simp [orError, same]

theorem validateTransfer_eq_ok :
    allocator.validateTransfer economicAssetId source destination sourceDebit destinationCredit fee =
        .ok () ↔
      source ≠ destination ∧
      (allocator.economicAssets[source]? = some economicAssetId ∧
        allocator.economicAssets[destination]? = some economicAssetId) ∧
      destinationCredit.toNat + fee.toNat < 2 ^ 256 ∧ destinationCredit + fee = sourceDebit := by
  simp only [validateTransfer, bind_eq_ok, require_eq_ok, exists_const, ← withinAsset_eq_true,
    ← conserves_eq_true]
  constructor
  · rintro ⟨differ, _, within, rfl, conserved⟩
    exact ⟨differ, within, conserved⟩
  · rintro ⟨differ, within, conserved⟩
    exact ⟨differ, true, within, rfl, conserved⟩

end Parts

/-! ## The intents -/

section Intents

/-- What an intent takes from its source. -/
def debitOf (intent : AllocationIntent) : U256 :=
  intent.destinationCredit + intent.fee

/-- An intent that passes every check that does not depend on the others. -/
structure Admitted (allocator : CapitalAllocator) (intent : AllocationIntent) : Prop where
  fits : intent.destinationCredit.toNat + intent.fee.toNat < 2 ^ 256
  moves : intent.source ≠ intent.destination
  within : allocator.economicAssets[intent.source]? = some intent.economicAssetId ∧
    allocator.economicAssets[intent.destination]? = some intent.economicAssetId
  approved : allocator.validatePolicy intent (debitOf intent) = .ok ()

theorem validateIntent_eq_ok {sourceDebit : U256} :
    allocator.validateIntent intent = .ok sourceDebit ↔
      Admitted allocator intent ∧ sourceDebit = debitOf intent := by
  simp only [validateIntent, bind_eq_ok, orError_eq_ok, pure_eq_ok, checkedAddU256]
  constructor
  · rintro ⟨debit, sum, _, transfer, _, policy, rfl⟩
    obtain ⟨moves, within, fits, rfl⟩ := validateTransfer_eq_ok.mp transfer
    exact ⟨⟨fits, moves, within, policy⟩, rfl⟩
  · rintro ⟨admitted, rfl⟩
    exact ⟨_, if_pos admitted.fits, (),
      validateTransfer_eq_ok.mpr ⟨admitted.moves, admitted.within, admitted.fits, rfl⟩, (),
      admitted.approved, rfl⟩

theorem Admitted.toNat_debitOf (admitted : Admitted allocator intent) :
    (debitOf intent).toNat = intent.destinationCredit.toNat + intent.fee.toNat := by
  rw [debitOf, BitVec.toNat_add]
  exact Nat.mod_eq_of_lt admitted.fits

/-- One round adds the debit of its intent to the total of the source, which stays within what is
free there. -/
theorem planIntent_eq_ok {debits next : Tally InventoryKey 256} {proposal : AllocationProposal} :
    allocator.planIntent inventory debits intent = .ok (next, proposal) ↔
      Admitted allocator intent ∧
      (∃ available, snapshotAvailable inventory intent.source = .ok available ∧
        (debits.total intent.source).toNat + (debitOf intent).toNat ≤ available.toNat) ∧
      next = debits.insert intent.source (debits.total intent.source + debitOf intent) ∧
      proposal = allocator.proposal intent (debitOf intent) := by
  simp only [planIntent, bind_eq_ok, require_eq_ok, pure_eq_ok, exists_const, validateIntent_eq_ok,
    addKeyAmount, addTo_eq_ok, Prod.mk.injEq]
  constructor
  · rintro ⟨_, ⟨admitted, rfl⟩, _, ⟨fits, rfl⟩, available, free, covered, -, rfl, rfl⟩
    rw [total_insert, if_pos rfl, BitVec.le_def, BitVec.toNat_add, Nat.mod_eq_of_lt fits]
      at covered
    exact ⟨admitted, ⟨available, free, covered⟩, rfl, rfl⟩
  · rintro ⟨admitted, ⟨available, free, covered⟩, rfl, rfl⟩
    have fits : (debits.total intent.source).toNat + (debitOf intent).toNat < 2 ^ 256 :=
      lt_of_le_of_lt covered available.isLt
    refine ⟨_, ⟨admitted, rfl⟩, _, ⟨fits, rfl⟩, available, free, ?_, ?_, rfl, rfl⟩
    · rwa [total_insert, if_pos rfl, BitVec.le_def, BitVec.toNat_add, Nat.mod_eq_of_lt fits]
    · exact conserves_eq_true.mpr ⟨admitted.fits, rfl⟩

/-- The debits of some intents by source. -/
def debits (intents : List AllocationIntent) : List (InventoryKey × U256) :=
  intents.map fun intent => (intent.source, debitOf intent)

variable {earlier : Tally InventoryKey 256}

theorem mem_debits_source {key : InventoryKey} :
    key ∈ (debits intents).map Prod.fst ↔ ∃ intent ∈ intents, intent.source = key := by
  simp [debits]

/-- The debits of all intents on top of earlier ones are within what is free at each source. -/
def Covered (inventory : InventoryPortfolioSnapshot) (earlier : Tally InventoryKey 256)
    (intents : List AllocationIntent) : Prop :=
  ∀ intent ∈ intents, ∃ available, snapshotAvailable inventory intent.source = .ok available ∧
    (earlier.total intent.source).toNat + sumOn intent.source (debits intents) ≤
      available.toNat

/-- A source that has been debited has as much left for the others as before for all. -/
theorem total_enter {source : InventoryKey} {amount : U256}
    (fits : (earlier.total source).toNat + amount.toNat < 2 ^ 256)
    (later : List (InventoryKey × U256)) (key : InventoryKey) :
    (total (earlier.insert source (earlier.total source + amount)) key).toNat + sumOn key later =
      (earlier.total key).toNat + sumOn key ((source, amount) :: later) := by
  rw [total_insert]
  by_cases same : source = key
  · subst same
    rw [if_pos rfl, BitVec.toNat_add, Nat.mod_eq_of_lt fits, sumOn_cons_self]
    omega
  · rw [if_neg same, sumOn_cons_of_ne _ _ same]

/-- The checks after each intent come to a check of all of them together. -/
theorem covered_cons :
    Covered inventory earlier (intent :: intents) ↔
      (∃ available, snapshotAvailable inventory intent.source = .ok available ∧
        (earlier.total intent.source).toNat + (debitOf intent).toNat ≤ available.toNat) ∧
      Covered inventory (earlier.insert intent.source
        (earlier.total intent.source + debitOf intent)) intents := by
  have own : sumOn intent.source (debits (intent :: intents)) =
      (debitOf intent).toNat + sumOn intent.source (debits intents) :=
    sumOn_cons_self _ _ _
  constructor
  · intro covered
    obtain ⟨available, free, head⟩ := covered intent List.mem_cons_self
    have first : (earlier.total intent.source).toNat + (debitOf intent).toNat ≤
        available.toNat := by omega
    refine ⟨⟨available, free, first⟩, fun other mem => ?_⟩
    rw [total_enter (first.trans_lt available.isLt)]
    exact covered other (List.mem_cons_of_mem _ mem)
  · rintro ⟨⟨available, free, first⟩, rest⟩ other mem
    have fits := first.trans_lt available.isLt
    rcases List.mem_cons.mp mem with rfl | mem
    · -- the last intent on the source has the total of all of them checked
      by_cases again : ∃ later ∈ intents, later.source = other.source
      · obtain ⟨later, mem, same⟩ := again
        obtain ⟨available', free', covered⟩ := rest later mem
        rw [total_enter fits, same] at covered
        rw [same] at free'
        exact ⟨available', free', covered⟩
      · have last := sumOn_eq_zero (mt mem_debits_source.mp again)
        exact ⟨available, free, by omega⟩
    · obtain ⟨available', free', covered⟩ := rest other mem
      rw [total_enter fits] at covered
      exact ⟨available', free', covered⟩

theorem planIntents_eq_ok {proposals : List AllocationProposal} :
    allocator.planIntents inventory earlier intents = .ok proposals ↔
      (∀ intent ∈ intents, Admitted allocator intent) ∧ Covered inventory earlier intents ∧
        proposals = intents.map fun intent => allocator.proposal intent (debitOf intent) := by
  induction intents generalizing earlier proposals with
  | nil => simp [planIntents, Covered, eq_comm]
  | cons intent intents ih =>
    simp only [planIntents, bind_eq_ok, pure_eq_ok, Prod.exists, planIntent_eq_ok, ih,
      List.forall_mem_cons, covered_cons, List.map_cons]
    constructor
    · rintro ⟨_, _, ⟨admitted, free, rfl, rfl⟩, _, ⟨others, covered, rfl⟩, rfl⟩
      exact ⟨⟨admitted, others⟩, ⟨free, covered⟩, rfl⟩
    · rintro ⟨⟨admitted, others⟩, ⟨free, covered⟩, rfl⟩
      exact ⟨_, _, ⟨admitted, free, rfl, rfl⟩, _, ⟨others, covered, rfl⟩, rfl⟩

theorem Covered.perm {permuted : List AllocationIntent} (perm : permuted.Perm intents)
    (covered : Covered inventory earlier intents) : Covered inventory earlier permuted := by
  intro intent mem
  have sums : sumOn intent.source (debits permuted) =
      sumOn intent.source (debits intents) :=
    sumOn_perm (perm.map _)
  rw [sums]
  exact covered intent (perm.mem_iff.mp mem)

end Intents

/-! ## The plan -/

section Plan

/-- The debits of the transfers in flight by source. -/
def transferDebits (inFlight : List InFlightTransfer) : List (InventoryKey × U256) :=
  inFlight.map fun transfer => (transfer.source, transfer.sourceDebit)

variable {earlier totals : Tally InventoryKey 256}

theorem foldlM_addKeyAmount (summed : inFlight.foldlM
      (fun debits transfer => addKeyAmount debits transfer.source transfer.sourceDebit) earlier =
        .ok totals) (key : InventoryKey) :
    (totals.total key).toNat = (earlier.total key).toNat + sumOn key (transferDebits inFlight) ∧
      (key ∈ totals ↔ key ∈ earlier ∨ ∃ transfer ∈ inFlight, transfer.source = key) := by
  induction inFlight generalizing earlier with
  | nil =>
    cases summed
    simp [transferDebits, sumOn]
  | cons transfer inFlight ih =>
    rw [List.foldlM_cons, bind_eq_ok] at summed
    obtain ⟨next, added, summed⟩ := summed
    obtain ⟨fits, rfl⟩ := addTo_eq_ok.mp added
    obtain ⟨total, held⟩ := ih summed
    rw [total, held, Std.TreeMap.mem_insert, Std.LawfulEqOrd.compare_eq_iff_eq]
    exact ⟨total_enter fits _ _, by simp [or_assoc, or_left_comm]⟩

theorem inFlightDebits_spec (summed : inFlightDebits inventory inFlight = .ok totals) :
    (∀ key, (totals.total key).toNat = sumOn key (transferDebits inFlight)) ∧
      ∀ transfer ∈ inFlight, ∃ available,
        snapshotAvailable inventory transfer.source = .ok available ∧
          (totals.total transfer.source).toNat ≤ available.toNat := by
  simp only [inFlightDebits, bind_eq_ok, pure_eq_ok, forM_eq_ok] at summed
  obtain ⟨_, folded, _, checked, rfl⟩ := summed
  refine ⟨fun key => ?_, fun transfer mem => ?_⟩
  · simpa [total] using (foldlM_addKeyAmount folded key).1
  · have stored := (foldlM_addKeyAmount folded transfer.source).2.mpr (Or.inr ⟨transfer, mem, rfl⟩)
    obtain ⟨debit, found⟩ := Option.isSome_iff_exists.mp
      (Std.TreeMap.mem_iff_isSome_getElem?.mp stored)
    obtain ⟨available, free, covered⟩ :=
      checked _ (Std.TreeMap.mem_toList_iff_getElem?_eq_some.mpr found)
    refine ⟨available, free, ?_⟩
    rw [total, found]
    exact require_eq_ok.mp covered

/-- A plan is accepted when the part that does not look at the intents is, and the intents are. -/
theorem planSnapshot_eq_ok (enabled : allocator.mode ≠ .disabled)
    {proposals : List AllocationProposal} :
    allocator.planSnapshot inventory inFlight intents = .ok proposals ↔
      allocator.planSnapshot inventory inFlight [] = .ok [] ∧
      ∃ earlier, inFlightDebits inventory inFlight = .ok earlier ∧
        allocator.planIntents inventory earlier intents = .ok proposals := by
  simp only [planSnapshot, bind_eq_ok, if_neg enabled]
  constructor
  · rintro ⟨audit, audited, _, valid, _, mode, earlier, summed, planned⟩
    exact ⟨⟨audit, audited, (), valid, (), mode, earlier, summed, rfl⟩, earlier, summed, planned⟩
  · rintro ⟨⟨audit, audited, _, valid, _, mode, -⟩, earlier, summed, planned⟩
    exact ⟨audit, audited, (), valid, (), mode, earlier, summed, planned⟩

/-- What is taken from every source by the transfers in flight and by some proposals. -/
def allDebits (inFlight : List InFlightTransfer) (proposals : List AllocationProposal) :
    List (InventoryKey × U256) :=
  transferDebits inFlight ++ proposals.map fun proposal => (proposal.source, proposal.sourceDebit)

theorem allDebits_proposals (allocator : CapitalAllocator) (inFlight : List InFlightTransfer)
    (intents : List AllocationIntent) :
    allDebits inFlight (intents.map fun intent => allocator.proposal intent (debitOf intent)) =
      transferDebits inFlight ++ debits intents := by
  simp [allDebits, debits, proposal]

/-- The total of a source stays within what is free there. -/
theorem sumOn_allDebits_le (summed : inFlightDebits inventory inFlight = .ok earlier)
    (covered : Covered inventory earlier intents) {key : InventoryKey}
    (source : key ∈ (transferDebits inFlight ++ debits intents).map Prod.fst) :
    ∃ observed, inventory.observed[key]? = some observed ∧
      sumOn key (transferDebits inFlight ++ debits intents) +
        (inventory.reservedTotals.total key).toNat ≤ observed.toNat := by
  obtain ⟨totals, inFlightCovered⟩ := inFlightDebits_spec summed
  have total : sumOn key (transferDebits inFlight ++ debits intents) =
      (earlier.total key).toNat + sumOn key (debits intents) := by
    rw [sumOn_append, totals]
  -- a source of an intent is checked with all debits, any other one with those in flight
  have free : ∃ available, snapshotAvailable inventory key = .ok available ∧
      (earlier.total key).toNat + sumOn key (debits intents) ≤ available.toNat := by
    by_cases planned : ∃ intent ∈ intents, intent.source = key
    · obtain ⟨intent, mem, rfl⟩ := planned
      exact covered intent mem
    · have nothing := sumOn_eq_zero (mt mem_debits_source.mp planned)
      rw [List.map_append, List.mem_append, mem_debits_source] at source
      obtain ⟨_, mem, rfl⟩ := List.mem_map.mp (source.resolve_right planned)
      obtain ⟨transfer, inFlightMem, rfl⟩ := List.mem_map.mp mem
      obtain ⟨available, free, within⟩ := inFlightCovered transfer inFlightMem
      exact ⟨available, free, by rw [nothing]; exact within⟩
  obtain ⟨available, free, within⟩ := free
  obtain ⟨observed, held, reserved, rfl⟩ := snapshotAvailable_eq_ok free
  rw [BitVec.toNat_sub_of_le reserved] at within
  refine ⟨observed, held, ?_⟩
  rw [BitVec.le_def] at reserved
  omega

/-- An accepted plan moves each amount within one economic asset, and with what is in flight takes
from no source more than is free there.  The order of the intents decides neither whether it is
accepted nor which proposal answers which intent. -/
theorem plan_within_available_in_any_order (allocator : CapitalAllocator)
    (inventory : InventoryPortfolioSnapshot) (inFlight : List InFlightTransfer)
    (intents : List AllocationIntent) (enabled : allocator.mode ≠ .disabled) :
    (∀ proposals, allocator.planSnapshot inventory inFlight intents = .ok proposals →
      (∀ proposal ∈ proposals,
        proposal.sourceDebit.toNat = proposal.destinationCredit.toNat + proposal.fee.toNat ∧
        allocator.economicAssets[proposal.source]? = some proposal.economicAssetId ∧
        allocator.economicAssets[proposal.destination]? = some proposal.economicAssetId) ∧
      ∀ key ∈ (allDebits inFlight proposals).map Prod.fst,
        ∃ observed, inventory.observed[key]? = some observed ∧
          sumOn key (allDebits inFlight proposals) +
            (inventory.reservedTotals.total key).toNat ≤ observed.toNat) ∧
    ∀ permuted : List AllocationIntent, permuted.Perm intents →
      ((∃ proposals, allocator.planSnapshot inventory inFlight permuted = .ok proposals) ↔
        ∃ proposals, allocator.planSnapshot inventory inFlight intents = .ok proposals) ∧
      ∀ proposals reordered, allocator.planSnapshot inventory inFlight intents = .ok proposals →
        allocator.planSnapshot inventory inFlight permuted = .ok reordered →
        proposals.length = intents.length ∧ reordered.length = permuted.length ∧
          (permuted.zip reordered).Perm (intents.zip proposals) := by
  refine ⟨?_, ?_⟩
  · intro proposals accepted
    obtain ⟨-, earlier, summed, planned⟩ := (planSnapshot_eq_ok enabled).mp accepted
    obtain ⟨admitted, covered, rfl⟩ := planIntents_eq_ok.mp planned
    rw [allDebits_proposals]
    refine ⟨fun proposal proposed => ?_, fun key source => sumOn_allDebits_le summed covered source⟩
    obtain ⟨intent, mem, rfl⟩ := List.mem_map.mp proposed
    exact ⟨(admitted intent mem).toNat_debitOf, (admitted intent mem).within⟩
  · intro permuted perm
    -- acceptance carries over along any permutation
    have carries {first second : List AllocationIntent} (perm : second.Perm first)
        (accepted : ∃ proposals,
          allocator.planSnapshot inventory inFlight first = .ok proposals) :
        ∃ proposals, allocator.planSnapshot inventory inFlight second = .ok proposals := by
      obtain ⟨proposals, accepted⟩ := accepted
      obtain ⟨rest, earlier, summed, planned⟩ := (planSnapshot_eq_ok enabled).mp accepted
      obtain ⟨admitted, covered, -⟩ := planIntents_eq_ok.mp planned
      refine ⟨_, (planSnapshot_eq_ok enabled).mpr ⟨rest, earlier, summed, planIntents_eq_ok.mpr
        ⟨fun intent mem => admitted intent (perm.mem_iff.mp mem), covered.perm perm, rfl⟩⟩⟩
    refine ⟨⟨carries perm.symm, carries perm⟩, ?_⟩
    intro proposals reordered accepted acceptedReordered
    obtain ⟨-, _, -, planned⟩ := (planSnapshot_eq_ok enabled).mp accepted
    obtain ⟨-, _, -, plannedReordered⟩ := (planSnapshot_eq_ok enabled).mp acceptedReordered
    obtain ⟨-, -, rfl⟩ := planIntents_eq_ok.mp planned
    obtain ⟨-, -, rfl⟩ := planIntents_eq_ok.mp plannedReordered
    refine ⟨List.length_map _, List.length_map _, ?_⟩
    have paired (list : List AllocationIntent) :
        list.zip (list.map fun intent => allocator.proposal intent (debitOf intent)) =
          list.map fun intent => (intent, allocator.proposal intent (debitOf intent)) := by
      induction list with
      | nil => rfl
      | cons intent list ih => simp [ih]
    rw [paired, paired]
    exact perm.map _

/-- The token on the exchange and in the wallet. -/
def exchangeToken : InventoryKey := ⟨.binanceAccount "spot", "WLD"⟩

def walletToken : InventoryKey := ⟨.evmWallet "eip155:480" "main", "wld"⟩

def tokenAllocator : CapitalAllocator where
  mode := .shadow
  economicAssets := (Std.TreeMap.empty.insert exchangeToken "WLD").insert walletToken "WLD"
  capitalPolicy := none

/-- A hundred on the exchange, twenty of them reserved. -/
def tokenSnapshot : InventoryPortfolioSnapshot where
  observed := Std.TreeMap.empty.insert exchangeToken 100
  reservedTotals := Std.TreeMap.empty.insert exchangeToken 20

def tokenIntent (proposalId : String) (credit : U256) : AllocationIntent :=
  ⟨proposalId, "WLD", exchangeToken, walletToken, credit, 1⟩

/-- Two transfers that share what is free, in either order. -/
theorem plan_of_two_transfers :
    tokenAllocator.mode ≠ .disabled ∧
    (∃ proposals, tokenAllocator.planSnapshot tokenSnapshot []
        [tokenIntent "first" 40, tokenIntent "second" 30] = .ok proposals ∧ proposals.length = 2) ∧
    ∃ proposals, tokenAllocator.planSnapshot tokenSnapshot []
      [tokenIntent "second" 30, tokenIntent "first" 40] = .ok proposals := by
  have enabled : tokenAllocator.mode ≠ .disabled := by decide
  have planned : tokenAllocator.planSnapshot tokenSnapshot []
      [tokenIntent "first" 40, tokenIntent "second" 30] =
        .ok [tokenAllocator.proposal (tokenIntent "first" 40) 41,
          tokenAllocator.proposal (tokenIntent "second" 30) 31] := by decide +kernel
  have order := (plan_within_available_in_any_order tokenAllocator tokenSnapshot []
    [tokenIntent "first" 40, tokenIntent "second" 30] enabled).2
    [tokenIntent "second" 30, tokenIntent "first" 40] (List.Perm.swap _ _ [])
  exact ⟨enabled, ⟨_, planned, rfl⟩, order.1.mpr ⟨_, planned⟩⟩

end Plan

end CapitalAllocator

end PolyBot.Portfolio
