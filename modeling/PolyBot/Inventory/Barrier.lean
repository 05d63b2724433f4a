import Mathlib.Data.List.Induction
import PolyBot.Inventory.Totals

/-!
# The settlement barrier

A submitted reservation waits for a new observation of every location it settles at.  The barrier
holds the generations of these locations at the moment it was marked; generations only grow, and an
update releases exactly the reservations whose barrier it passes.

* `isReconciled_iff_advanced`: a barrier is passed when every settlement location has advanced.
* `waiting_step`, `waiting_run`: what one call, and any run of calls, does to a waiting reservation.
* `settlement_barrier`: the life of a reservation in every history.
-/

namespace PolyBot.Inventory

open Proc InventoryReservations Std

variable {state next : InventoryReservations} {call : InventoryCall} {flag : Bool}
  {operationId : String} {reservation : InventoryReservation}

/-- Every location the request settles at has a later generation in `now` than in `before`. -/
def Advanced (before now : InventoryReservations) (request : ReservationRequest) : Prop :=
  ∀ location ∈ request.settlementLocations, ∃ old new,
    before.locationGenerations[location]? = some old ∧
    now.locationGenerations[location]? = some new ∧ old < new

/-! ## Generations -/

variable {location : InventoryLocation} {before : InventoryReservations}
  {request : ReservationRequest} {barrier : TreeMap InventoryLocation Nat}

theorem generations_grow (effect : Effect state call flag next) {old : Nat}
    (known : state.locationGenerations[location]? = some old) :
    ∃ new, next.locationGenerations[location]? = some new ∧ old ≤ new := by
  cases effect with
  | stale | marked => exact ⟨old, known, le_rfl⟩
  | @updated _ updated generation _ updates ahead generations =>
    rw [generations, TreeMap.getElem?_insert]
    split
    · rename_i same
      rw [Std.LawfulEqOrd.compare_eq_iff_eq] at same
      subst same
      exact ⟨generation, rfl, (ahead old known).le⟩
    · exact ⟨old, known, le_rfl⟩
  | reserved _ _ generations | released _ _ generations =>
    rw [generations]
    exact ⟨old, known, le_rfl⟩

theorem generations_grow_after (consistent : Consistent state) (call : InventoryCall) {old : Nat}
    (known : state.locationGenerations[location]? = some old) :
    ∃ new, (state.after call).locationGenerations[location]? = some new ∧ old ≤ new := by
  rcases exec_cases consistent call with ⟨flag, -, -, effect⟩ | ⟨-, same⟩
  · exact generations_grow effect known
  · rw [same]
    exact ⟨old, known, le_rfl⟩

theorem Advanced.after (advanced : Advanced before state request) (consistent : Consistent state)
    (call : InventoryCall) : Advanced before (state.after call) request := by
  intro location settles
  obtain ⟨old, mid, atStart, known, less⟩ := advanced location settles
  obtain ⟨new, known, grown⟩ := generations_grow_after consistent call known
  exact ⟨old, new, atStart, known, by omega⟩

/-! ## The barrier -/

theorem barrier_fold {locations : List InventoryLocation}
    {start : TreeMap InventoryLocation Nat}
    (collected : locations.foldlM (fun (generations : TreeMap InventoryLocation Nat)
        location => do
      let generation ← orError state.locationGenerations[location]?
        (InventoryError.failed "settlement inventory location has no generation")
      pure (generations.insert location generation)) start = .ok barrier)
    (location : InventoryLocation) :
    (location ∈ locations → ∃ generation,
      state.locationGenerations[location]? = some generation ∧
      barrier[location]? = some generation) ∧
    (location ∉ locations → barrier[location]? = start[location]?) := by
  induction locations generalizing start with
  | nil =>
    rw [List.foldlM_nil, pure_eq_ok] at collected
    subst collected
    exact ⟨fun mem => absurd mem List.not_mem_nil, fun _ => rfl⟩
  | cons head tail ih =>
    simp only [List.foldlM_cons, bind_eq_ok, orError_eq_ok, pure_eq_ok] at collected
    obtain ⟨_, ⟨generation, known, rfl⟩, rest⟩ := collected
    obtain ⟨inside, outside⟩ := ih rest
    by_cases later : location ∈ tail
    · exact ⟨fun _ => inside later, fun absent => absurd (List.mem_cons_of_mem _ later) absent⟩
    · have entered := outside later
      rw [TreeMap.getElem?_insert] at entered
      by_cases same : head = location
      · subst same
        rw [if_pos Std.compare_self] at entered
        exact ⟨fun _ => ⟨generation, known, entered⟩,
          fun absent => absurd List.mem_cons_self absent⟩
      · rw [if_neg (by rwa [Std.LawfulEqOrd.compare_eq_iff_eq])] at entered
        refine ⟨?_, fun _ => entered⟩
        intro mem
        rcases List.mem_cons.mp mem with rfl | mem
        · exact absurd rfl same
        · exact absurd mem later

/-- The barrier holds the generations of the settlement locations and nothing else. -/
theorem barrier_lookup {locations : TreeSet InventoryLocation}
    (waits : state.barrier locations = .ok barrier) {generation : Nat} :
    barrier[location]? = some generation ↔
      location ∈ locations ∧ state.locationGenerations[location]? = some generation := by
  obtain ⟨inside, outside⟩ := barrier_fold waits location
  rw [TreeSet.mem_toList] at inside outside
  by_cases mem : location ∈ locations
  · obtain ⟨kept, known, entered⟩ := inside mem
    rw [known, entered]
    simp [mem]
  · rw [outside mem]
    simp [mem]

theorem isReconciled_iff_advanced (waits : before.barrier request.settlementLocations = .ok barrier) :
    isReconciled state.locationGenerations
      ⟨request, .pendingSettlement barrier⟩ = true ↔ Advanced before state request := by
  simp only [isReconciled, passed, List.all_eq_true]
  constructor
  · intro passed location settles
    obtain ⟨inside, -⟩ := barrier_fold waits location
    obtain ⟨old, known, entered⟩ := inside (TreeSet.mem_toList.mpr settles)
    have later := passed (location, old)
      (TreeMap.mem_toList_iff_getElem?_eq_some.mpr entered)
    rcases now : state.locationGenerations[location]? with _ | new
    · simp [now] at later
    · exact ⟨old, new, known, rfl, by simpa [now] using later⟩
  · rintro advanced ⟨location, generation⟩ entry
    have entered := TreeMap.mem_toList_iff_getElem?_eq_some.mp entry
    obtain ⟨settles, known⟩ := (barrier_lookup waits).mp entered
    obtain ⟨old, new, atStart, now, less⟩ := advanced location settles
    rw [known, Option.some.injEq] at atStart
    simp [now, atStart, less]

/-! ## One call -/

section Restated

variable {stored : InventoryReservation} {step : ReservationState}

theorem reservation_restate_self :
    ({ state with reservations := state.reservations.put { stored with state := step } } :
      InventoryReservations).reservation stored.operationId =
        some { stored with state := step } :=
  KeyedMap.get?_put_self state.reservations { stored with state := step }

theorem reservation_restate_of_ne (ne : stored.operationId ≠ operationId) :
    ({ state with reservations := state.reservations.put { stored with state := step } } :
      InventoryReservations).reservation operationId = state.reservation operationId :=
  KeyedMap.get?_put_of_ne (v := { stored with state := step }) state.reservations ne

end Restated

/-- A new reservation has a new id. -/
theorem reservation_of_reserved (fresh : state.reservation request.operationId = none)
    (reservations : next.reservations = state.reservations.put ⟨request, .active⟩)
    (held : state.reservation operationId = some reservation) :
    next.reservation operationId = some reservation := by
  have ne : request.operationId ≠ operationId := by
    rintro rfl
    rw [held] at fresh
    cases fresh
  rw [InventoryReservations.reservation, reservations]
  exact (KeyedMap.get?_put_of_ne (v := ⟨request, .active⟩) _ ne).trans held

theorem filter_not_isReconciled {generations : TreeMap InventoryLocation Nat} :
    (some reservation).filter (!isReconciled generations ·) =
      if isReconciled generations reservation then none
      else some reservation := by
  cases passed : isReconciled generations reservation <;>
    simp [Option.filter, passed]

/-- What a call does to a reservation that waits behind its barrier. -/
theorem waiting_effect (effect : Effect state call flag next)
    (held : state.reservation operationId = some reservation)
    (pending : reservation.state.isActive = false)
    (behind : isReconciled state.locationGenerations reservation = false) :
    next.reservation operationId =
        (if isReconciled next.locationGenerations reservation then none
          else some reservation) ∧
      (isReconciled next.locationGenerations reservation = true →
        call.update?.isSome = true ∧ flag = true) := by
  -- The calls on one id are about an active reservation, so about another id.
  have another : ∀ {other : String} {stored : InventoryReservation},
      state.reservation other = some stored → stored.state.isActive = true →
      other ≠ operationId := by
    rintro other stored found active rfl
    rw [held, Option.some.injEq] at found
    rw [found, active] at pending
    cases pending
  cases effect with
  | stale =>
    rw [behind]
    exact ⟨held, fun passed => nomatch passed⟩
  | updated updates _ _ reservations =>
    rw [reservations, held, updates, filter_not_isReconciled]
    exact ⟨rfl, fun _ => ⟨rfl, rfl⟩⟩
  | reserved _ fresh generations reservations =>
    rw [generations, behind]
    exact ⟨reservation_of_reserved fresh reservations held, fun passed => nomatch passed⟩
  | released stored active generations reservations =>
    rw [reservations, if_neg (another stored active).symm, generations, behind]
    exact ⟨held, fun passed => nomatch passed⟩
  | marked stored active =>
    have key := KeyedMap.key_of_get? stored
    rw [behind, reservation_restate_of_ne (key.trans_ne (another stored active))]
    exact ⟨held, fun passed => nomatch passed⟩

/-- What a call does to an active reservation. -/
theorem active_effect (effect : Effect state call flag next)
    (held : state.reservation operationId = some reservation)
    (active : reservation.state.isActive = true) :
    next.reservation operationId = none ∧ call = .releaseUnsubmitted operationId ∨
      call ≠ .releaseUnsubmitted operationId ∧ ∃ left,
        next.reservation operationId = some left ∧ left.request = reservation.request := by
  cases effect with
  | stale updates =>
    refine Or.inr ⟨?_, reservation, held, rfl⟩
    rintro rfl
    cases updates
  | @updated _ location generation _ updates _ _ reservations =>
    refine Or.inr ⟨?_, reservation, ?_, rfl⟩
    · rintro rfl
      cases updates
    · have waits : isReconciled next.locationGenerations reservation =
          false := by
        unfold isReconciled
        split
        · rfl
        · rename_i pending
          rw [pending] at active
          cases active
      rw [reservations, held, filter_not_isReconciled, waits]
      rfl
  | reserved _ fresh _ reservations =>
    exact Or.inr ⟨nofun, reservation, reservation_of_reserved fresh reservations held, rfl⟩
  | @released other _ _ _ _ _ reservations =>
    by_cases same : operationId = other
    · rw [reservations, if_pos same, same]
      exact Or.inl ⟨rfl, rfl⟩
    · rw [reservations, if_neg same]
      refine Or.inr ⟨?_, reservation, held, rfl⟩
      intro call
      cases call
      exact same rfl
  | @marked other stored barrier found _ _ =>
    refine Or.inr ⟨nofun, ?_⟩
    have key : stored.operationId = other := KeyedMap.key_of_get? found
    by_cases same : other = operationId
    · subst same
      rw [held, Option.some.injEq] at found
      refine ⟨{ stored with state := .pendingSettlement barrier }, ?_, by rw [found]⟩
      rw [← key]
      exact reservation_restate_self
    · rw [reservation_restate_of_ne (key.trans_ne same)]
      exact ⟨reservation, held, rfl⟩

/-! ## Runs -/

section Held

variable (consistent : Consistent state)
  (held : state.reservation operationId = some reservation)

include consistent held

/-- What any call does to a reservation that waits behind its barrier. -/
theorem waiting_step (call : InventoryCall)
    (pending : reservation.state.isActive = false)
    (behind : isReconciled state.locationGenerations reservation = false) :
    (state.after call).reservation operationId =
        (if isReconciled (state.after call).locationGenerations reservation
          then none else some reservation) ∧
      (isReconciled (state.after call).locationGenerations
          reservation = true →
        call.update?.isSome = true ∧ (call.run.exec state).1 = .ok true) := by
  rcases exec_cases consistent call with ⟨flag, ended, -, effect⟩ | ⟨-, same⟩
  · rw [ended]
    obtain ⟨left, released⟩ := waiting_effect effect held pending behind
    refine ⟨left, fun passed => ?_⟩
    obtain ⟨updates, rfl⟩ := released passed
    exact ⟨updates, rfl⟩
  · rw [same, behind, held]
    exact ⟨rfl, fun passed => nomatch passed⟩

theorem releaseUnsubmitted_succeeds
    (active : reservation.state.isActive = true) :
    ((InventoryCall.releaseUnsubmitted operationId).run.exec state).1 = .ok true := by
  have ends : wp (InventoryCall.releaseUnsubmitted operationId).run (fun flag _ => flag = true)
      (fun _ _ => False) state := by
    have found : orError (state.reservations.get? operationId)
        (unknownReservation operationId) = .ok reservation :=
      orError_eq_ok.mpr held
    simp only [InventoryCall.run, releaseUnsubmitted, wp_bind, wp_check,
      wp_get, wp_pure, found]
    refine ⟨?_, fun _ failed => by cases failed⟩
    rintro _ ⟨⟩
    rw [require_of active]
    refine ⟨fun _ _ => ?_, fun _ failed => by cases failed⟩
    exact wp_mono (wp_removeReservation consistent) (fun _ _ _ => trivial)
      (fun _ _ failed => failed)
  exact exec_of_wp ends

/-- Only its release ends an active reservation; any other call keeps the request. -/
theorem active_step (call : InventoryCall)
    (active : reservation.state.isActive = true) :
    ((state.after call).reservation operationId = none ↔
        call = .releaseUnsubmitted operationId) ∧
      ∀ left, (state.after call).reservation operationId = some left →
        left.request = reservation.request := by
  rcases exec_cases consistent call with ⟨flag, -, -, effect⟩ | ⟨⟨error, ended⟩, same⟩
  · rcases active_effect effect held active with ⟨gone, released⟩ | ⟨other, left, there, request⟩
    · rw [gone]
      exact ⟨iff_of_true rfl released, fun _ left => nomatch left⟩
    · rw [there]
      refine ⟨iff_of_false nofun other, ?_⟩
      rintro _ ⟨⟩
      exact request
  · have other : call ≠ .releaseUnsubmitted operationId := by
      rintro rfl
      rw [releaseUnsubmitted_succeeds consistent held active] at ended
      cases ended
    rw [same, held]
    refine ⟨iff_of_false nofun other, ?_⟩
    rintro _ ⟨⟩
    rfl

theorem Consistent.availability {claim : InventoryClaim}
    (mem : claim ∈ reservation.request.claims) {available : U256}
    (left : state.available claim.key = .ok available) :
    ∃ observed, state.observed[claim.key]? = some observed ∧
      available.toNat + claim.amount.toNat ≤ observed.toNat := by
  simp only [InventoryReservations.available, bind_eq_ok, orError_eq_ok] at left
  obtain ⟨observed, seen, left⟩ := left
  refine ⟨observed, seen, ?_⟩
  have live : claim.entry ∈ state.liveClaims :=
    List.mem_flatMap.mpr ⟨reservation, KeyedMap.mem_values_of_get? held, List.mem_map_of_mem mem⟩
  have covers : claim.amount.toNat ≤ (state.reserved claim.key).toNat :=
    consistent.exact.le_total live
  unfold checkedSubU256 at left
  split at left
  · rename_i below
    cases left
    rw [BitVec.toNat_sub_of_le below]
    rw [BitVec.le_def] at below
    omega
  · cases left

/-- A successful mark sets the barrier. -/
theorem marked_reservation
    (marked : ((InventoryCall.markPendingSettlement operationId).run.exec state).1 = .ok true) :
    ∃ barrier, state.barrier reservation.request.settlementLocations = .ok barrier ∧
      (state.after (.markPendingSettlement operationId)).locationGenerations =
        state.locationGenerations ∧
      (state.after (.markPendingSettlement operationId)).reservation operationId =
        some ⟨reservation.request, .pendingSettlement barrier⟩ := by
  rcases exec_cases consistent (.markPendingSettlement operationId) with
    ⟨flag, -, -, effect⟩ | ⟨⟨error, ended⟩, -⟩
  · generalize state.after (.markPendingSettlement operationId) = next at effect ⊢
    cases effect with
    | stale updates | updated updates => cases updates
    | @marked _ stored barrier found _ waits =>
      have key : stored.operationId = operationId := KeyedMap.key_of_get? found
      rw [held, Option.some.injEq] at found
      subst found
      refine ⟨barrier, waits, rfl, ?_⟩
      rw [← key]
      exact reservation_restate_self
  · rw [ended] at marked
    cases marked

end Held

theorem afterAll_concat (state : InventoryReservations) (calls : List InventoryCall)
    (call : InventoryCall) :
    state.afterAll (calls ++ [call]) = (state.afterAll calls).after call := by
  simp [afterAll]

/-- As long as a settlement location has not advanced, the reservation is there. -/
theorem waiting_run (waits : before.barrier request.settlementLocations = .ok barrier)
    (consistent : Consistent state)
    (held : state.reservation operationId = some ⟨request, .pendingSettlement barrier⟩)
    (calls : List InventoryCall) (behind : ¬Advanced before (state.afterAll calls) request) :
    (state.afterAll calls).reservation operationId =
      some ⟨request, .pendingSettlement barrier⟩ := by
  -- From the back: what is behind after the last call was behind before it.
  induction calls using List.reverseRecOn with
  | nil => exact held
  | append_singleton calls call ih =>
    rw [afterAll_concat] at behind ⊢
    have reached := consistent.afterAll calls
    have earlier : ¬Advanced before (state.afterAll calls) request :=
      fun advanced => behind (advanced.after reached call)
    have there := ih earlier
    obtain ⟨left, -⟩ := waiting_step reached there call rfl
      (Bool.eq_false_iff.mpr (fun passed => earlier ((isReconciled_iff_advanced waits).mp passed)))
    have still := Bool.eq_false_iff.mpr
      (fun passed => behind ((isReconciled_iff_advanced waits).mp passed))
    rw [left, still]
    rfl

/-! ## The main result -/

/-- Right after the mark no settlement location has advanced; there is one. -/
theorem not_advanced_of_same (admitted : AdmittedRequest request)
    (same : next.locationGenerations = state.locationGenerations) :
    ¬Advanced state next request := by
  intro advanced
  obtain ⟨claim, mem⟩ := List.exists_mem_of_ne_nil _ admitted.claimed
  obtain ⟨old, new, before, now, less⟩ := advanced _ (admitted.located claim mem)
  rw [same, before, Option.some.injEq] at now
  omega

theorem settlement_barrier (history : List InventoryCall) {operationId : String}
    {reservation : InventoryReservation}
    (held : (stateAfter history).reservation operationId = some reservation) :
    let state := stateAfter history
    let mark := InventoryCall.markPendingSettlement operationId
    (∀ claim ∈ reservation.request.claims, ∀ available, state.available claim.key = .ok available →
        ∃ observed, state.observed[claim.key]? = some observed ∧
          available.toNat + claim.amount.toNat ≤ observed.toNat) ∧
      (reservation.state.isActive = true → ∀ call,
        ((state.after call).reservation operationId = none ↔
          call = .releaseUnsubmitted operationId) ∧
        ∀ left, (state.after call).reservation operationId = some left →
          left.request = reservation.request) ∧
      ((mark.run.exec state).1 = .ok true →
        ¬Advanced state (state.after mark) reservation.request ∧
        ∀ calls, ¬Advanced state ((state.after mark).afterAll calls) reservation.request →
          let now := (state.after mark).afterAll calls
          (∃ barrier, now.reservation operationId =
            some ⟨reservation.request, .pendingSettlement barrier⟩) ∧
          ∀ call,
            ((now.after call).reservation operationId = none ↔
              Advanced state (now.after call) reservation.request) ∧
            ((now.after call).reservation operationId = none →
              call.update?.isSome = true ∧ (call.run.exec now).1 = .ok true) ∧
            ∀ left, (now.after call).reservation operationId = some left →
              left.request = reservation.request) := by
  intro state mark
  have consistent : Consistent state := consistent_stateAfter history
  refine ⟨fun claim mem available => consistent.availability held mem,
    fun active call => active_step consistent held call active, ?_⟩
  intro marked
  obtain ⟨barrier, waits, generations, there⟩ := marked_reservation consistent held marked
  have admitted := consistent.admitted reservation (KeyedMap.mem_values_of_get? held)
  refine ⟨not_advanced_of_same admitted generations, ?_⟩
  intro calls behind now
  have reached : Consistent now := (consistent.after mark).afterAll calls
  have waiting := waiting_run waits (consistent.after mark) there calls behind
  have unpassed := Bool.eq_false_iff.mpr
    (fun passed => behind ((isReconciled_iff_advanced waits).mp passed))
  refine ⟨⟨barrier, waiting⟩, ?_⟩
  intro call
  obtain ⟨left, updates⟩ := waiting_step reached waiting call rfl unpassed
  rw [left, ← isReconciled_iff_advanced waits]
  split
  · rename_i passed
    exact ⟨iff_of_true rfl passed, fun _ => updates passed, fun _ gone => nomatch gone⟩
  · rename_i still
    refine ⟨iff_of_false (fun gone => nomatch gone) still, fun gone => (nomatch gone), ?_⟩
    rintro _ ⟨⟩
    rfl

/-! ## A reservation that settles at two locations -/

def wallet : InventoryLocation := .evmWallet "eip155:480" "eip155:480:wallet:primary"

/-- A trade that sells on the account and settles on the account and the wallet. -/
def tradeRequest : ReservationRequest :=
  ⟨"trade-1", .tradePrimary, [⟨spotUsdc, 60⟩], {spot, wallet}⟩

def tradeHistory : List InventoryCall :=
  [.updateLocation spot 1 [("USDC", 100)], .updateLocation wallet 4 [("WLD", 7)],
    .reserve tradeRequest]

/-- The update of the account, and then that of the wallet. -/
def accountUpdate : InventoryCall := .updateLocation spot 2 [("USDC", 40)]

def walletUpdate : InventoryCall := .updateLocationAssets wallet 5 [("WLD", 9)]

def markedTrade : InventoryReservations :=
  (stateAfter tradeHistory).after (.markPendingSettlement "trade-1")

/-- The account advances first, and its update does not release the trade. -/
theorem trade_waits_for_both_locations :
    ((markedTrade.afterAll [accountUpdate]).reservation "trade-1").isSome = true ∧
      (((markedTrade.afterAll [accountUpdate]).after walletUpdate).reservation
        "trade-1").isNone = true ∧
      walletUpdate.update?.isSome = true := by
  have reserved : ((stateAfter tradeHistory).reservation "trade-1").any
      (fun reservation => wallet ∈ reservation.request.settlementLocations) = true := by
    decide +kernel
  obtain ⟨reservation, held, settles⟩ := (Option.any_eq_true _ _).mp reserved
  obtain ⟨-, -, life⟩ := settlement_barrier tradeHistory held
  obtain ⟨-, waits⟩ := life (by decide +kernel)
  -- The wallet is still at generation four.
  have behind : ¬Advanced (stateAfter tradeHistory) (markedTrade.afterAll [accountUpdate])
      reservation.request := by
    intro advanced
    obtain ⟨old, new, before, now, less⟩ := advanced wallet (by simpa using settles)
    have first : (stateAfter tradeHistory).locationGenerations[wallet]? = some 4 := by
      decide +kernel
    have second : (markedTrade.afterAll [accountUpdate]).locationGenerations[wallet]? =
        some 4 := by
      decide +kernel
    rw [first, Option.some.injEq] at before
    rw [second, Option.some.injEq] at now
    omega
  obtain ⟨⟨barrier, there⟩, ends⟩ := waits [accountUpdate] behind
  have gone : (((markedTrade.afterAll [accountUpdate]).after walletUpdate).reservation
      "trade-1").isNone = true := by
    decide +kernel
  refine ⟨?_, gone, ((ends walletUpdate).2.1 (Option.isNone_iff_eq_none.mp gone)).1⟩
  exact Option.isSome_iff_exists.mpr ⟨_, there⟩

end PolyBot.Inventory
