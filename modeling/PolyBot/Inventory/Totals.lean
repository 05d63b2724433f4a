import PolyBot.Inventory.Reservations

/-!
# The reserved totals are exact

Between two calls the total of every key is the sum of the claims of the live reservations on it,
and every live reservation was admitted by `validate_request`.  From such a state a call fails and
changes nothing, or it has one of the effects of `Effect` and keeps the state so.

* `Consistent`: the invariant between two calls.
* `specified`, `exec_cases`: what every call can do, from the specifications of the methods.
* `totals_exact_and_calls_atomic`: the totals, the failures and the coverage of a new reservation
  in every reachable state.
-/

namespace PolyBot.Inventory

open Proc KeyedMap InventoryClaim
open List hiding after

@[simp]
theorem wp_check {α : Type} (result : Except InventoryError α)
    {Q : α → InventoryReservations → Prop} {E : InventoryFault → InventoryReservations → Prop} :
    wp (check result) Q E state ↔
      (∀ a, result = .ok a → Q a state) ∧ (∀ e, result = .error e → E (.returned e) state) := by
  cases result <;> simp [check]

/-! ## What an admitted request looks like -/

structure AdmittedRequest (request : ReservationRequest) : Prop where
  claimed : request.claims ≠ []
  settles : request.settlementLocations.isEmpty = false
  positive : ∀ claim ∈ request.claims, claim.amount ≠ 0
  distinct : (request.claims.map key).Nodup
  located : ∀ claim ∈ request.claims, claim.key.location ∈ request.settlementLocations

variable {keys next : Std.TreeSet InventoryKey} {locations : Std.TreeSet InventoryLocation}

theorem validateClaim_eq_ok {claim : InventoryClaim}
    (accepted : validateClaim locations keys claim = .ok next) :
    claim.amount ≠ 0 ∧ claim.key ∉ keys ∧ claim.key.location ∈ locations ∧
      next = keys.insert claim.key := by
  simp only [validateClaim, bind_eq_ok, require_eq_ok, pure_eq_ok] at accepted
  obtain ⟨-, -, -, positive, -, fresh, -, located, rfl⟩ := accepted
  exact ⟨positive, fresh, located, rfl⟩

theorem validateClaims_eq_ok {claims : List InventoryClaim}
    (accepted : claims.foldlM (validateClaim locations) keys = .ok next) :
    (∀ claim ∈ claims, claim.amount ≠ 0) ∧ (claims.map key).Nodup ∧
      (∀ claim ∈ claims, claim.key ∉ keys) ∧
      (∀ claim ∈ claims, claim.key.location ∈ locations) := by
  induction claims generalizing keys with
  | nil => simp
  | cons claim claims ih =>
    rw [foldlM_cons, bind_eq_ok] at accepted
    obtain ⟨mid, first, rest⟩ := accepted
    obtain ⟨positive, fresh, located, rfl⟩ := validateClaim_eq_ok first
    obtain ⟨positives, distinct, freshs, locateds⟩ := ih rest
    -- A later claim is not among the keys, and so neither an earlier key nor this one.
    have later : ∀ other ∈ claims, claim.key ≠ other.key ∧ other.key ∉ keys := by
      intro other mem
      have absent := freshs other mem
      rw [Std.TreeSet.mem_insert, not_or, Std.LawfulEqOrd.compare_eq_iff_eq] at absent
      exact absent
    refine ⟨forall_mem_cons.mpr ⟨positive, positives⟩, ?_,
      forall_mem_cons.mpr ⟨fresh, fun other mem => (later other mem).2⟩,
      forall_mem_cons.mpr ⟨located, locateds⟩⟩
    rw [map_cons, nodup_cons]
    refine ⟨?_, distinct⟩
    intro mem
    obtain ⟨other, mem, same⟩ := mem_map.mp mem
    exact (later other mem).1 same.symm

variable {request : ReservationRequest}

theorem validateRequest_eq_ok (accepted : validateRequest request = .ok ()) :
    AdmittedRequest request := by
  simp only [validateRequest, bind_eq_ok, require_eq_ok, pure_eq_ok] at accepted
  obtain ⟨-, -, -, claimed, -, settles, keys, claims, -⟩ := accepted
  obtain ⟨positive, distinct, -, located⟩ := validateClaims_eq_ok claims
  exact ⟨claimed, settles, positive, distinct, located⟩

/-! ## The invariant -/

def InventoryClaim.entry (claim : InventoryClaim) : InventoryKey × U256 :=
  (claim.key, claim.amount)

def InventoryReservation.entries (reservation : InventoryReservation) :
    List (InventoryKey × U256) :=
  reservation.request.claims.map entry

/-- The claims of a map of reservations. -/
def claimsOf (reservations : KeyedMap InventoryReservation.operationId) :
    List (InventoryKey × U256) :=
  reservations.values.flatMap InventoryReservation.entries

/-- The claims of the live reservations. -/
def InventoryReservations.liveClaims (state : InventoryReservations) :
    List (InventoryKey × U256) :=
  claimsOf state.reservations

/-- The sum of the live claims on a key. -/
def InventoryReservations.claimed (state : InventoryReservations) (key : InventoryKey) : Nat :=
  Tally.sumOn key state.liveClaims

structure Consistent (state : InventoryReservations) : Prop where
  exact : Tally.Exact state.reservedTotals state.liveClaims
  admitted : ∀ reservation ∈ state.reservations.values, AdmittedRequest reservation.request

theorem consistent_default : Consistent InventoryReservations.default where
  exact := by
    rw [InventoryReservations.liveClaims, InventoryReservations.default, claimsOf,
      values_empty]
    exact Tally.exact_empty
  admitted := by simp [InventoryReservations.default]

section Claims

variable {reservations : KeyedMap InventoryReservation.operationId}
  {reservation : InventoryReservation} {operationId : String}

theorem claimsOf_perm_erase (stored : reservations.get? operationId = some reservation) :
    (claimsOf reservations).Perm
      (reservation.entries ++ claimsOf (reservations.erase operationId)) := by
  have perm := (values_perm_erase stored).flatMap_right InventoryReservation.entries
  rwa [flatMap_cons] at perm

theorem claimsOf_put_perm :
    (claimsOf (reservations.put reservation)).Perm
      (reservation.entries ++ claimsOf (reservations.erase reservation.operationId)) := by
  have perm := (reservations.values_put_perm reservation).flatMap_right
    InventoryReservation.entries
  rwa [flatMap_cons] at perm

theorem claimsOf_erase_perm_of_absent (absent : reservations.get? operationId = none) :
    (claimsOf (reservations.erase operationId)).Perm (claimsOf reservations) :=
  (values_erase_perm_of_absent absent).flatMap_right _

end Claims

/-! ## Removing reservations -/

variable {state : InventoryReservations}

namespace InventoryReservations

/-- The state of a removal in which the claims `rest` are still to be released. -/
structure Releasing (start : InventoryReservations)
    (left : KeyedMap InventoryReservation.operationId) (rest : List InventoryClaim)
    (state : InventoryReservations) : Prop where
  observed : state.observed = start.observed
  generations : state.locationGenerations = start.locationGenerations
  reservations : state.reservations = left
  exact : Tally.Exact state.reservedTotals (rest.map entry ++ claimsOf left)
  positive : ∀ claim ∈ rest, claim.amount ≠ 0

variable {claim : InventoryClaim} {rest : List InventoryClaim} {start : InventoryReservations}

theorem wp_releaseClaim {reservations : KeyedMap InventoryReservation.operationId}
    (releasing : Releasing start reservations (claim :: rest) state) :
    wp (releaseClaim claim) (fun _ => Releasing start reservations rest) (fun _ _ => False)
      state := by
  have positive := releasing.positive claim mem_cons_self
  obtain ⟨held, stored, covered, exact⟩ := Tally.Exact.withdraw releasing.exact positive
  simp only [releaseClaim, wp_bind, wp_get, stored, wp_orFail, wp_modify, checkedSubU256,
    if_pos covered, Option.some.injEq, reduceCtorEq, false_implies, and_true]
  rintro left rfl
  exact ⟨releasing.observed, releasing.generations, releasing.reservations, exact,
    fun other mem => releasing.positive other (mem_cons_of_mem _ mem)⟩

variable {operationId : String} {totals : Tally InventoryKey 256} {done : List InventoryClaim}

/-- Removing a live reservation drops it and its claims and nothing else. -/
theorem wp_removeReservation (consistent : Consistent state) :
    wp (removeReservation operationId)
      (fun _ next => Consistent next ∧ next.observed = state.observed ∧
        next.locationGenerations = state.locationGenerations ∧
        ∀ other, next.reservations.get? other =
          if other = operationId then none else state.reservations.get? other)
      (fun _ _ => False) state := by
  simp only [removeReservation, wp_bind, wp_get]
  rcases stored : state.reservations.get? operationId with _ | reservation
  · refine ⟨consistent, rfl, rfl, ?_⟩
    intro other
    split
    · rename_i same
      rw [same, stored]
    · rfl
  have mem := mem_values_of_get? stored
  simp only [wp_bind, wp_modify]
  have start : Releasing state (state.reservations.erase operationId) reservation.request.claims
      { state with reservations := state.reservations.erase operationId } :=
    ⟨rfl, rfl, rfl, consistent.exact.perm (claimsOf_perm_erase stored),
      (consistent.admitted reservation mem).positive⟩
  refine wp_mono (wp_forM (Releasing state (state.reservations.erase operationId))
    (fun _ _ _ releasing => wp_releaseClaim releasing) start) ?_ (fun _ _ failed => failed)
  intro _ next done
  refine ⟨⟨?_, ?_⟩, done.observed, done.generations, ?_⟩
  · have exact := done.exact
    rw [← done.reservations] at exact
    exact exact
  · intro other live
    rw [done.reservations, mem_values_erase] at live
    exact consistent.admitted other live.2
  · intro other
    rw [done.reservations]
    split
    · rename_i same
      rw [same, get?_erase_self]
    · rename_i ne
      rw [get?_erase_of_ne _ (Ne.symm ne)]

/-- The state of a release of `reconciled` in which `rest` are still to be removed. -/
structure Reconciling (start : InventoryReservations) (reconciled rest : List String)
    (state : InventoryReservations) : Prop where
  consistent : Consistent state
  observed : state.observed = start.observed
  generations : state.locationGenerations = start.locationGenerations
  listed : ∀ operationId ∈ rest, operationId ∈ reconciled
  kept : ∀ operationId, operationId ∉ reconciled →
    state.reservations.get? operationId = start.reservations.get? operationId
  dropped : ∀ operationId ∈ reconciled, operationId ∉ rest →
    state.reservations.get? operationId = none

theorem wp_removeReservation_reconciling {reconciled : List String} {rest : List String}
    (reconciling : Reconciling start reconciled (operationId :: rest) state) :
    wp (removeReservation operationId) (fun _ => Reconciling start reconciled rest)
      (fun _ _ => False) state := by
  refine wp_mono (wp_removeReservation reconciling.consistent) ?_ (fun _ _ failed => failed)
  rintro _ next ⟨consistent, observed, generations, lookup⟩
  refine ⟨consistent, observed.trans reconciling.observed,
    generations.trans reconciling.generations,
    fun other mem => reconciling.listed other (mem_cons_of_mem _ mem), ?_, ?_⟩
  · intro other outside
    have mem := reconciling.listed operationId mem_cons_self
    have ne : other ≠ operationId := fun same => outside (same ▸ mem)
    rw [lookup, if_neg ne]
    exact reconciling.kept other outside
  · intro other inside removed
    rw [lookup]
    split
    · rfl
    · rename_i ne
      refine reconciling.dropped other inside ?_
      rw [mem_cons, not_or]
      exact ⟨ne, removed⟩

/-- The release inside an update drops the reconciled reservations and keeps the others. -/
theorem wp_releaseReconciled (consistent : Consistent state) :
    wp releaseReconciled
      (fun _ next => Consistent next ∧ next.observed = state.observed ∧
        next.locationGenerations = state.locationGenerations ∧
        ∀ operationId, next.reservations.get? operationId =
          (state.reservations.get? operationId).filter
            (!isReconciled state.locationGenerations ·))
      (fun _ _ => False) state := by
  simp only [releaseReconciled, wp_bind, wp_get]
  generalize listed : (state.reservations.values.filter
    (isReconciled state.locationGenerations)).map InventoryReservation.operationId = reconciled
  have start : Reconciling state reconciled reconciled state :=
    ⟨consistent, rfl, rfl, fun _ mem => mem, fun _ _ => rfl, fun _ mem absent => absurd mem absent⟩
  refine wp_mono (wp_forM (Reconciling state reconciled)
    (fun _ _ _ reconciling => wp_removeReservation_reconciling reconciling) start) ?_
    (fun _ _ failed => failed)
  intro _ next done
  refine ⟨done.consistent, done.observed, done.generations, ?_⟩
  intro operationId
  rcases stored : state.reservations.get? operationId with _ | reservation
  · by_cases inside : operationId ∈ reconciled
    · exact done.dropped operationId inside not_mem_nil
    · rw [done.kept operationId inside, stored]
      rfl
  -- The reservation under an id is the only one that can bring the id into the list.
  have inside : operationId ∈ reconciled ↔
      isReconciled state.locationGenerations reservation = true := by
    rw [← listed, mem_map]
    constructor
    · rintro ⟨other, mem, same⟩
      rw [mem_filter, mem_values, same, stored, Option.some.injEq] at mem
      rw [mem.1]
      exact mem.2
    · intro holds
      exact ⟨reservation, mem_filter.mpr ⟨mem_values_of_get? stored, holds⟩,
        key_of_get? stored⟩
  by_cases holds : isReconciled state.locationGenerations reservation = true
  · rw [done.dropped operationId (inside.mpr holds) not_mem_nil]
    simp [Option.filter, holds]
  · rw [done.kept operationId (fun mem => holds (inside.mp mem)), stored]
    simp [Option.filter, holds]

/-! ## Entering a reservation -/

/-- The claims `done` have been entered and `rest` are still to be. -/
structure Entering (start : InventoryReservations) (done rest : List InventoryClaim)
    (state : InventoryReservations) : Prop where
  observed : state.observed = start.observed
  generations : state.locationGenerations = start.locationGenerations
  reservations : state.reservations = start.reservations
  exact : Tally.Exact state.reservedTotals (done.map entry ++ start.liveClaims)
  positive : ∀ claim ∈ rest, claim.amount ≠ 0
  distinct : ((done ++ rest).map key).Nodup
  entered : ∀ claim ∈ done, ∃ observed, start.observed[claim.key]? = some observed ∧
    state.reserved claim.key ≤ observed
  covered : ∀ claim ∈ rest, ∃ observed, start.observed[claim.key]? = some observed ∧
    (state.reserved claim.key).toNat + claim.amount.toNat ≤ observed.toNat

theorem total_insertIfNew (totals : Tally InventoryKey 256) (key other : InventoryKey) :
    Tally.total (totals.insertIfNew key 0) other = totals.total other := by
  unfold Tally.total
  rw [Std.TreeMap.getElem?_insertIfNew]
  split
  · rename_i both
    obtain ⟨same, absent⟩ := both
    rw [Std.LawfulEqOrd.compare_eq_iff_eq] at same
    rw [← same, Std.TreeMap.getElem?_eq_none absent]
    rfl
  · rfl

theorem entered_elsewhere {key other : InventoryKey} {total : U256} (ne : other ≠ key) :
    ((totals.insertIfNew key 0).insert key total)[other]? = totals[other]? := by
  simp [Std.TreeMap.getElem?_insert, Std.TreeMap.getElem?_insertIfNew, Ne.symm ne]

/-- A larger total on the key of the next claim leaves the other keys alone. -/
theorem Entering.enter (entering : Entering start done (claim :: rest) state)
    (here : totals[claim.key]? = some (state.reserved claim.key + claim.amount))
    (elsewhere : ∀ other, other ≠ claim.key → totals[other]? = state.reservedTotals[other]?) :
    Entering start (done ++ [claim]) rest { state with reservedTotals := totals } := by
  obtain ⟨observed, seen, covers⟩ := entering.covered claim mem_cons_self
  have room : (state.reserved claim.key).toNat + claim.amount.toNat < 2 ^ 256 :=
    lt_of_le_of_lt covers observed.isLt
  have sum : (state.reserved claim.key + claim.amount).toNat =
      (state.reserved claim.key).toNat + claim.amount.toNat := by
    rw [BitVec.toNat_add]
    exact Nat.mod_eq_of_lt room
  have others : ∀ other, other ≠ claim.key → totals.total other = state.reserved other := by
    intro other ne
    rw [Tally.total, elsewhere other ne]
    rfl
  have distinct := entering.distinct
  have apart : (∀ other ∈ done, other.key ≠ claim.key) ∧
      ∀ other ∈ rest, other.key ≠ claim.key := by
    rw [map_append, map_cons, nodup_append, nodup_cons] at distinct
    obtain ⟨-, ⟨fresh, -⟩, disjoint⟩ := distinct
    refine ⟨?_, ?_⟩
    · intro other mem same
      exact disjoint _ (mem_map_of_mem mem) _ mem_cons_self same
    · intro other mem same
      exact fresh (mem_map.mpr ⟨other, mem, same⟩)
  refine ⟨entering.observed, entering.generations, entering.reservations, ?_,
    fun other mem => entering.positive other (mem_cons_of_mem _ mem), ?_, ?_, ?_⟩
  · refine (entering.exact.enter room (entering.positive claim mem_cons_self) here
      elsewhere).perm ?_
    rw [map_append, append_assoc]
    exact perm_middle.symm
  · simpa using distinct
  · intro other mem
    rw [mem_append, mem_singleton] at mem
    rcases mem with mem | rfl
    · obtain ⟨seen, at', below⟩ := entering.entered other mem
      refine ⟨seen, at', ?_⟩
      change totals.total other.key ≤ seen
      rwa [others other.key (apart.1 other mem)]
    · refine ⟨observed, seen, ?_⟩
      change totals.total other.key ≤ observed
      rw [Tally.total, here, Option.getD_some, BitVec.le_def, sum]
      exact covers
  · intro other mem
    obtain ⟨seen, at', below⟩ := entering.covered other (mem_cons_of_mem _ mem)
    refine ⟨seen, at', ?_⟩
    change (totals.total other.key).toNat + _ ≤ _
    rwa [others other.key (apart.2 other mem)]

/-- A covered claim fits into the total of its key. -/
theorem wp_enterClaim (entering : Entering start done (claim :: rest) state) :
    wp (enterClaim claim) (fun _ => Entering start (done ++ [claim]) rest) (fun _ _ => False)
      state := by
  obtain ⟨observed, -, covers⟩ := entering.covered claim mem_cons_self
  have fits : checkedAddU256 (state.reservedTotals.total claim.key) claim.amount =
      some (state.reservedTotals.total claim.key + claim.amount) :=
    if_pos (lt_of_le_of_lt covers observed.isLt)
  simp only [enterClaim, wp_bind, wp_modify, wp_get, wp_check, orError_eq_ok, reserved,
    total_insertIfNew, fits, Option.some.injEq]
  refine ⟨?_, fun _ failed => by cases failed⟩
  rintro total rfl
  exact entering.enter (by simp [reserved]) (fun _ ne => entered_elsewhere ne)

theorem checkClaim_eq_ok (accepted : state.checkClaim claim = .ok ()) :
    ∃ observed, state.observed[claim.key]? = some observed ∧
      (state.reserved claim.key).toNat + claim.amount.toNat ≤ observed.toNat := by
  simp only [checkClaim, bind_eq_ok, require_eq_ok, orError_eq_ok] at accepted
  obtain ⟨-, -, observed, seen, available, left, covered⟩ := accepted
  refine ⟨observed, seen, ?_⟩
  unfold checkedSubU256 at left
  split at left
  · rename_i below
    cases left
    rw [BitVec.le_def, BitVec.toNat_sub_of_le below] at covered
    rw [BitVec.le_def] at below
    omega
  · cases left

theorem wp_enterClaims (consistent : Consistent state) (admitted : AdmittedRequest request)
    (checked : ∀ claim ∈ request.claims, state.checkClaim claim = .ok ()) :
    wp (request.claims.forM enterClaim) (fun _ => Entering state request.claims [])
      (fun _ _ => False) state := by
  have start : Entering state [] request.claims state :=
    ⟨rfl, rfl, rfl, consistent.exact, admitted.positive, admitted.distinct, by simp,
      fun claim mem => checkClaim_eq_ok (checked claim mem)⟩
  refine wp_mono (wp_forM
    (fun rest next => ∃ done, request.claims = done ++ rest ∧ Entering state done rest next)
    ?_ ⟨[], rfl, start⟩) ?_ (fun _ _ failed => failed)
  · rintro claim rest next ⟨done, split, entering⟩
    refine wp_mono (wp_enterClaim entering) ?_ (fun _ _ failed => failed)
    intro _ after entered
    refine ⟨done ++ [claim], ?_, entered⟩
    rw [split, append_assoc]
    rfl
  · rintro _ next ⟨done, split, entering⟩
    rw [append_nil] at split
    rwa [split]

end InventoryReservations

open InventoryReservations

/-! ## What every call can do -/

/-- The location and the generation of a balance update. -/
def InventoryCall.update? : InventoryCall → Option (InventoryLocation × Nat)
  | updateLocation location generation _ => some (location, generation)
  | updateLocationAssets location generation _ => some (location, generation)
  | _ => none

/-- What a call that returns has done. -/
inductive Effect (state : InventoryReservations) :
    InventoryCall → Bool → InventoryReservations → Prop where
  | stale {call : InventoryCall} {location : InventoryLocation} {generation current : Nat}
      (updates : call.update? = some (location, generation))
      (known : state.locationGenerations[location]? = some current)
      (behind : generation ≤ current) : Effect state call false state
  | updated {call : InventoryCall} {location : InventoryLocation} {generation : Nat}
      {next : InventoryReservations}
      (updates : call.update? = some (location, generation))
      (ahead : ∀ current, state.locationGenerations[location]? = some current →
        current < generation)
      (generations : next.locationGenerations =
        state.locationGenerations.insert location generation)
      (reservations : ∀ operationId, next.reservation operationId =
        (state.reservation operationId).filter
          (!isReconciled next.locationGenerations ·)) :
      Effect state call true next
  | reserved {request : ReservationRequest} {next : InventoryReservations}
      (admitted : AdmittedRequest request)
      (fresh : state.reservation request.operationId = none)
      (generations : next.locationGenerations = state.locationGenerations)
      (reservations : next.reservations = state.reservations.put ⟨request, .active⟩)
      (covered : ∀ claim ∈ request.claims, ∃ observed,
        next.observed[claim.key]? = some observed ∧ next.reserved claim.key ≤ observed) :
      Effect state (.reserve request) true next
  | released {operationId : String} {reservation : InventoryReservation}
      {next : InventoryReservations}
      (stored : state.reservation operationId = some reservation)
      (active : reservation.state.isActive = true)
      (generations : next.locationGenerations = state.locationGenerations)
      (reservations : ∀ other, next.reservation other =
        if other = operationId then none else state.reservation other) :
      Effect state (.releaseUnsubmitted operationId) true next
  | marked {operationId : String} {reservation : InventoryReservation}
      {barrier : Std.TreeMap InventoryLocation Nat}
      (stored : state.reservation operationId = some reservation)
      (active : reservation.state.isActive = true)
      (waits : state.barrier reservation.request.settlementLocations = .ok barrier) :
      Effect state (.markPendingSettlement operationId) true
        { state with
          reservations := state.reservations.put
            { reservation with state := .pendingSettlement barrier } }

/-- An error that a call returned, with the state as it was. -/
def Refused (state : InventoryReservations) (fault : InventoryFault)
    (next : InventoryReservations) : Prop :=
  next = state ∧ ∃ error, fault = .returned error

theorem refused (error : InventoryError) : Refused state (.returned error) state :=
  ⟨rfl, error, rfl⟩

/-- A call returns with an effect that keeps the state consistent, or returns an error and has
changed nothing. -/
def Specified (call : InventoryCall) (state : InventoryReservations) : Prop :=
  wp call.run (fun flag next => Consistent next ∧ Effect state call flag next)
    (Refused state) state

section

variable (consistent : Consistent state)
include consistent

theorem Consistent.observe (observed : Std.TreeMap InventoryKey U256)
    (generations : Std.TreeMap InventoryLocation Nat) :
    Consistent { state with observed := observed, locationGenerations := generations } :=
  ⟨consistent.exact, consistent.admitted⟩

theorem wp_install {call : InventoryCall} {location : InventoryLocation} {generation : Nat}
    (updates : call.update? = some (location, generation))
    (ahead : ∀ current, state.locationGenerations[location]? = some current →
      current < generation) (observed : Std.TreeMap InventoryKey U256) :
    wp (install location generation observed)
      (fun flag next => Consistent next ∧ Effect state call flag next)
      (Refused state) state := by
  simp only [install, wp_bind, wp_modify]
  refine wp_mono (wp_releaseReconciled (consistent.observe _ _)) ?_
    (fun _ _ failed => failed.elim)
  rintro _ next ⟨consistent, -, generations, reservations⟩
  refine ⟨consistent, .updated updates ahead generations ?_⟩
  intro operationId
  rw [generations]
  exact reservations operationId

theorem specified_updateLocation (location : InventoryLocation) (generation : Nat)
    (balances : List (String × U256)) :
    Specified (.updateLocation location generation balances) state := by
  simp only [Specified, InventoryCall.run, updateLocation, wp_bind,
    wp_check, wp_get, wp_ite, wp_pure]
  refine ⟨fun _ _ => ⟨?_, ?_⟩, fun error _ => refused error⟩
  · intro behind
    rcases known : state.locationGenerations[location]? with _ | current
    · simp [known] at behind
    · exact ⟨consistent, .stale rfl known (by simpa [known] using behind)⟩
  · intro ahead
    refine ⟨fun replacement _ => ⟨fun _ _ => ?_, fun error _ => refused error⟩,
      fun error _ => refused error⟩
    refine wp_install consistent rfl ?_ _
    intro current known
    simpa [known] using ahead

theorem specified_updateLocationAssets (location : InventoryLocation) (generation : Nat)
    (balances : List (String × U256)) :
    Specified (.updateLocationAssets location generation balances) state := by
  simp only [Specified, InventoryCall.run, updateLocationAssets, wp_bind,
    wp_check, wp_get, wp_ite, wp_pure, orError_eq_ok]
  refine ⟨fun _ _ => ⟨fun current known => ⟨?_, ?_⟩, fun error _ => refused error⟩,
    fun error _ => refused error⟩
  · intro behind
    exact ⟨consistent, .stale rfl known behind⟩
  · intro ahead
    refine ⟨fun updates _ => ⟨fun _ _ => ?_, fun error _ => refused error⟩,
      fun error _ => refused error⟩
    refine wp_install consistent rfl ?_ _
    intro other same
    rw [known, Option.some.injEq] at same
    omega

/-- The end of a reservation whose claims have been entered. -/
theorem consistent_put_of_entering (admitted : AdmittedRequest request)
    (fresh : state.reservation request.operationId = none) {next : InventoryReservations}
    (entered : InventoryReservations.Entering state request.claims [] next) :
    Consistent { next with reservations := next.reservations.put ⟨request, .active⟩ } := by
  constructor
  · refine entered.exact.perm ?_
    have others := claimsOf_erase_perm_of_absent fresh
    have all : (claimsOf (state.reservations.put ⟨request, .active⟩)).Perm _ := claimsOf_put_perm
    have claims : (claimsOf (next.reservations.put ⟨request, .active⟩)).Perm
        (request.claims.map entry ++ claimsOf state.reservations) := by
      rw [entered.reservations]
      exact all.trans (others.append_left _)
    exact claims.symm
  · intro reservation mem
    rcases mem_values_put.mp mem with rfl | ⟨-, mem⟩
    · exact admitted
    · rw [entered.reservations] at mem
      exact consistent.admitted reservation mem

theorem specified_reserve (request : ReservationRequest) : Specified (.reserve request) state := by
  simp only [Specified, InventoryCall.run, reserve, wp_bind, wp_check,
    wp_get, wp_pure, wp_modify, require_eq_ok, forM_eq_ok, Option.isNone_iff_eq_none]
  refine ⟨fun _ valid => ⟨fun _ fresh => ⟨fun _ checked => ?_, fun error _ => refused error⟩,
    fun error _ => refused error⟩, fun error _ => refused error⟩
  have admitted := validateRequest_eq_ok valid
  refine wp_mono (wp_enterClaims consistent admitted checked) ?_
    (fun _ _ failed => failed.elim)
  intro _ next entered
  refine ⟨consistent_put_of_entering consistent admitted fresh entered,
    .reserved admitted fresh entered.generations (by rw [entered.reservations]) ?_⟩
  intro claim mem
  obtain ⟨observed, seen, below⟩ := entered.entered claim mem
  exact ⟨observed, by rw [← seen, ← entered.observed], below⟩

theorem specified_releaseUnsubmitted (operationId : String) :
    Specified (.releaseUnsubmitted operationId) state := by
  simp only [Specified, InventoryCall.run, releaseUnsubmitted, wp_bind,
    wp_check, wp_get, wp_pure, require_eq_ok, orError_eq_ok]
  refine ⟨fun reservation stored => ⟨fun _ active => ?_, fun error _ => refused error⟩,
    fun error _ => refused error⟩
  refine wp_mono (wp_removeReservation consistent) ?_
    (fun _ _ failed => failed.elim)
  rintro _ next ⟨consistent, -, generations, lookup⟩
  exact ⟨consistent, .released stored active generations lookup⟩

/-- A reservation that changes its state keeps its claims. -/
theorem Consistent.restate {operationId : String} {reservation : InventoryReservation}
    (stored : state.reservation operationId = some reservation) (step : ReservationState) :
    Consistent
      { state with reservations := state.reservations.put { reservation with state := step } } := by
  have key : reservation.operationId = operationId := key_of_get? stored
  constructor
  · refine consistent.exact.perm ((claimsOf_perm_erase stored).trans ?_)
    rw [← key]
    have perm : (claimsOf (state.reservations.put { reservation with state := step })).Perm _ :=
      claimsOf_put_perm
    exact perm.symm
  · intro other mem
    rcases mem_values_put.mp mem with rfl | ⟨-, mem⟩
    · exact consistent.admitted reservation (mem_values_of_get? stored)
    · exact consistent.admitted other mem

theorem specified_markPendingSettlement (operationId : String) :
    Specified (.markPendingSettlement operationId) state := by
  simp only [Specified, InventoryCall.run, markPendingSettlement, wp_bind,
    wp_check, wp_get, wp_pure, wp_modify, require_eq_ok, orError_eq_ok]
  refine ⟨fun reservation stored => ⟨fun _ active => ⟨fun barrier waits => ?_,
    fun error _ => refused error⟩, fun error _ => refused error⟩,
    fun error _ => refused error⟩
  exact ⟨consistent.restate stored _, .marked stored active waits⟩

theorem specified (call : InventoryCall) : Specified call state := by
  cases call with
  | updateLocation location generation balances =>
    exact specified_updateLocation consistent location generation balances
  | updateLocationAssets location generation balances =>
    exact specified_updateLocationAssets consistent location generation balances
  | reserve request => exact specified_reserve consistent request
  | releaseUnsubmitted operationId => exact specified_releaseUnsubmitted consistent operationId
  | markPendingSettlement operationId =>
    exact specified_markPendingSettlement consistent operationId

/-- The two ways a call can end from a consistent state. -/
theorem exec_cases (call : InventoryCall) :
    (∃ flag, (call.run.exec state).1 = .ok flag ∧ Consistent (state.after call) ∧
        Effect state call flag (state.after call)) ∨
      (∃ error, (call.run.exec state).1 = .error (.returned error)) ∧
        state.after call = state := by
  have specified := specified consistent call
  unfold Specified wp at specified
  unfold after final
  split at specified
  · rename_i flag next ran
    rw [ran]
    exact Or.inl ⟨flag, rfl, specified⟩
  · rename_i fault next ran
    obtain ⟨same, error, rfl⟩ := specified
    rw [ran]
    exact Or.inr ⟨⟨error, rfl⟩, same⟩

theorem Consistent.after (call : InventoryCall) : Consistent (state.after call) := by
  rcases exec_cases consistent call with ⟨_, _, kept, _⟩ | ⟨_, same⟩
  · exact kept
  · rwa [same]

theorem Consistent.afterAll (calls : List InventoryCall) : Consistent (state.afterAll calls) := by
  induction calls generalizing state with
  | nil => exact consistent
  | cons call calls ih => exact ih (consistent.after call)

end

/-- The state after a history of calls. -/
def stateAfter (history : List InventoryCall) : InventoryReservations :=
  default.afterAll history

theorem consistent_stateAfter (history : List InventoryCall) : Consistent (stateAfter history) :=
  consistent_default.afterAll history

/-! ## The main result -/

/-- A reservation that passes the checks of `reserve` is entered: the sums fit. -/
theorem reserve_succeeds (consistent : Consistent state) (valid : validateRequest request = .ok ())
    (fresh : state.reservation request.operationId = none)
    (checked : request.claims.forM state.checkClaim = .ok ()) :
    ((InventoryCall.reserve request).run.exec state).1 = .ok true := by
  have ends : wp (InventoryCall.reserve request).run (fun flag _ => flag = true)
      (fun _ _ => False) state := by
    simp only [InventoryCall.run, reserve, wp_bind, wp_check, wp_get,
      wp_pure, wp_modify, valid, checked]
    have absent : require (state.reservations.get? request.operationId).isNone
        (InventoryError.failed "inventory reservation operation already exists") = .ok () :=
      require_of (Option.isNone_iff_eq_none.mpr fresh)
    rw [absent]
    refine ⟨fun _ _ => ⟨fun _ _ => ⟨fun _ _ => ?_, fun _ failed => by cases failed⟩,
      fun _ failed => by cases failed⟩, fun _ failed => by cases failed⟩
    refine wp_mono (wp_enterClaims consistent
      (validateRequest_eq_ok valid) (forM_eq_ok.mp checked)) ?_ (fun _ _ failed => failed)
    intro _ _ _
    trivial
  exact exec_of_wp ends

theorem totals_exact_and_calls_atomic (history : List InventoryCall) :
    let state := stateAfter history
    (∀ key, (state.reserved key).toNat = state.claimed key) ∧
      (∀ key : InventoryKey, state.reservedTotals[key]? ≠ some 0) ∧
      (∀ request, validateRequest request = .ok () →
        state.reservation request.operationId = none →
        request.claims.forM state.checkClaim = .ok () →
        ((InventoryCall.reserve request).run.exec state).1 = .ok true) ∧
      ∀ call : InventoryCall,
        (∀ message, (call.run.exec state).1 ≠ .error (.panicked message)) ∧
        (∀ error, (call.run.exec state).1 = .error error → state.after call = state) ∧
        ((call.run.exec state).1 = .ok false → state.after call = state) ∧
        (∀ request, call = .reserve request → (call.run.exec state).1 = .ok true →
          ∀ claim ∈ request.claims, ∃ observed,
            (state.after call).observed[claim.key]? = some observed ∧
            (state.after call).reserved claim.key ≤ observed) := by
  intro state
  have consistent : Consistent state := consistent_stateAfter history
  refine ⟨consistent.exact.total_eq, consistent.exact.nonzero,
    fun request valid fresh checked => reserve_succeeds consistent valid fresh checked, ?_⟩
  intro call
  rcases exec_cases consistent call with ⟨flag, ended, -, effect⟩ | ⟨⟨error, ended⟩, same⟩
  · rw [ended]
    refine ⟨fun _ panics => (nomatch panics), fun _ failed => (nomatch failed), ?_, ?_⟩
    · intro unflagged
      cases unflagged
      generalize state.after call = next at effect ⊢
      cases effect
      rfl
    · rintro request rfl -
      generalize state.after (.reserve request) = next at effect ⊢
      cases effect with
      | stale updates | updated updates => cases updates
      | reserved _ _ _ _ covered => exact covered
  · rw [ended]
    exact ⟨fun _ panics => (nomatch panics), fun _ _ => same, fun returned => (nomatch returned),
      fun _ _ returned => (nomatch returned)⟩

def spot : InventoryLocation := .binanceAccount "spot"

def spotUsdc : InventoryKey := ⟨spot, "USDC"⟩

/-- A trade and a rebalance claim the same balance. -/
def sharedHistory : List InventoryCall :=
  [.updateLocation spot 1 [("USDC", 100), ("WLD", 7)],
    .reserve ⟨"trade-1", .tradePrimary, [⟨spotUsdc, 60⟩], {spot}⟩,
    .reserve ⟨"rebalance-1", .rebalance, [⟨spotUsdc, 40⟩], {spot}⟩]

theorem shared_balance_is_the_sum_of_its_claims :
    (stateAfter sharedHistory).reserved spotUsdc = 100 ∧
      (stateAfter sharedHistory).claimed spotUsdc = 100 := by
  have total : (stateAfter sharedHistory).reserved spotUsdc = 100 := by decide +kernel
  refine ⟨total, ?_⟩
  rw [← (totals_exact_and_calls_atomic sharedHistory).1 spotUsdc, total]
  rfl

end PolyBot.Inventory
