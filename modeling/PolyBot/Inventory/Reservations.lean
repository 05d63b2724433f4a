import PolyBot.Lib.KeyedMap
import PolyBot.Lib.Tally
import PolyBot.Primitives

/-!
# Inventory reservations

One owner keeps the observed balances of every location and the claims that trades and rebalances
have on them.  A reservation is active until its operation is known to be unsubmitted, which
releases it, or submitted; a submitted one waits until every location it settles at has been
observed anew.

The totals per key are kept beside the reservations, claim by claim, and the waiting reservations
are released inside the balance updates.  Every definition below is one method of the owner;
`InventoryCall` collects those that change it.
-/

namespace PolyBot.Inventory

open Proc Std

/-- An unsigned integer of 256 bits. -/
abbrev U256 := BitVec 256

inductive InventoryLocation where
  | binanceAccount (accountId : String)
  | evmWallet (networkId walletLocationId : String)
  deriving DecidableEq

namespace InventoryLocation

def stableId : InventoryLocation → String
  | binanceAccount accountId => accountId
  | evmWallet _ walletLocationId => walletLocationId

def variant : InventoryLocation → Nat
  | binanceAccount _ => 0
  | evmWallet _ _ => 1

def firstField : InventoryLocation → String
  | binanceAccount accountId => accountId
  | evmWallet networkId _ => networkId

/-- The derived order: the variant, then the fields. -/
def cmp : InventoryLocation → InventoryLocation → Ordering :=
  compareLex (compareOn variant) (compareLex (compareOn firstField) (compareOn stableId))

instance : Ord InventoryLocation := ⟨cmp⟩

instance : Std.TransOrd InventoryLocation :=
  inferInstanceAs (Std.TransCmp
    (compareLex (compareOn variant) (compareLex (compareOn firstField) (compareOn stableId))))

instance : Std.LawfulEqOrd InventoryLocation where
  eq_of_compare := by
    intro a b same
    change cmp a b = .eq at same
    simp only [cmp, compareLex_eq_eq, compareOn, Std.LawfulEqOrd.compare_eq_iff_eq] at same
    obtain ⟨variant, first, second⟩ := same
    cases a <;> cases b <;> simp_all [InventoryLocation.variant, firstField, stableId]

end InventoryLocation

structure InventoryKey where
  location : InventoryLocation
  venueAssetId : String
  deriving DecidableEq

namespace InventoryKey

def cmp : InventoryKey → InventoryKey → Ordering :=
  compareLex (compareOn location) (compareOn venueAssetId)

instance : Ord InventoryKey := ⟨cmp⟩

instance : Std.TransOrd InventoryKey :=
  inferInstanceAs (Std.TransCmp (compareLex (compareOn location) (compareOn venueAssetId)))

instance : Std.LawfulEqOrd InventoryKey where
  eq_of_compare := by
    intro a b same
    change cmp a b = .eq at same
    simp only [cmp, compareLex_eq_eq, compareOn, Std.LawfulEqOrd.compare_eq_iff_eq] at same
    cases a
    cases b
    simp_all

end InventoryKey

structure InventoryClaim where
  key : InventoryKey
  amount : U256
  deriving DecidableEq

inductive ReservationPurpose where
  | tradePrimary
  | tradeRecovery
  | rebalance
  deriving DecidableEq

structure ReservationRequest where
  operationId : String
  purpose : ReservationPurpose
  claims : List InventoryClaim
  settlementLocations : TreeSet InventoryLocation

inductive ReservationState where
  | active
  | pendingSettlement (locationGenerations : TreeMap InventoryLocation Nat)

def ReservationState.isActive : ReservationState → Bool
  | active => true
  | pendingSettlement _ => false

structure InventoryReservation where
  request : ReservationRequest
  state : ReservationState

def InventoryReservation.operationId (reservation : InventoryReservation) : String :=
  reservation.request.operationId

structure InsufficientAvailableInventory where
  key : InventoryKey
  requested : U256
  observed : U256
  reserved : U256
  available : U256
  deriving DecidableEq

inductive InventoryError where
  | failed (message : String)
  | insufficient (cause : InsufficientAvailableInventory)
  deriving DecidableEq

/-- How a call can end without a value: with an error, or with the end of the process. -/
inductive InventoryFault where
  | returned (error : InventoryError)
  | panicked (message : String)
  deriving DecidableEq

structure InventoryReservations where
  observed : TreeMap InventoryKey U256
  locationGenerations : TreeMap InventoryLocation Nat
  reservations : KeyedMap InventoryReservation.operationId
  reservedTotals : Tally InventoryKey 256

/-- A method of the reservations. -/
abbrev InventoryProc := Proc InventoryReservations InventoryFault

/-- A check that only reads. -/
def check {α : Type} (result : Except InventoryError α) : InventoryProc α :=
  match result with
  | .ok a => pure a
  | .error e => throw (.returned e)

def checkedAddU256 (a b : U256) : Option U256 :=
  if a.toNat + b.toNat < 2 ^ 256 then some (a + b) else none

def checkedSubU256 (a b : U256) : Option U256 :=
  if b ≤ a then some (a - b) else none

def validateId (name value : String) (maximum : Nat) : Except InventoryError Unit := do
  require (value ≠ "" ∧ value.utf8ByteSize ≤ maximum) (.failed s!"{name} has invalid length")
  require (hasOnly ['-', '_', '.', ':', '/'] value = true)
    (.failed s!"{name} contains unsupported characters")

def InventoryKey.new (location : InventoryLocation) (venueAssetId : String) :
    Except InventoryError InventoryKey := do
  validateId "venue asset id" venueAssetId 160
  pure ⟨location, venueAssetId⟩

/-- One round of the loop of `validate_request`, with the keys of the claims before. -/
def validateClaim (locations : TreeSet InventoryLocation) (keys : TreeSet InventoryKey)
    (claim : InventoryClaim) : Except InventoryError (TreeSet InventoryKey) := do
  validateId "venue asset id" claim.key.venueAssetId 160
  require (claim.amount ≠ 0) (.failed "inventory claim amount is zero")
  require (claim.key ∉ keys) (.failed "reservation has duplicate inventory claims")
  require (claim.key.location ∈ locations)
    (.failed "claim location is absent from settlement locations")
  pure (keys.insert claim.key)

def validateRequest (request : ReservationRequest) : Except InventoryError Unit := do
  validateId "reservation operation id" request.operationId 120
  require (request.claims ≠ []) (.failed "reservation has no claims")
  require (request.settlementLocations.isEmpty = false)
    (.failed "reservation has no settlement locations")
  let _ ← request.claims.foldlM (validateClaim request.settlementLocations) ∅
  pure ()

variable (state : InventoryReservations)

namespace InventoryReservations

/-- `InventoryReservations::default`. -/
def default : InventoryReservations := ⟨∅, ∅, .empty, ∅⟩

def reserved (key : InventoryKey) : U256 :=
  state.reservedTotals.total key

def reservation (operationId : String) : Option InventoryReservation :=
  state.reservations.get? operationId

def noObservedInventory (key : InventoryKey) : InventoryError :=
  .failed s!"no observed inventory for {key.venueAssetId} at {key.location.stableId}"

def available (key : InventoryKey) :
    Except InventoryError U256 := do
  let observed ← orError state.observed[key]? (noObservedInventory key)
  orError (checkedSubU256 observed (state.reserved key))
    (.failed "reservations exceed observed inventory")

/-- One round of the loop of `remove_reservation`. -/
def releaseClaim (claim : InventoryClaim) : InventoryProc Unit := do
  let state ← get
  match state.reservedTotals[claim.key]? with
  | some reserved => do
    let left ← orFail (checkedSubU256 reserved claim.amount)
      (.panicked "reserved total covers every admitted claim")
    modify fun state =>
      { state with reservedTotals := state.reservedTotals.lower claim.key left }
  | none => pure ()

def removeReservation (operationId : String) : InventoryProc Unit := do
  let state ← get
  match state.reservations.get? operationId with
  | none => pure ()
  | some reservation => do
    modify fun state => { state with reservations := state.reservations.erase operationId }
    reservation.request.claims.forM releaseClaim

/-- Every location of the barrier has been observed after it. -/
def passed (generations barrier : TreeMap InventoryLocation Nat) : Bool :=
  barrier.toList.all fun entry =>
    match generations[entry.1]? with
    | some current => entry.2 < current
    | none => false

def isReconciled (generations : TreeMap InventoryLocation Nat)
    (reservation : InventoryReservation) : Bool :=
  match reservation.state with
  | .active => false
  | .pendingSettlement barrier => passed generations barrier

def releaseReconciled : InventoryProc Unit := do
  let state ← get
  let reconciled := (state.reservations.values.filter
    (isReconciled state.locationGenerations)).map InventoryReservation.operationId
  reconciled.forM removeReservation

/-- The balances of an update under their keys. -/
def collectBalances (location : InventoryLocation) (duplicate : String)
    (balances : List (String × U256)) : Except InventoryError (TreeMap InventoryKey U256) :=
  balances.foldlM (fun (collected : TreeMap InventoryKey U256) balance => do
    let key ← InventoryKey.new location balance.1
    require (key ∉ collected) (.failed duplicate)
    pure (collected.insert key balance.2)) ∅

/-- The end of an update that was accepted. -/
def install (location : InventoryLocation) (generation : Nat)
    (observed : TreeMap InventoryKey U256) :
    InventoryProc Bool := do
  modify fun state =>
    { state with
      observed := observed
      locationGenerations := state.locationGenerations.insert location generation }
  releaseReconciled
  pure true

def updateLocation (location : InventoryLocation) (generation : Nat)
    (balances : List (String × U256)) : InventoryProc Bool := do
  check <| require (0 < generation) (.failed "inventory generation must be positive")
  let state ← get
  if state.locationGenerations[location]?.any (generation ≤ ·) then pure false
  else do
    let replacement ← check
      (collectBalances location "duplicate venue asset in inventory snapshot" balances)
    check <| require (replacement.isEmpty = false)
      (.failed "inventory snapshot must contain at least one venue asset")
    let retained := state.observed.filter fun key _ => key.location ≠ location
    install location generation (retained.insertMany replacement.toList)

def updateLocationAssets (location : InventoryLocation) (generation : Nat)
    (balances : List (String × U256)) : InventoryProc Bool := do
  check <| require (0 < generation) (.failed "inventory generation must be positive")
  let state ← get
  let currentGeneration ← check <| orError state.locationGenerations[location]?
    (.failed "partial inventory update requires a complete location snapshot")
  if generation ≤ currentGeneration then pure false
  else do
    let updates ← check
      (collectBalances location "duplicate venue asset in partial inventory update" balances)
    check <| require (updates.isEmpty = false) (.failed "partial inventory update is empty")
    install location generation (state.observed.insertMany updates.toList)

/-- One round of the first loop of `reserve`: the claim is covered by what is available. -/
def checkClaim (claim : InventoryClaim) :
    Except InventoryError Unit := do
  require (claim.key.location ∈ state.locationGenerations)
    (.failed "inventory location has no observed generation")
  let observed ← orError state.observed[claim.key]? (noObservedInventory claim.key)
  let reserved := state.reserved claim.key
  let available ← orError (checkedSubU256 observed reserved)
    (.failed "reservations exceed observed inventory")
  require (claim.amount ≤ available)
    (.insufficient ⟨claim.key, claim.amount, observed, reserved, available⟩)

/-- One round of the second loop of `reserve`: the entry exists from here on, also when the sum
does not fit. -/
def enterClaim (claim : InventoryClaim) : InventoryProc Unit := do
  modify fun state =>
    { state with reservedTotals := state.reservedTotals.insertIfNew claim.key 0 }
  let state ← get
  let total ← check <| orError (checkedAddU256 (state.reserved claim.key) claim.amount)
    (.failed "inventory reserved total overflow")
  modify fun state =>
    { state with reservedTotals := state.reservedTotals.insert claim.key total }

def reserve (request : ReservationRequest) : InventoryProc Unit := do
  check (validateRequest request)
  let state ← get
  check <| require (state.reservations.get? request.operationId).isNone
    (.failed "inventory reservation operation already exists")
  check (request.claims.forM state.checkClaim)
  request.claims.forM enterClaim
  modify fun state =>
    { state with reservations := state.reservations.put ⟨request, .active⟩ }

def unknownReservation (operationId : String) : InventoryError :=
  .failed s!"unknown inventory reservation {operationId}"

def releaseUnsubmitted (operationId : String) :
    InventoryProc Unit := do
  let state ← get
  let reservation ← check <|
    orError (state.reservations.get? operationId) (unknownReservation operationId)
  check <| require (reservation.state.isActive = true)
    (.failed "only an active reservation can be released as unsubmitted")
  removeReservation operationId

/-- The generations the settlement locations have now. -/
def barrier (locations : TreeSet InventoryLocation) :
    Except InventoryError (TreeMap InventoryLocation Nat) :=
  locations.toList.foldlM (fun (generations : TreeMap InventoryLocation Nat) location => do
    let generation ← orError state.locationGenerations[location]?
      (.failed "settlement inventory location has no generation")
    pure (generations.insert location generation)) ∅

def markPendingSettlement (operationId : String) :
    InventoryProc Unit := do
  let state ← get
  let reservation ← check <|
    orError (state.reservations.get? operationId) (unknownReservation operationId)
  check <| require (reservation.state.isActive = true)
    (.failed "inventory reservation is not active")
  let generations ← check (state.barrier reservation.request.settlementLocations)
  modify fun state =>
    { state with
      reservations := state.reservations.put
        { reservation with state := .pendingSettlement generations } }

end InventoryReservations

/-- The calls that change the reservations, with their arguments. -/
inductive InventoryCall where
  | updateLocation (location : InventoryLocation) (generation : Nat)
      (balances : List (String × U256))
  | updateLocationAssets (location : InventoryLocation) (generation : Nat)
      (balances : List (String × U256))
  | reserve (request : ReservationRequest)
  | releaseUnsubmitted (operationId : String)
  | markPendingSettlement (operationId : String)

/-- A call runs to the flag of an update; the other calls, which have no value, return `true`. -/
def InventoryCall.run : InventoryCall → InventoryProc Bool
  | updateLocation location generation balances =>
    InventoryReservations.updateLocation location generation balances
  | updateLocationAssets location generation balances =>
    InventoryReservations.updateLocationAssets location generation balances
  | reserve request => do
    InventoryReservations.reserve request
    pure true
  | releaseUnsubmitted operationId => do
    InventoryReservations.releaseUnsubmitted operationId
    pure true
  | markPendingSettlement operationId => do
    InventoryReservations.markPendingSettlement operationId
    pure true

/-- The state after a call, whichever way it ended. -/
def InventoryReservations.after (call : InventoryCall) : InventoryReservations :=
  call.run.final state

/-- The state after a sequence of calls. -/
def InventoryReservations.afterAll (calls : List InventoryCall) : InventoryReservations :=
  calls.foldl InventoryReservations.after state

end PolyBot.Inventory
