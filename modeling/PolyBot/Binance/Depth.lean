import PolyBot.Lib.Machine
import PolyBot.Lib.Proc
import PolyBot.Lib.Replica

/-!
# The local depth book

A copy of the venue's order book for one symbol, begun from a snapshot and carried on by updates
that name the range of the venue's numbered changes they sum up.  The venue is a `History` of
absolute quantities by side and price, a quantity of zero being an absent level.

Decimals are compared and stored by their value, so they are rationals here.  The time of an update
is read by no check and left out.

* `SpotDepthBook.fromSnapshot`, `SpotDepthBook.apply`: the book, as a procedure that keeps what it
  wrote before it failed.
* `SpotDepthBook.apply_spec`: what one update does.
* `SpotDepthBook.WellFormed`: levels are positive and the book is not crossed.
* `depth_book_replicates_the_venue`: after any deliveries that were accepted.
* `DepthFeed.book_replicates`: the feed, which forgets the book at the first error.
-/

namespace PolyBot.Binance

open Proc List

structure DepthLevel where
  price : ℚ
  quantity : ℚ
  deriving DecidableEq

structure DepthSnapshot where
  lastUpdateId : Nat
  bids : List DepthLevel
  asks : List DepthLevel

structure DepthUpdate where
  symbol : String
  firstUpdateId : Nat
  finalUpdateId : Nat
  bids : List DepthLevel
  asks : List DepthLevel

inductive DepthApplyResult
  | applied
  | stale
  deriving DecidableEq

/-- The levels of one side, by price. -/
abbrev Levels := Std.TreeMap ℚ ℚ

/-- The venue's book: the quantities of both sides by price, which every numbered change sets for
the levels it names.  Zero stands for an absent level. -/
structure Venue where
  bids : History ℚ ℚ
  asks : History ℚ ℚ

structure SpotDepthBook where
  symbol : String
  lastUpdateId : Nat
  bids : Levels
  asks : Levels

/-! ## Levels -/

def validateLevel (level : DepthLevel) (allowZeroQuantity : Bool) : Except String Unit := do
  require (0 < level.price) "depth price must be positive"
  if allowZeroQuantity then
    require (0 ≤ level.quantity) "depth quantity must not be negative"
  else
    require (0 < level.quantity) "snapshot depth quantity must be positive"

def replaceLevels (levels : List DepthLevel) : Proc Levels String Unit := do
  set (∅ : Levels)
  levels.forM fun level => do
    lift (validateLevel level false)
    let destination ← get
    set (destination.insert level.price level.quantity)
    ensure (destination[level.price]? = none) "duplicate depth snapshot price"

def applyLevels (levels : List DepthLevel) : Proc Levels String Unit :=
  levels.forM fun level => do
    lift (validateLevel level true)
    if level.quantity = 0 then
      modify fun destination => destination.erase level.price
    else
      modify fun destination => destination.insert level.price level.quantity

/-- The quantity at a price, zero where there is no level. -/
def Levels.quantity (levels : Levels) (price : ℚ) : ℚ :=
  levels[price]?.getD 0

/-- Every stored price and quantity is positive. -/
def Levels.Positive (levels : Levels) : Prop :=
  ∀ price quantity : ℚ, levels[price]? = some quantity → 0 < price ∧ 0 < quantity

/-- The stored quantity for a quantity of the venue. -/
def listed (quantity : ℚ) : Option ℚ :=
  if quantity = 0 then none else some quantity

theorem getD_listed (quantity : ℚ) : (listed quantity).getD 0 = quantity := by
  unfold listed
  split <;> simp_all

/-- A level as an entry of a table of quantities. -/
def DepthLevel.entry (level : DepthLevel) : ℚ × ℚ :=
  (level.price, level.quantity)

open DepthLevel

variable {level : DepthLevel} {levels : List DepthLevel} {stored : Levels}

theorem validateLevel_true_eq_ok :
    validateLevel level true = .ok () ↔ 0 < level.price ∧ 0 ≤ level.quantity := by
  simp [validateLevel]

theorem validateLevel_false_eq_ok :
    validateLevel level false = .ok () ↔ 0 < level.price ∧ 0 < level.quantity := by
  simp [validateLevel]

namespace Levels

variable {levels : Levels} {price quantity : ℚ}

theorem positive_empty : Positive ∅ := by
  intro price quantity stored
  simp at stored

theorem Positive.insert (positive : levels.Positive) (pricePos : 0 < price)
    (quantityPos : 0 < quantity) : Positive (levels.insert price quantity) := by
  intro other stored found
  rw [Std.TreeMap.getElem?_insert] at found
  split at found
  · rename_i same
    cases found
    rw [← Std.LawfulEqOrd.eq_of_compare same]
    exact ⟨pricePos, quantityPos⟩
  · exact positive other stored found

theorem Positive.erase (positive : levels.Positive) : Positive (levels.erase price) := by
  intro other stored found
  rw [Std.TreeMap.getElem?_erase] at found
  split at found
  · cases found
  · exact positive other stored found

theorem quantity_insert :
    Levels.quantity (levels.insert price quantity) =
      Function.update levels.quantity price quantity := by
  funext other
  by_cases same : price = other
  · subst same
    simp [Levels.quantity]
  · have differs : other ≠ price := fun eq => same eq.symm
    simp [Levels.quantity, Std.TreeMap.getElem?_insert, same, Function.update_of_ne differs]

theorem quantity_erase :
    Levels.quantity (levels.erase price) = Function.update levels.quantity price 0 := by
  funext other
  by_cases same : price = other
  · subst same
    simp [Levels.quantity]
  · have differs : other ≠ price := fun eq => same eq.symm
    simp [Levels.quantity, Std.TreeMap.getElem?_erase, same, Function.update_of_ne differs]

/-- Positive levels are determined by the quantities at all prices. -/
theorem Positive.getElem? (positive : levels.Positive) (price : ℚ) :
    levels[price]? = listed (levels.quantity price) := by
  unfold listed Levels.quantity
  cases found : levels[price]? with
  | none => simp
  | some quantity =>
    have ne : quantity ≠ 0 := (positive price quantity found).2.ne'
    simp [ne]

end Levels

/-- The levels of an update, written over the stored ones. -/
theorem applyLevels_spec (positive : stored.Positive) :
    wp (applyLevels levels)
      (fun _ after => after.Positive ∧
        after.quantity = overlay stored.quantity (levels.map entry))
      (fun _ _ => True) stored := by
  -- what is still to come, written over what is there, gives the final table
  refine wp_mono (wp_forM (fun rest (current : Levels) => current.Positive ∧
      overlay current.quantity (rest.map entry) =
        overlay stored.quantity (levels.map entry)) ?_ ⟨positive, rfl⟩)
    (fun _ _ done => done) (fun _ _ failed => failed)
  intro level rest current holds
  obtain ⟨currentPositive, written⟩ := holds
  rw [map_cons, overlay_cons] at written
  simp only [wp_bind, wp_lift, wp_ite, wp_modify, implies_true, and_true]
  intro _ valid
  obtain ⟨pricePos, quantityNonneg⟩ := validateLevel_true_eq_ok.mp valid
  constructor
  · intro zero
    refine ⟨currentPositive.erase, ?_⟩
    rw [Levels.quantity_erase, ← written, entry, zero]
  · intro nonzero
    have quantityPos : 0 < level.quantity := lt_of_le_of_ne quantityNonneg (Ne.symm nonzero)
    refine ⟨currentPositive.insert pricePos quantityPos, ?_⟩
    rw [Levels.quantity_insert, ← written, entry]

/-- The levels of a snapshot in place of the stored ones. -/
theorem replaceLevels_spec :
    wp (replaceLevels levels)
      (fun _ after => after.Positive ∧
        after.quantity = overlay (fun _ => 0) (levels.map entry))
      (fun _ _ => True) stored := by
  unfold replaceLevels
  rw [wp_bind, wp_set]
  have start : Levels.quantity ∅ = fun _ => 0 := by
    funext price
    simp [Levels.quantity]
  refine wp_mono (wp_forM (fun rest (current : Levels) => current.Positive ∧
      overlay current.quantity (rest.map entry) =
        overlay (fun _ => 0) (levels.map entry)) ?_ ⟨Levels.positive_empty, by rw [start]⟩)
    (fun _ _ done => done) (fun _ _ failed => failed)
  intro level rest current holds
  obtain ⟨currentPositive, written⟩ := holds
  rw [map_cons, overlay_cons] at written
  simp only [wp_bind, wp_lift, wp_get, wp_set, wp_ensure, implies_true, and_true]
  intro _ valid _
  obtain ⟨pricePos, quantityPos⟩ := validateLevel_false_eq_ok.mp valid
  refine ⟨currentPositive.insert pricePos quantityPos, ?_⟩
  rw [Levels.quantity_insert, ← written, entry]

/-! ## The book -/

def validateSymbol (symbol : String) : Except String Unit :=
  require (symbol ≠ "" ∧ symbol.toList.all (fun byte => byte.isUpper || byte.isDigit) = true)
    "Binance depth symbol is invalid"

/-- The update sums up the venue's changes of its range. -/
structure DepthUpdate.Faithful (update : DepthUpdate) (venue : Venue) : Prop where
  bids : venue.bids.Delta update.firstUpdateId update.finalUpdateId
    (update.bids.map entry)
  asks : venue.asks.Delta update.firstUpdateId update.finalUpdateId
    (update.asks.map entry)

namespace SpotDepthBook

def bestBid (book : SpotDepthBook) : Option DepthLevel :=
  book.bids.keys.getLast?.map fun price => ⟨price, book.bids.quantity price⟩

def bestAsk (book : SpotDepthBook) : Option DepthLevel :=
  book.asks.keys.head?.map fun price => ⟨price, book.asks.quantity price⟩

def validateTop (book : SpotDepthBook) : Except String Unit := do
  let bid ← orError book.bestBid "Binance depth has no bids"
  let ask ← orError book.bestAsk "Binance depth has no asks"
  require (bid.price < ask.price) "Binance depth book is crossed"

/-- A procedure on the bids of the book. -/
def onBids {α : Type} (act : Proc Levels String α) : Proc SpotDepthBook String α :=
  zoom (·.bids) (fun bids book => { book with bids := bids }) act

/-- A procedure on the asks of the book. -/
def onAsks {α : Type} (act : Proc Levels String α) : Proc SpotDepthBook String α :=
  zoom (·.asks) (fun asks book => { book with asks := asks }) act

/-- The levels of a snapshot loaded into a book. -/
def load (snapshot : DepthSnapshot) : Proc SpotDepthBook String Unit := do
  onBids (replaceLevels snapshot.bids)
  onAsks (replaceLevels snapshot.asks)
  lift (← get).validateTop

def fromSnapshot (symbol : String) (snapshot : DepthSnapshot) : Except String SpotDepthBook := do
  validateSymbol symbol
  require (0 < snapshot.lastUpdateId) "depth snapshot update ID is zero"
  let (exit, book) := (load snapshot).exec ⟨symbol, snapshot.lastUpdateId, ∅, ∅⟩
  exit.map fun _ => book

def apply (update : DepthUpdate) : Proc SpotDepthBook String DepthApplyResult := do
  let book ← get
  ensure (update.symbol = book.symbol) "depth update symbol mismatch"
  ensure (update.firstUpdateId ≤ update.finalUpdateId) "depth update ID range is reversed"
  if update.finalUpdateId ≤ book.lastUpdateId then
    return .stale
  else
    let expected ← orFail (checkedAdd 64 book.lastUpdateId 1) "depth update ID overflow"
    ensure (update.firstUpdateId ≤ expected ∧ expected ≤ update.finalUpdateId)
      s!"Binance depth gap: expected {expected}, received {update.firstUpdateId}..{update.finalUpdateId}"
    onBids (applyLevels update.bids)
    onAsks (applyLevels update.asks)
    modify fun book => { book with lastUpdateId := update.finalUpdateId }
    lift (← get).validateTop
    return .applied

/-- Levels are positive, and the best bid is below the best ask. -/
structure WellFormed (book : SpotDepthBook) : Prop where
  bids : book.bids.Positive
  asks : book.asks.Positive
  top : ∃ bid ask, book.bestBid = some bid ∧ book.bestAsk = some ask ∧ bid.price < ask.price

variable {book after : SpotDepthBook} {venue : Venue} {update : DepthUpdate}
  {snapshot : DepthSnapshot} {symbol : String}

theorem validateTop_eq_ok {u : Unit} :
    book.validateTop = .ok u ↔
      ∃ bid ask, book.bestBid = some bid ∧ book.bestAsk = some ask ∧ bid.price < ask.price := by
  simp only [validateTop, bind_eq_ok, orError_eq_ok, require_eq_ok]
  constructor
  · intro valid
    obtain ⟨bid, bestBid, ask, bestAsk, below⟩ := valid
    exact ⟨bid, ask, bestBid, bestAsk, below⟩
  · intro valid
    obtain ⟨bid, ask, bestBid, bestAsk, below⟩ := valid
    exact ⟨bid, bestBid, ask, bestAsk, below⟩

/-- The book holds exactly the levels that the venue has at the number of the last update. -/
structure Replicates (book : SpotDepthBook) (venue : Venue) : Prop where
  bids : ∀ price : ℚ, book.bids[price]? = listed (venue.bids.tableAt book.lastUpdateId price)
  asks : ∀ price : ℚ, book.asks[price]? = listed (venue.asks.tableAt book.lastUpdateId price)

theorem Replicates.quantities (replicates : book.Replicates venue) :
    book.bids.quantity = venue.bids.tableAt book.lastUpdateId ∧
      book.asks.quantity = venue.asks.tableAt book.lastUpdateId := by
  constructor
  · funext price
    rw [Levels.quantity, replicates.bids, getD_listed]
  · funext price
    rw [Levels.quantity, replicates.asks, getD_listed]

theorem Replicates.of_quantities (bidsPositive : book.bids.Positive)
    (asksPositive : book.asks.Positive)
    (bids : book.bids.quantity = venue.bids.tableAt book.lastUpdateId)
    (asks : book.asks.quantity = venue.asks.tableAt book.lastUpdateId) :
    book.Replicates venue where
  bids price := by rw [bidsPositive.getElem?, bids]
  asks price := by rw [asksPositive.getElem?, asks]

/-! ### One update -/

/-- What an accepted update has done. -/
inductive Outcome (book : SpotDepthBook) (update : DepthUpdate) :
    DepthApplyResult → SpotDepthBook → Prop
  /-- It ends before the book: nothing changes. -/
  | stale (old : update.finalUpdateId ≤ book.lastUpdateId) : Outcome book update .stale book
  /-- It continues the book: its levels are written over the stored ones. -/
  | applied {after : SpotDepthBook} (reachesBack : update.firstUpdateId ≤ book.lastUpdateId + 1)
      (newer : book.lastUpdateId < update.finalUpdateId)
      (last : after.lastUpdateId = update.finalUpdateId) (wellFormed : after.WellFormed)
      (bids : after.bids.quantity =
        overlay book.bids.quantity (update.bids.map entry))
      (asks : after.asks.quantity =
        overlay book.asks.quantity (update.asks.map entry)) :
      Outcome book update .applied after

theorem apply_spec (wellFormed : book.WellFormed) (update : DepthUpdate) :
    wp (apply update) (Outcome book update) (fun _ _ => True) book := by
  simp only [apply, onBids, onAsks, wp_bind, wp_get, wp_ensure, wp_ite,
    wp_orFail, wp_zoom, wp_modify, wp_lift, wp_pure, implies_true,
    and_true, checkedAdd_eq_some]
  intro _ _
  refine ⟨Outcome.stale, ?_⟩
  intro newer expected bounded inRange
  obtain ⟨-, rfl⟩ := bounded
  refine wp_mono (applyLevels_spec wellFormed.bids) ?_ (fun _ _ _ => trivial)
  intro _ bids bidsDone
  refine wp_mono (applyLevels_spec wellFormed.asks) ?_ (fun _ _ _ => trivial)
  intro _ asks asksDone _ valid
  exact .applied inRange.1 (by omega) rfl ⟨bidsDone.1, asksDone.1, validateTop_eq_ok.mp valid⟩
    bidsDone.2 asksDone.2

/-- An update that begins after the next number is refused, and the book is as it was. -/
theorem apply_gap (gap : book.lastUpdateId + 1 < update.firstUpdateId) :
    ∃ message, (apply update).exec book = (.error message, book) := by
  apply exists_error_of_wp
  simp only [apply, wp_bind, wp_get, wp_ensure, wp_ite, wp_orFail,
    wp_pure, checkedAdd_eq_some]
  refine ⟨?_, by simp⟩
  intro _
  refine ⟨?_, by simp⟩
  intro ordered
  refine ⟨by omega, ?_⟩
  intro _
  refine ⟨?_, by simp⟩
  intro expected bounded
  obtain ⟨-, rfl⟩ := bounded
  exact ⟨by omega, by simp⟩

variable {result : DepthApplyResult} {levels : List DepthLevel}

/-- The step lemma: a faithful update that is accepted leaves a replica. -/
theorem Outcome.replicates (outcome : Outcome book update result after)
    (wellFormed : book.WellFormed) (replicates : book.Replicates venue)
    (faithful : update.Faithful venue) : after.WellFormed ∧ after.Replicates venue := by
  cases outcome with
  | stale old => exact ⟨wellFormed, replicates⟩
  | applied reachesBack newer last wellFormedAfter bids asks =>
    obtain ⟨bidsBefore, asksBefore⟩ := replicates.quantities
    refine ⟨wellFormedAfter, .of_quantities wellFormedAfter.bids wellFormedAfter.asks ?_ ?_⟩
    · rw [bids, bidsBefore, last, faithful.bids.overlay_eq reachesBack (by omega)]
    · rw [asks, asksBefore, last, faithful.asks.overlay_eq reachesBack (by omega)]

theorem Outcome.lastUpdateId_le (outcome : Outcome book update result after) :
    book.lastUpdateId ≤ after.lastUpdateId := by
  cases outcome with
  | stale old => exact le_rfl
  | applied reachesBack newer last => omega

/-! ### Snapshots -/

/-- The book holds the levels of a snapshot. -/
structure Holds (book : SpotDepthBook) (snapshot : DepthSnapshot) : Prop where
  bidsPositive : book.bids.Positive
  asksPositive : book.asks.Positive
  bids : book.bids.quantity = overlay (fun _ => 0) (snapshot.bids.map entry)
  asks : book.asks.quantity = overlay (fun _ => 0) (snapshot.asks.map entry)

/-- Loading a snapshot leaves its levels. -/
theorem load_spec :
    wp (load snapshot) (fun _ after => after.WellFormed ∧ after.Holds snapshot ∧
        after.lastUpdateId = book.lastUpdateId)
      (fun _ _ => True) book := by
  simp only [load, onBids, onAsks, wp_bind, wp_get, wp_zoom, wp_lift, implies_true, and_true]
  refine wp_mono replaceLevels_spec ?_ (fun _ _ _ => trivial)
  intro _ bids bidsDone
  refine wp_mono replaceLevels_spec ?_ (fun _ _ _ => trivial)
  intro _ asks asksDone _ valid
  exact ⟨⟨bidsDone.1, asksDone.1, validateTop_eq_ok.mp valid⟩,
    bidsDone.1, asksDone.1, bidsDone.2, asksDone.2⟩

theorem fromSnapshot_spec (begun : fromSnapshot symbol snapshot = .ok book) :
    book.WellFormed ∧ book.Holds snapshot ∧ book.lastUpdateId = snapshot.lastUpdateId := by
  simp only [fromSnapshot, bind_eq_ok, require_eq_ok] at begun
  obtain ⟨_, -, _, -, mapped⟩ := begun
  generalize ran : (load snapshot).exec ⟨symbol, snapshot.lastUpdateId, ∅, ∅⟩ = final at mapped
  obtain ⟨exit, after⟩ := final
  cases exit with
  | error message => cases mapped
  | ok _ =>
    cases mapped
    have spec := returned_of_wp load_spec ran
    exact spec

/-- The snapshot lists exactly the levels that the venue has at its number. -/
structure Full (snapshot : DepthSnapshot) (venue : Venue) : Prop where
  bids : ∀ level, level ∈ snapshot.bids ↔ level.quantity ≠ 0 ∧
    level.quantity = venue.bids.tableAt snapshot.lastUpdateId level.price
  asks : ∀ level, level ∈ snapshot.asks ↔ level.quantity ≠ 0 ∧
    level.quantity = venue.asks.tableAt snapshot.lastUpdateId level.price

theorem overlay_of_full {table : ℚ → ℚ}
    (full : ∀ level, level ∈ levels ↔ level.quantity ≠ 0 ∧ level.quantity = table level.price) :
    overlay (fun _ => 0) (levels.map entry) = table := by
  funext price
  by_cases named : price ∈ (levels.map entry).map Prod.fst
  · refine overlay_of_agrees ?_ named
    intro entry entered
    obtain ⟨level, mem, rfl⟩ := mem_map.mp entered
    exact ((full level).mp mem).2
  · rw [overlay_of_not_mem named]
    -- a level of the venue at this price would be listed
    by_contra present
    apply named
    have mem := (full ⟨price, table price⟩).mpr ⟨fun zero => present zero.symm, rfl⟩
    simp only [map_map, mem_map]
    exact ⟨_, mem, rfl⟩

theorem fromSnapshot_replicates (begun : fromSnapshot symbol snapshot = .ok book)
    (full : Full snapshot venue) : book.WellFormed ∧ book.Replicates venue := by
  obtain ⟨wellFormed, holds, last⟩ := fromSnapshot_spec begun
  refine ⟨wellFormed, .of_quantities holds.bidsPositive holds.asksPositive ?_ ?_⟩
  · rw [holds.bids, last, overlay_of_full full.bids]
  · rw [holds.asks, last, overlay_of_full full.asks]

/-! ### Any deliveries -/

/-- The updates of a list were applied in order and each returned. -/
inductive Delivered : SpotDepthBook → List DepthUpdate → SpotDepthBook → Prop
  | start (book : SpotDepthBook) : Delivered book [] book
  | next {book before after : SpotDepthBook} {updates : List DepthUpdate} {update : DepthUpdate}
      {result : DepthApplyResult} (sofar : Delivered book updates before)
      (ran : (apply update).exec before = (.ok result, after)) :
      Delivered book (updates ++ [update]) after

/-- The run lemma: accepted deliveries of faithful updates leave a replica. -/
theorem Delivered.replicates {updates : List DepthUpdate} (delivered : Delivered book updates after)
    (wellFormed : book.WellFormed) (replicates : book.Replicates venue)
    (faithful : ∀ update ∈ updates, update.Faithful venue) :
    after.WellFormed ∧ after.Replicates venue := by
  induction delivered with
  | start => exact ⟨wellFormed, replicates⟩
  | @next before after updates update result sofar ran ih =>
    obtain ⟨wellFormedBefore, replicatesBefore⟩ := ih fun earlier mem =>
      faithful earlier (mem_append_left _ mem)
    have outcome := returned_of_wp (apply_spec wellFormedBefore update) ran
    exact outcome.replicates wellFormedBefore replicatesBefore
      (faithful update (mem_append_right _ mem_cons_self))

end SpotDepthBook

open SpotDepthBook

/-- Updates of the venue are delivered with any losses, repetitions and in any order to a book begun
from a full snapshot.  As long as each of them was accepted, the book is the venue's at the number
of its last update, with positive levels and an uncrossed top; the next update never lowers the
number, changes nothing when it is stale, and is refused when it leaves a gap. -/
theorem depth_book_replicates_the_venue {venue : Venue} {symbol : String}
    {snapshot : DepthSnapshot} {updates : List DepthUpdate} {begun book : SpotDepthBook}
    (full : Full snapshot venue) (start : fromSnapshot symbol snapshot = .ok begun)
    (faithful : ∀ update ∈ updates, update.Faithful venue)
    (delivered : Delivered begun updates book) :
    book.Replicates venue ∧ book.WellFormed ∧
      ∀ update : DepthUpdate,
        (∀ result after, (apply update).exec book = (.ok result, after) →
          book.lastUpdateId ≤ after.lastUpdateId ∧ (result = .stale → after = book)) ∧
        (book.lastUpdateId + 1 < update.firstUpdateId →
          ∃ message, (apply update).exec book = (.error message, book)) := by
  obtain ⟨wellFormedBegun, replicatesBegun⟩ := fromSnapshot_replicates start full
  obtain ⟨wellFormed, replicates⟩ :=
    delivered.replicates wellFormedBegun replicatesBegun faithful
  refine ⟨replicates, wellFormed, ?_⟩
  intro update
  refine ⟨?_, apply_gap⟩
  intro result after ran
  have outcome := returned_of_wp (apply_spec wellFormed update) ran
  refine ⟨outcome.lastUpdateId_le, ?_⟩
  intro stale
  subst stale
  cases outcome
  rfl

/-- A venue whose second change raises its one bid. -/
def sampleVenue : Venue where
  bids := { initial := fun price => if price = 1 then 2 else 0
            changes := fun n => if n = 2 then [(1, 3)] else [] }
  asks := { initial := fun price => if price = 2 then 5 else 0, changes := fun _ => [] }

def sampleSnapshot : DepthSnapshot where
  lastUpdateId := 1
  bids := [⟨1, 2⟩]
  asks := [⟨2, 5⟩]

def sampleUpdate : DepthUpdate where
  symbol := "WLDUSDC"
  firstUpdateId := 1
  finalUpdateId := 2
  bids := [⟨1, 3⟩]
  asks := []

theorem sampleVenue_full : Full sampleSnapshot sampleVenue where
  bids level := by
    obtain ⟨price, quantity⟩ := level
    by_cases here : price = 1
    · simp +contextual [sampleSnapshot, sampleVenue, History.tableAt, here]
    · simp +contextual [sampleSnapshot, sampleVenue, History.tableAt, here]
  asks level := by
    obtain ⟨price, quantity⟩ := level
    by_cases here : price = 2
    · simp +contextual [sampleSnapshot, sampleVenue, History.tableAt, here]
    · simp +contextual [sampleSnapshot, sampleVenue, History.tableAt, here]

theorem sampleUpdate_faithful : sampleUpdate.Faithful sampleVenue where
  bids := by
    refine ⟨by simp [sampleUpdate, sampleVenue, History.tableAt, entry], ?_⟩
    intro n _ _ price changed
    by_cases second : n = 2
    · simpa [History.Changes, sampleVenue, sampleUpdate, entry, second] using changed
    · simp [History.Changes, sampleVenue, second] at changed
  asks := by
    refine ⟨by simp [sampleUpdate], ?_⟩
    intro n _ _ price changed
    simp [History.Changes, sampleVenue] at changed

/-- One update delivered after the snapshot, twice. -/
theorem sample_book_replicates :
    ∃ begun book, fromSnapshot "WLDUSDC" sampleSnapshot = .ok begun ∧
      Delivered begun [sampleUpdate, sampleUpdate] book ∧ book.lastUpdateId = 2 ∧
      book.Replicates sampleVenue ∧ book.WellFormed := by
  have ran : (fromSnapshot "WLDUSDC" sampleSnapshot).toOption.map (fun begun =>
      let (first, once) := (apply sampleUpdate).exec begun
      let (second, twice) := (apply sampleUpdate).exec once
      (first.toOption, second.toOption, twice.lastUpdateId)) =
      some (some .applied, some .stale, 2) := by
    decide +kernel
  cases start : fromSnapshot "WLDUSDC" sampleSnapshot with
  | error message => simp [start, Except.toOption] at ran
  | ok begun =>
    simp only [start, Except.toOption, Option.map_some, Option.some.injEq] at ran
    generalize first : (apply sampleUpdate).exec begun = once at ran
    obtain ⟨firstExit, once⟩ := once
    generalize second : (apply sampleUpdate).exec once = twice at ran
    obtain ⟨secondExit, twice⟩ := twice
    simp only [Prod.mk.injEq] at ran
    obtain ⟨firstOk, secondOk, last⟩ := ran
    cases firstExit with
    | error message => cases firstOk
    | ok firstResult =>
      cases secondExit with
      | error message => cases secondOk
      | ok secondResult =>
        have delivered : Delivered begun [sampleUpdate, sampleUpdate] twice :=
          ((Delivered.start begun).next first).next second
        obtain ⟨replicates, wellFormed, -⟩ := depth_book_replicates_the_venue sampleVenue_full start
          (by simp [sampleUpdate_faithful]) delivered
        exact ⟨begun, twice, rfl, delivered, last, replicates, wellFormed⟩

/-! ## The feed -/

/-- The part of the market data feed that owns the book. -/
structure DepthFeed where
  depthSymbol : String
  depthBook : Option SpotDepthBook

/-- The updates received after the snapshot are applied until one continues it. -/
def bootstrap : List DepthUpdate → Proc SpotDepthBook String Unit
  | [] => throw "Binance depth bootstrap timed out"
  | update :: rest => do
    let result ← apply update
    if result = .applied then
      pure ()
    else
      bootstrap rest

inductive FeedEvent
  /-- The socket connects: the snapshot fetched, and the updates received until the first that
  continues it. -/
  | connect (snapshot : DepthSnapshot) (received : List DepthUpdate)
  | depthUpdate (update : DepthUpdate)
  | disconnect

namespace DepthFeed

/-- An error of either kind of event disconnects, which forgets the book. -/
def step (feed : DepthFeed) : FeedEvent → DepthFeed
  | .connect snapshot received =>
    match fromSnapshot feed.depthSymbol snapshot with
    | .error _ => { feed with depthBook := none }
    | .ok begun =>
      match (bootstrap received).exec begun with
      | (.ok _, book) => { feed with depthBook := some book }
      | (.error _, _) => { feed with depthBook := none }
  | .depthUpdate update =>
    match feed.depthBook with
    | none => { feed with depthBook := none }
    | some book =>
      match (apply update).exec book with
      | (.ok .applied, after) => { feed with depthBook := some after }
      | _ => { feed with depthBook := none }
  | .disconnect => { feed with depthBook := none }

end DepthFeed

/-- What the venue sends: its full book, and the changes since. -/
def FeedEvent.Faithful (venue : Venue) : FeedEvent → Prop
  | .connect snapshot received =>
    Full snapshot venue ∧ ∀ update ∈ received, update.Faithful venue
  | .depthUpdate update => update.Faithful venue
  | .disconnect => True

theorem bootstrap_spec {venue : Venue} {book : SpotDepthBook} {received : List DepthUpdate}
    (wellFormed : book.WellFormed) (replicates : book.Replicates venue)
    (faithful : ∀ update ∈ received, update.Faithful venue) :
    wp (bootstrap received)
      (fun _ after => after.WellFormed ∧ after.Replicates venue) (fun _ _ => True) book := by
  induction received generalizing book with
  | nil => exact trivial
  | cons update rest ih =>
    rw [bootstrap, wp_bind]
    refine wp_mono (apply_spec wellFormed update) ?_ (fun _ _ failed => failed)
    intro result after outcome
    obtain ⟨wellFormedAfter, replicatesAfter⟩ := outcome.replicates wellFormed replicates
      (faithful update mem_cons_self)
    rw [wp_ite]
    exact ⟨fun _ => ⟨wellFormedAfter, replicatesAfter⟩, fun _ => ih wellFormedAfter replicatesAfter
      fun later mem => faithful later (mem_cons_of_mem _ mem)⟩

namespace DepthFeed

/-- The feed has no book, or a well-formed replica of the venue's. -/
def Sound (feed : DepthFeed) (venue : Venue) : Prop :=
  ∀ book, feed.depthBook = some book → book.WellFormed ∧ book.Replicates venue

variable {venue : Venue} {feed : DepthFeed}

theorem Sound.of_none (none : feed.depthBook = none) : feed.Sound venue := by
  intro book held
  rw [none] at held
  cases held

theorem Sound.step {event : FeedEvent} (sound : feed.Sound venue) (faithful : event.Faithful venue) :
    (feed.step event).Sound venue := by
  cases event with
  | connect snapshot received =>
    unfold DepthFeed.step
    dsimp only
    cases start : fromSnapshot feed.depthSymbol snapshot with
    | error message => exact .of_none rfl
    | ok begun =>
      obtain ⟨wellFormed, replicates⟩ := fromSnapshot_replicates start faithful.1
      have spec := bootstrap_spec wellFormed replicates faithful.2
      unfold wp at spec
      dsimp only
      split at spec
      · rename_i ran
        rw [ran]
        intro book held
        cases held
        exact spec
      · rename_i ran
        rw [ran]
        exact .of_none rfl
  | depthUpdate update =>
    unfold DepthFeed.step
    dsimp only
    cases held : feed.depthBook with
    | none => exact .of_none rfl
    | some book =>
      obtain ⟨wellFormed, replicates⟩ := sound book held
      have spec := apply_spec wellFormed update
      unfold wp at spec
      dsimp only
      split at spec
      · rename_i result after ran
        rw [ran]
        cases result with
        | stale => exact .of_none rfl
        | applied =>
          intro book held
          cases held
          exact spec.replicates wellFormed replicates faithful
      · rename_i ran
        rw [ran]
        exact .of_none rfl
  | disconnect => exact .of_none rfl

/-- However often the feed connects, is cut off or errs, a book it holds is the venue's. -/
theorem book_replicates {events : List FeedEvent} {symbol : String}
    (faithful : ∀ event ∈ events, event.Faithful venue) :
    (events.foldl step ⟨symbol, none⟩).Sound venue := by
  have run : ∀ feed : DepthFeed, feed.Sound venue → (events.foldl step feed).Sound venue := by
    induction events with
    | nil => exact fun _ sound => sound
    | cons event rest ih =>
      intro feed sound
      exact ih (fun later mem => faithful later (mem_cons_of_mem _ mem)) _
        (sound.step (faithful event mem_cons_self))
  exact run _ (.of_none rfl)

/-- The update comes twice, which disconnects, and the socket connects again. -/
def sampleEvents : List FeedEvent :=
  [.connect sampleSnapshot [sampleUpdate], .depthUpdate sampleUpdate,
    .connect sampleSnapshot [sampleUpdate]]

theorem sampleEvents_replicate : ∃ book,
    (sampleEvents.foldl step ⟨"WLDUSDC", none⟩).depthBook = some book ∧
      book.WellFormed ∧ book.Replicates sampleVenue := by
  have faithful : ∀ event ∈ sampleEvents, event.Faithful sampleVenue := by
    simp [sampleEvents, FeedEvent.Faithful, sampleVenue_full, sampleUpdate_faithful]
  obtain ⟨book, held⟩ := Option.isSome_iff_exists.mp (show
    (sampleEvents.foldl step ⟨"WLDUSDC", none⟩).depthBook.isSome = true by decide +kernel)
  exact ⟨book, held, book_replicates faithful book held⟩

end DepthFeed

end PolyBot.Binance
