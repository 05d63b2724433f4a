import Mathlib.Data.List.Induction
import PolyBot.MarketData.EventBuffer

/-!
# The mirror behind the stream

What leaves the event buffer goes to the mirror, which refuses a log that runs ahead of its head or
names another block at the height of the latest one.

* `Reaches`, `reaches_of_fed`: the mirror keeps up with the heads of a stream.
* `headChecked_of_reaches`: a log after its head is not refused for it.
* `canonical_event_ordering`: the buffer, its stream and every mirror that is fed with it.
-/

namespace PolyBot.MarketData

open PolyBot.Dex DexMirror List

/-- An event of the stream, as the engine gives it to the mirror. -/
def applyDexEvent (math : UniswapV3Math) (mirror : DexMirror) :
    DexStreamEvent → Except String DexMirror
  | .log received blockTimestamp => do
    let (_, next) ← mirror.delivered math received.log blockTimestamp
    return next
  | .head received => do
    let (_, next) ← mirror.headed received.head received.timestamp
    return next

/-- The mirror does not refuse a log for its head: the check whose errors are "pool log arrived before
its canonical head" and "pool log block hash differs from canonical head". -/
def HeadChecked (mirror : DexMirror) : DexStreamEvent → Prop
  | .log received _ => mirror.requireLogHead received.log .canonicalStream = .ok ()
  | .head _ => True

/-- The mirror has come to every head that it was given: to a later block, or to that one. -/
def Reaches (fed : List DexStreamEvent) (mirror : DexMirror) : Prop :=
  ∀ arrived ∈ fed.filterMap DexStreamEvent.head?,
    arrived.head.number ≤ mirror.latestHead.number ∧
    (arrived.head.number = mirror.latestHead.number → arrived.head.hash = mirror.latestHead.hash)

section Mirror

variable {math : UniswapV3Math} {mirror next : DexMirror} {timestamp : Option Nat}
  {block : CanonicalBlock} {log : ChainLog} {changed : Option Nat} {arrived : ReceivedHead}
  {fed : List DexStreamEvent}

theorem applyLogInner_latestHead {origin : LogOrigin} {result : LogApplyResult}
    (applied : mirror.applyLogInner math log timestamp origin = .ok (result, next)) :
    next.latestHead = mirror.latestHead := by
  simp only [applyLogInner, bind_eq_ok] at applied
  obtain ⟨_, _, _, _, applied⟩ := applied
  split at applied
  · cases applied
    rfl
  · simp only [applyDecoded, bind_eq_ok] at applied
    obtain ⟨decoded, _, applied⟩ := applied
    cases decoded with
    | none =>
      cases applied
      rfl
    | some event =>
      simp only [applyEvent, bind_eq_ok] at applied
      obtain ⟨_, _, duplicate, _, applied⟩ := applied
      cases duplicate with
      | true =>
        cases applied
        rfl
      | false => exact (applyNew_frame applied).latestHead

theorem delivered_latestHead {timestamp : Nat}
    (delivered : mirror.delivered math log timestamp = .ok (changed, next)) :
    next.latestHead = mirror.latestHead := by
  simp only [DexMirror.delivered, bind_eq_ok] at delivered
  obtain ⟨⟨result, middle⟩, applied, after, published, returned⟩ := delivered
  have kept := applyLogInner_latestHead applied
  have same : after = next := by
    split at returned <;> cases returned <;> rfl
  rw [← same, (DexMirror.publish_spec published).1.latestHead, kept]

theorem recordCanonicalTimestamp_latestHead {timestamp : Nat}
    (recorded : mirror.recordCanonicalTimestamp block timestamp = .ok next) :
    next.latestHead = mirror.latestHead := by
  unfold recordCanonicalTimestamp at recorded
  split at recorded
  · split at recorded
    · simp only [bind_eq_ok, pure_eq_ok] at recorded
      obtain ⟨_, _, rfl⟩ := recorded
      rfl
    · cases recorded
      rfl
  · cases recorded
    rfl

theorem refreshForHead_latestHead {missing : String}
    (refreshed : mirror.refreshForHead block timestamp missing = .ok (changed, next)) :
    next.latestHead = mirror.latestHead := by
  unfold refreshForHead at refreshed
  split at refreshed
  · simp only [bind_eq_ok] at refreshed
    obtain ⟨_, _, recorded, recordedIs, heads⟩ := refreshed
    have kept : ((changed, next) : Option Nat × DexMirror).2.latestHead = recorded.latestHead := by
      refine foldlM_invariant (P := fun result : Option Nat × DexMirror =>
        result.2.latestHead = recorded.latestHead) ?_ rfl heads
      intro result index _ result' same stepped
      simp only [refreshAdaptiveAlgebraHead, bind_eq_ok, pure_eq_ok] at stepped
      obtain ⟨_, _, _, _, _, _, rfl⟩ := stepped
      exact same
    exact kept.trans (recordCanonicalTimestamp_latestHead recordedIs)
  · cases refreshed
    rfl

/-- A head that is accepted lies behind the latest one, is that one, or becomes it. -/
theorem applyHeadAt_latestHead {result : HeadApplyResult}
    (applied : mirror.applyHeadAt block timestamp = .ok (result, next)) :
    next.latestHead = block ∨ next.latestHead = mirror.latestHead ∧
      (block.number < mirror.latestHead.number ∨ block.hash = mirror.latestHead.hash ∧
        block.number = mirror.latestHead.number) := by
  unfold applyHeadAt at applied
  split at applied
  · rename_i behind
    cases applied
    exact .inr ⟨rfl, .inl behind⟩
  · split at applied
    · rename_i level
      simp only [confirmHead, bind_eq_ok, require_eq_ok] at applied
      obtain ⟨_, same, applied⟩ := applied
      refine .inr ⟨?_, .inr ⟨same, level⟩⟩
      split at applied
      · simp only [bind_eq_ok, pure_eq_ok, Prod.mk.injEq] at applied
        obtain ⟨_, _, _, _, _, recorded, _, rfl⟩ := applied
        exact recordCanonicalTimestamp_latestHead recorded
      · cases applied
        rfl
    · simp only [advanceHead, bind_eq_ok, pure_eq_ok, Prod.mk.injEq] at applied
      obtain ⟨_, _, _, _, ⟨changed, refreshed⟩, heads, _, rfl⟩ := applied
      exact .inl (refreshForHead_latestHead heads)

/-- The heads of a history have growing numbers. -/
theorem pairwise_number_append {past : List Notification}
    (growing : (heads past).Pairwise fun first second => first.head.number < second.head.number)
    (admits : Admits past (.head arrived)) :
    (heads past ++ [arrived]).Pairwise fun first second =>
      first.head.number < second.head.number := by
  rw [pairwise_append]
  refine ⟨growing, pairwise_singleton .., ?_⟩
  intro earlier mem other only
  cases mem_singleton.mp only
  rcases eq_nil_or_concat (heads past) with none | ⟨init, last, split⟩
  · rw [none] at mem
    cases mem
  · have child := (admits.1 last (by rw [split, concat_eq_append, getLast?_concat])).1
    rw [split, concat_eq_append] at growing mem
    rcases mem_append.mp mem with inside | ends
    · have below := (pairwise_append.mp growing).2.2 earlier inside last mem_cons_self
      omega
    · cases mem_singleton.mp ends
      omega

theorem pairwise_number_of_arrivals {maximumPending : Nat} {arrivals : List Arrival}
    (arrive : Arrivals maximumPending arrivals) :
    (heads (history arrivals)).Pairwise fun first second =>
      first.head.number < second.head.number := by
  induction arrive with
  | nil => exact .nil
  | @next arrivals arrival _ admits _ ih =>
    have grown : history (arrivals ++ [arrival]) = history arrivals ++ [arrival.notification] := by
      simp [history]
    rw [grown]
    generalize arrival.notification = notification at admits
    cases notification with
    | log received => rwa [heads_append_log]
    | head received =>
      rw [heads_append_head]
      exact pairwise_number_append ih admits

/-- The mirror keeps up with the heads of a stream in which their numbers grow. -/
theorem reaches_of_fed (growing : (fed.filterMap DexStreamEvent.head?).Pairwise fun first second =>
      first.head.number < second.head.number)
    (ran : fed.foldlM (applyDexEvent math) mirror = .ok next) : Reaches fed next := by
  induction fed using reverseRecOn generalizing next with
  | nil => exact fun _ mem => nomatch mem
  | append_singleton fed event ih =>
    rw [filterMap_append] at growing
    rw [foldlM_append, bind_eq_ok] at ran
    obtain ⟨middle, ranBefore, ran⟩ := ran
    rw [foldlM_cons, bind_eq_ok] at ran
    obtain ⟨_, taken, done⟩ := ran
    cases done
    have before := ih (pairwise_append.mp growing).1 ranBefore
    cases event with
    | log received timestamp =>
      simp only [applyDexEvent, bind_eq_ok, pure_eq_ok] at taken
      obtain ⟨⟨_, _⟩, delivered, rfl⟩ := taken
      intro arrived mem
      rw [delivered_latestHead delivered]
      exact before arrived (by simpa [DexStreamEvent.head?] using mem)
    | head received =>
      simp only [applyDexEvent, headed, bind_eq_ok, pure_eq_ok] at taken
      obtain ⟨⟨_, _⟩, ⟨⟨_, _⟩, applied, same⟩, rfl⟩ := taken
      cases same
      have cases' := applyHeadAt_latestHead applied
      intro arrived mem
      rw [filterMap_append, mem_append] at mem
      rcases mem with earlier | new
      · have below : arrived.head.number < received.head.number :=
          (pairwise_append.mp growing).2.2 arrived earlier received mem_cons_self
        obtain ⟨reached, same⟩ := before arrived earlier
        rcases cases' with moved | ⟨kept, -⟩
        · rw [moved]
          exact ⟨below.le, fun level => absurd level below.ne⟩
        · rw [kept]
          exact ⟨reached, same⟩
      · cases mem_singleton.mp new
        rcases cases' with moved | ⟨kept, behind | ⟨same, level⟩⟩
        · rw [moved]
          exact ⟨le_refl _, fun _ => rfl⟩
        · rw [kept]
          exact ⟨behind.le, fun level => absurd level behind.ne⟩
        · rw [kept]
          exact ⟨level.le, fun _ => same⟩

/-- A log that follows its head passes the check of a mirror that has come to the head. -/
theorem headChecked_of_reaches (reaches : Reaches fed mirror) {received : ReceivedLog}
    {timestamp : Nat} (mem : .head arrived ∈ fed) (heads : Heads arrived received timestamp) :
    HeadChecked mirror (.log received timestamp) := by
  obtain ⟨hash, number, -⟩ := heads
  obtain ⟨reached, same⟩ := reaches arrived (mem_filterMap.mpr ⟨_, mem, rfl⟩)
  rw [number] at reached same
  rw [hash] at same
  simp only [HeadChecked, requireLogHead, requireHead]
  rw [require_of (fun _ => reached), ok_bind, require_of fun _ level => same level]

end Mirror

/-- Every canonical interleaving within the capacities is taken whole; the stream is in order, the
pending logs are those whose head has not come, and no mirror that is fed with the stream refuses one
of its logs for its head. -/
theorem canonical_event_ordering {sort : List ReceivedLog → List ReceivedLog}
    (sorts : SortsByPosition sort) {maximumPending : Nat} {arrivals : List Arrival}
    (arrive : Arrivals maximumPending arrivals) :
    ∃ stream, Stream.run sort maximumPending arrivals = .ok stream ∧
      Ordered (history arrivals) stream.sent ∧
      stream.buffer.pendingLogs = waiting (history arrivals) ∧
      stream.buffer.pendingCount = stream.buffer.pendingLogs.length ∧
      ∀ math mirror fed event rest next, stream.sent = fed ++ event :: rest →
        fed.foldlM (applyDexEvent math) mirror = .ok next → HeadChecked next event := by
  obtain ⟨stream, ran, buffered, ordered⟩ := run_of_arrivals sorts arrive
  refine ⟨stream, ran, ordered, buffered.pending, buffered.count, ?_⟩
  intro math mirror fed event rest next split fedTo
  cases event with
  | head received => exact trivial
  | log received timestamp =>
    have growing := pairwise_number_of_arrivals arrive
    rw [← ordered.heads, split, filterMap_append] at growing
    have reaches := reaches_of_fed (pairwise_append.mp growing).1 fedTo
    obtain ⟨arrived, mem, heads⟩ := ordered.after fed received timestamp rest split
    exact headChecked_of_reaches reaches mem heads

/-! ## A block whose logs come early, out of order and late -/

/-- A stable sort by position. -/
def sortByPosition (received : List ReceivedLog) : List ReceivedLog :=
  received.mergeSort fun first second => !decide (second.log.position < first.log.position)

theorem sortByPosition_sorts : SortsByPosition sortByPosition where
  perm := fun received => mergeSort_perm received _
  ordered := by
    intro received
    have sorted := @pairwise_mergeSort ReceivedLog
      (fun first second => !decide (second.log.position < first.log.position))
      (fun first second third => ?_) (fun first second => ?_) received
    · simpa [InPositionOrder, sortByPosition] using sorted
    · simp only [Bool.not_eq_true', decide_eq_false_iff_not, LogPosition.lt_def]
      omega
    · simp only [Bool.or_eq_true, Bool.not_eq_true', decide_eq_false_iff_not, LogPosition.lt_def]
      omega

def logAt (logIndex receivedAt : Nat) : ReceivedLog :=
  ⟨⟨1, [], [], 10, 10, 0, logIndex, false⟩, receivedAt⟩

/-- Two logs, their head, and a third log of the block. -/
def lateLog : List Arrival :=
  [⟨.log (logAt 2 1), 0, ""⟩, ⟨.log (logAt 1 2), 0, ""⟩, ⟨.head ⟨⟨10, 10, 9⟩, 100, 3⟩, 3, ""⟩,
    ⟨.log (logAt 3 4), 1, ""⟩]

theorem lateLog_arrives : Arrivals 2 lateLog := by
  have one : Arrivals 2 (lateLog.take 1) := .next .nil (fun _ mem => nomatch mem)
    (show 0 < 2 by decide)
  have two : Arrivals 2 (lateLog.take 2) := .next one (fun _ mem => nomatch mem)
    (show 1 < 2 by decide)
  have three : Arrivals 2 (lateLog.take 3) := .next two
    ⟨fun _ last => (nomatch last), by decide, by decide⟩ (show 2 < 3 by decide)
  refine .next three ?_ (show 0 < 1 by decide)
  intro arrived mem _
  cases mem_singleton.mp mem
  exact ⟨rfl, [], [], rfl, by decide⟩

/-- The head comes out once, and the log that came after it is not held back. -/
theorem lateLog_in_order : ∃ stream, Stream.run sortByPosition 2 lateLog = .ok stream ∧
    stream.sent.filterMap DexStreamEvent.head? = [⟨⟨10, 10, 9⟩, 100, 3⟩] ∧
    (stream.sent.filterMap DexStreamEvent.log?).Perm [logAt 2 1, logAt 1 2, logAt 3 4] ∧
    stream.buffer.pendingCount = 0 := by
  obtain ⟨stream, ran, ordered, pending, count, -⟩ :=
    canonical_event_ordering sortByPosition_sorts lateLog_arrives
  have none : waiting (history lateLog) = [] := by decide
  refine ⟨stream, ran, ordered.heads, ordered.logs, ?_⟩
  rw [count, pending, none]
  rfl

end PolyBot.MarketData
