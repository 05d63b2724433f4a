import Mathlib.Data.List.Induction
import PolyBot.Lib.Machine
import PolyBot.Lib.Proc

/-!
# Append-only logs

A log keeps a state in memory and the records that led to it in a file.  A record is first applied
to a copy of the state, then written and synced, and only then does the copy become the state.  A
failed write poisons the log: its state stays what it was, and nothing is appended to it again.

* `AppendLog.append` and `AppendLog.load`: one append, and reading the file back.
* `AppendLog.wp_append`: what one append can do, exit by exit.
* `AppendLog.append_state`: a property that every accepted record preserves is kept by every append.
* `AppendLog.Recovers`: a property of the states that a file can be opened to, and what one write
  makes of it.
* `AppendLog.Mirrored`: the file is opened to a state related to the memory, which every synced
  append keeps as long as there are sequence numbers.
* `AppendLog.Current`: the case in which it is opened to what is in memory.
-/

namespace AppendLog

/-- How the disk answers one write: it is synced, or it fails and leaves nothing, the whole record,
or a torn one. -/
inductive Write where
  | synced
  | lost
  | kept
  | torn
  deriving DecidableEq

/-- The environment of one append: the clock, the length the record encodes to, and the disk. -/
structure Io where
  clock : Option Nat
  encodedLen : Option Nat
  write : Write
  deriving DecidableEq

/-- The complete records of a file and whether a torn one follows them. -/
structure File (ρ : Type) where
  records : List ρ
  torn : Bool
  deriving DecidableEq

/-- The file after a write of `r`. -/
def File.after {ρ : Type} (file : File ρ) (r : ρ) : Write → File ρ
  | .synced | .kept => { file with records := file.records ++ [r] }
  | .lost => file
  | .torn => { file with torn := true }

/-- What is particular to one kind of log: its state, its records and the texts of its errors. -/
structure Format (σ ρ ε : Type) where
  init : σ
  apply : σ → ρ → Except ε σ
  /-- The record as it is read back from the file. -/
  stored : ρ → ρ
  sequence : ρ → Nat
  lineLimit : Nat
  poisonedError : ε
  clockError : ε
  encodeError : ε
  tooLargeError : ε
  writeError : ε
  overflowError : ε
  /-- The record's number and the expected one. -/
  sequenceError : Nat → Nat → ε
  tornError : ε

end AppendLog

/-- A log in memory. -/
structure AppendLog (σ ρ : Type) where
  state : σ
  nextSequence : Nat
  poisoned : Bool
  file : AppendLog.File ρ

namespace AppendLog

open Proc

variable {σ ρ ε : Type} (fmt : Format σ ρ ε)

/-- One append of the record `entry sequence clock`, after the caller's own `check`. -/
def append (io : Io) (check : Except ε Unit) (entry : Nat → Nat → ρ) :
    Proc (AppendLog σ ρ) ε Unit := do
  let log ← get
  ensure (log.poisoned = false) fmt.poisonedError
  lift check
  let now ← orFail io.clock fmt.clockError
  let record := entry log.nextSequence now
  let next ← lift (fmt.apply log.state record)
  let encodedLen ← orFail io.encodedLen fmt.encodeError
  ensure (encodedLen < fmt.lineLimit) fmt.tooLargeError
  let file := log.file.after (fmt.stored record) io.write
  if io.write = .synced then
    -- the state is replaced before the sequence number is checked for overflow
    set { log with state := next, file := file }
    let sequence ← orFail (checkedAdd 64 log.nextSequence 1) fmt.overflowError
    modify fun log => { log with nextSequence := sequence }
  else
    set { log with poisoned := true, file := file }
    throw fmt.writeError

/-- One record of a file read back: its sequence number is checked, then it is applied. -/
def loadStep (acc : σ × Nat) (record : ρ) : Except ε (σ × Nat) :=
  if fmt.sequence record = acc.2 then
    match fmt.apply acc.1 record with
    | .ok next =>
      match checkedAdd 64 acc.2 1 with
      | some sequence => .ok (next, sequence)
      | none => .error fmt.overflowError
    | .error e => .error e
  else
    .error (fmt.sequenceError (fmt.sequence record) acc.2)

/-- The state and the next sequence number after a list of records. -/
def replay (records : List ρ) : Except ε (σ × Nat) :=
  records.foldlM (loadStep fmt) (fmt.init, 0)

/-- The log a file is opened to. -/
def load (file : File ρ) : Except ε (AppendLog σ ρ) :=
  match replay fmt file.records with
  | .ok (state, sequence) =>
    if file.torn then .error fmt.tornError
    else .ok { state := state, nextSequence := sequence, poisoned := false, file := file }
  | .error e => .error e

/-- The log after a durable append of `record`, whose application gave `next`. -/
def appended (log : AppendLog σ ρ) (record : ρ) (next : σ) : AppendLog σ ρ :=
  { log with
    state := next
    nextSequence := log.nextSequence + 1
    file := log.file.after (fmt.stored record) .synced }

/-- The log after a failed write. -/
def spoiled (log : AppendLog σ ρ) (record : ρ) (write : Write) : AppendLog σ ρ :=
  { log with poisoned := true, file := log.file.after (fmt.stored record) write }

variable {check : Except ε Unit} {entry : Nat → Nat → ρ} {fmt : Format σ ρ ε} {io : Io}
  {log : AppendLog σ ρ} {P : σ → Prop} {acc : σ × Nat} {record : ρ} {file : File ρ}
  {E : ε → AppendLog σ ρ → Prop} {Q : Unit → AppendLog σ ρ → Prop} {records : List ρ} {δ τ : Type}

/-- What one append can do: refuse and change nothing, fail to write and poison the log, exhaust
the sequence numbers after the state has been replaced, or append. -/
theorem wp_append (refused : ∀ e, E e log)
    (unwritten : ∀ now next, log.poisoned = false → check = .ok () →
      fmt.apply log.state (entry log.nextSequence now) = .ok next → io.write ≠ .synced →
      E fmt.writeError (spoiled fmt log (entry log.nextSequence now) io.write))
    (exhausted : ∀ now next, log.poisoned = false → check = .ok () →
      fmt.apply log.state (entry log.nextSequence now) = .ok next →
      2 ^ 64 ≤ log.nextSequence + 1 →
      E fmt.overflowError { appended fmt log (entry log.nextSequence now) next with
        nextSequence := log.nextSequence })
    (done : ∀ now next, log.poisoned = false → check = .ok () → io.clock = some now →
      fmt.apply log.state (entry log.nextSequence now) = .ok next →
      log.nextSequence + 1 < 2 ^ 64 →
      Q () (appended fmt log (entry log.nextSequence now) next)) :
    wp (append fmt io check entry) Q E log := by
  simp only [append, wp_bind, wp_get, wp_ensure, wp_lift, wp_orFail, wp_ite, wp_set, wp_throw,
    wp_modify]
  refine ⟨fun sound => ⟨fun _ checked => ⟨fun now clock => ⟨fun next applied =>
    ⟨fun len _ => ⟨fun _ => ⟨fun synced => ⟨fun sequence fits => ?_, fun full => ?_⟩,
      fun failed => unwritten now next sound checked applied failed⟩,
    fun _ => refused _⟩, fun _ => refused _⟩, fun _ _ => refused _⟩, fun _ => refused _⟩,
    fun _ _ => refused _⟩, fun _ => refused _⟩
  · obtain ⟨below, rfl⟩ := checkedAdd_eq_some.mp fits
    have := done now next sound checked clock applied below
    simpa only [appended, synced] using this
  · have := exhausted now next sound checked applied (checkedAdd_eq_none.mp full)
    simpa only [appended, synced] using this

/-- An append whose record is accepted and synced. -/
theorem wp_append_accepted {now len : Nat} {next : σ} (sound : log.poisoned = false)
    (checked : check = .ok ()) (clock : io.clock = some now)
    (applied : fmt.apply log.state (entry log.nextSequence now) = .ok next)
    (encoded : io.encodedLen = some len) (short : len < fmt.lineLimit) (synced : io.write = .synced)
    (exhausted : 2 ^ 64 ≤ log.nextSequence + 1 →
      E fmt.overflowError { appended fmt log (entry log.nextSequence now) next with
        nextSequence := log.nextSequence }) (done : log.nextSequence + 1 < 2 ^ 64 →
      Q () (appended fmt log (entry log.nextSequence now) next)) :
    wp (append fmt io check entry) Q E log := by
  simp only [append, wp_bind, wp_get, wp_ensure, wp_lift, wp_orFail, wp_ite, wp_set, wp_throw,
    wp_modify, sound, checked, clock, applied, encoded, short, synced, Option.some.injEq,
    Except.ok.injEq, forall_eq', reduceCtorEq, false_implies, not_true_eq_false, true_implies,
    implies_true, and_true]
  refine fun _ => ⟨fun sequence fits => ?_, fun full => ?_⟩
  · obtain ⟨below, rfl⟩ := checkedAdd_eq_some.mp fits
    simpa only [appended, sound] using done below
  · simpa only [appended, sound] using exhausted (checkedAdd_eq_none.mp full)

/-- A property of the state that every accepted record preserves is kept by every append. -/
theorem append_state
    (preserved : ∀ state record next, P state → fmt.apply state record = .ok next → P next)
    (holds : P log.state) : P ((append fmt io check entry).final log).state := by
  refine final_of_wp (P := fun log : AppendLog σ ρ => P log.state) ?_
  apply wp_append
  · exact fun _ => holds
  · exact fun _ _ _ _ _ _ => holds
  · exact fun now next _ _ applied _ => preserved _ _ next holds applied
  · exact fun now next _ _ _ applied _ => preserved _ _ next holds applied

theorem loadStep_eq_ok {acc' : σ × Nat} :
    loadStep fmt acc record = .ok acc' ↔
      fmt.sequence record = acc.2 ∧ fmt.apply acc.1 record = .ok acc'.1 ∧
        acc.2 + 1 < 2 ^ 64 ∧ acc'.2 = acc.2 + 1 := by
  obtain ⟨state', sequence'⟩ := acc'
  unfold loadStep
  by_cases current : fmt.sequence record = acc.2
  · cases applied : fmt.apply acc.1 record with
    | error e => simp [current]
    | ok next =>
      by_cases fits : acc.2 + 1 < 2 ^ 64
      · simp [current, checkedAdd_eq_some.mpr ⟨fits, rfl⟩, eq_comm] at fits ⊢
        omega
      · simp [current, checkedAdd_eq_none.mpr (Nat.le_of_not_lt fits)] at fits ⊢
        omega
  · simp [current]

/-! ## What a file is opened to after an append -/

theorem replay_append_singleton :
    replay fmt (records ++ [record]) = .ok acc ↔
      ∃ before, replay fmt records = .ok before ∧ loadStep fmt before record = .ok acc := by
  unfold replay
  rw [List.foldlM_append, bind_eq_ok]
  simp

/-- Every state that the file can be opened to has the property. -/
def Recovers (fmt : Format σ ρ ε) (P : σ → Prop) (file : File ρ) : Prop :=
  ∀ acc, replay fmt file.records = .ok acc → P acc.1

theorem Recovers.mono {Q : σ → Prop} (recovers : Recovers fmt P file)
    (weaker : ∀ state, P state → Q state) : Recovers fmt Q file :=
  fun acc replayed => weaker _ (recovers acc replayed)

/-- A write that leaves no whole record leaves the file's states, and one that does adds what the
record makes of them. -/
theorem Recovers.after {Q : σ → Prop} (recovers : Recovers fmt P file) (write : Write)
    (unwritten : write = .lost ∨ write = .torn → ∀ state, P state → Q state)
    (written : write = .synced ∨ write = .kept → ∀ state next, P state →
      fmt.apply state record = .ok next → Q next) : Recovers fmt Q (file.after record write) := by
  have extended : write = .synced ∨ write = .kept →
      Recovers fmt Q { file with records := file.records ++ [record] } := by
    intro durable acc replayed
    obtain ⟨before, replayedBefore, stepped⟩ := replay_append_singleton.mp replayed
    exact written durable _ _ (recovers before replayedBefore) (loadStep_eq_ok.mp stepped).2.1
  cases write with
  | synced => exact extended (Or.inl rfl)
  | kept => exact extended (Or.inr rfl)
  | lost => exact recovers.mono (unwritten (Or.inl rfl))
  | torn => exact recovers.mono (unwritten (Or.inr rfl))

/-- An opened log is one of the states that its file recovers. -/
theorem load_eq_ok (loaded : load fmt file = .ok log) :
    replay fmt file.records = .ok (log.state, log.nextSequence) ∧ log.poisoned = false ∧
      log.file = file := by
  unfold load at loaded
  split at loaded
  · rename_i state sequence replayed
    split at loaded
    · cases loaded
    · cases loaded
      exact ⟨replayed, rfl, rfl⟩
  · cases loaded

/-- The sequence number after a replay counts the records. -/
theorem replay_sequence (replayed : replay fmt records = .ok acc) :
    acc.2 = records.length ∧ acc.2 < 2 ^ 64 := by
  induction records using List.reverseRecOn generalizing acc with
  | nil =>
    cases replayed
    exact ⟨rfl, by omega⟩
  | append_singleton records record ih =>
    obtain ⟨before, replayed, stepped⟩ := replay_append_singleton.mp replayed
    obtain ⟨-, -, fits, next⟩ := loadStep_eq_ok.mp stepped
    have counted := (ih replayed).1
    rw [List.length_append, List.length_singleton]
    omega

/-- The file is whole, and what it replays to is related to what is in memory, unless it has more
records than there are sequence numbers. -/
structure Mirrored {τ δ : Type} (read : Format τ ρ δ) (R : σ → τ → Prop) (log : AppendLog σ ρ) :
    Prop where
  sound : log.poisoned = false
  whole : log.file.torn = false
  replays : log.file.records.length < 2 ^ 64 →
    ∃ state, replay read log.file.records = .ok (state, log.nextSequence) ∧ R log.state state

/-- An append whose write is synced, if it comes to one, keeps the file a mirror when the reader
takes every record that the log takes. -/
theorem Mirrored.append {read : Format τ ρ δ} {R : σ → τ → Prop} (mirrored : Mirrored read R log)
    (synced : io.write = .synced) (check : Except ε Unit)
    (numbered : ∀ sequence now, read.sequence (fmt.stored (entry sequence now)) = sequence)
    (simulated : ∀ sequence now next state, R log.state state →
      fmt.apply log.state (entry sequence now) = .ok next →
      ∃ written, read.apply state (fmt.stored (entry sequence now)) = .ok written ∧
        R next written) : Mirrored read R ((AppendLog.append fmt io check entry).final log) := by
  refine final_of_wp (P := Mirrored read R) ?_
  apply wp_append
  · exact fun _ => mirrored
  · exact fun _ _ _ _ _ failed => absurd synced failed
  · intro now next _ _ _ full
    refine ⟨mirrored.sound, mirrored.whole, fun few => ?_⟩
    -- the record that finds no next number is the one that makes the file too long
    change (log.file.records ++ [_]).length < 2 ^ 64 at few
    rw [List.length_append, List.length_singleton] at few
    obtain ⟨state, replayed, _⟩ := mirrored.replays (by omega)
    have counted := (replay_sequence replayed).1
    exact absurd full (by simp only at counted; omega)
  · intro now next _ _ _ applied fits
    refine ⟨mirrored.sound, mirrored.whole, fun few => ?_⟩
    change (log.file.records ++ [_]).length < 2 ^ 64 at few
    rw [List.length_append, List.length_singleton] at few
    obtain ⟨state, replayed, related⟩ := mirrored.replays (by omega)
    obtain ⟨written, taken, relatedNext⟩ := simulated _ now next state related applied
    refine ⟨written, ?_, relatedNext⟩
    change replay read (log.file.records ++ [fmt.stored _]) = _
    rw [replay_append_singleton]
    exact ⟨_, replayed, loadStep_eq_ok.mpr ⟨numbered _ _, taken, fits, rfl⟩⟩

/-- A mirrored file is opened, exactly as long as the records can be counted, and then to a state
that is related to the memory. -/
theorem Mirrored.load_iff {read : Format τ ρ δ} {R : σ → τ → Prop} (mirrored : Mirrored read R log) :
    (∃ loaded, load read log.file = .ok loaded ∧ loaded.nextSequence = log.nextSequence ∧
      R log.state loaded.state) ↔ log.file.records.length < 2 ^ 64 := by
  constructor
  · intro opens
    obtain ⟨loaded, isLoaded, _⟩ := opens
    obtain ⟨counted, fits⟩ := replay_sequence (load_eq_ok isLoaded).1
    rwa [counted] at fits
  · intro few
    obtain ⟨state, replayed, related⟩ := mirrored.replays few
    refine ⟨⟨state, log.nextSequence, false, log.file⟩, ?_, rfl, related⟩
    simp [load, replayed, mirrored.whole]

/-- The file is whole and replays to what is in memory, unless it has more records than there are
sequence numbers. -/
structure Current (fmt : Format σ ρ ε) (log : AppendLog σ ρ) : Prop where
  sound : log.poisoned = false
  whole : log.file.torn = false
  replays : log.file.records.length < 2 ^ 64 →
    replay fmt log.file.records = .ok (log.state, log.nextSequence)

theorem current_iff_mirrored : Current fmt log ↔ Mirrored fmt Eq log := by
  constructor
  · intro current
    exact ⟨current.sound, current.whole, fun few => ⟨log.state, current.replays few, rfl⟩⟩
  · intro mirrored
    refine ⟨mirrored.sound, mirrored.whole, fun few => ?_⟩
    obtain ⟨state, replayed, same⟩ := mirrored.replays few
    rw [same]
    exact replayed

/-- An append whose write is synced, if it comes to one, keeps a log current. -/
theorem Current.append (current : Current fmt log) (stored : ∀ record, fmt.stored record = record)
    (synced : io.write = .synced) (check : Except ε Unit)
    (numbered : ∀ sequence now, fmt.sequence (entry sequence now) = sequence) :
    Current fmt ((AppendLog.append fmt io check entry).final log) := by
  refine current_iff_mirrored.mpr ((current_iff_mirrored.mp current).append synced check ?_ ?_)
  · intro sequence now
    rw [stored]
    exact numbered sequence now
  · intro sequence now next state same applied
    rw [stored, ← same]
    exact ⟨next, applied, rfl⟩

/-- A current log is what its file is opened to, exactly as long as the records can be counted. -/
theorem Current.load_eq_ok_iff (current : Current fmt log) :
    load fmt log.file = .ok log ↔ log.file.records.length < 2 ^ 64 := by
  constructor
  · intro loaded
    obtain ⟨counted, fits⟩ := replay_sequence (load_eq_ok loaded).1
    rwa [counted] at fits
  · intro few
    obtain ⟨state, nextSequence, poisoned, file⟩ := log
    obtain ⟨sound, whole, replays⟩ := current
    dsimp only at *
    subst sound
    simp [load, replays few, whole]

/-- A measure that each step of a run raises by at most one. -/
theorem measure_foldl_le {σ ι : Type} {step : σ → ι → σ} (measure : σ → Nat)
    (raises : ∀ state input, measure (step state input) ≤ measure state + 1) (state : σ)
    (inputs : List ι) : measure (inputs.foldl step state) ≤ measure state + inputs.length := by
  induction inputs generalizing state with
  | nil => exact le_rfl
  | cons input inputs ih =>
    have rest := ih (step state input)
    have first := raises state input
    rw [List.foldl_cons, List.length_cons]
    omega

end AppendLog
