import Fleet.ExitStatus
import Fleet.LineReader
import Fleet.Record

/-!
# Relaying output

The lines that a host says on its two streams are written to the console, one at a time, until both
streams have ended. Empty lines are not shown. Where the exit status is wanted it is taken off the
lines of the first stream and noted in the host's record.

When several things are possible, an abort comes first, then the first stream, then the second.
-/

namespace Fleet

/-- How the lines of one host are written. -/
structure Routing where
  /-- The label in front of each line. -/
  label : Option String
  /-- Whether the second stream goes to the second stream of the console. -/
  separateStderr : Bool
  /-- Whether lines of the first stream may carry the exit status. -/
  extractStatus : Bool
  deriving Repr, DecidableEq

namespace Routing

/-- What is shown of a line of the first stream, and the exit status that it carries. -/
def readOut (routing : Routing) (line : Bytes) : String × Option Int32 :=
  if routing.extractStatus then ExitStatus.extract (Utf8.lossy line) else (Utf8.lossy line, none)

/-- Where lines of the second stream go. -/
def errStream (routing : Routing) : Stream := if routing.separateStderr then .err else .out

/-- Writes a line unless it is empty. None when the console takes no more. -/
def show? (routing : Routing) (console : Console) (now : Time) (stream : Stream) (line : String) :
    Option Console :=
  if line = "" then some console else console.write? now stream routing.label line

end Routing

/-- The streams of a host that have not ended. -/
structure Relay where
  /-- The first stream. -/
  out : Option LineReader
  /-- The second stream. -/
  err : Option LineReader
  deriving Repr, DecidableEq

namespace Relay

/-- What became of an attempt to relay something. -/
inductive Outcome where
  /-- A line was relayed, or a stream has ended. -/
  | advanced (record : Record) (console : Console) (next : Relay)
  /-- Both streams have ended. -/
  | finished
  /-- The relay failed. -/
  | failed (record : Record) (e : HostError)
  /-- There is nothing to relay yet. -/
  | waiting (next : Relay)
  deriving Repr

/-- Relays a line of the first stream. -/
def emitOut (routing : Routing) (now : Time) (record : Record) (console : Console) (line : Bytes)
    (next : Relay) : Outcome :=
  let (text, code) := routing.readOut line
  let record := match code with
    | some code => record.setExitCode code
    | none => record
  match routing.show? console now .out text with
  | some console => .advanced record console next
  | none => .failed record (.io .consoleClosed)

/-- Relays a line of the second stream. -/
def emitErr (routing : Routing) (now : Time) (record : Record) (console : Console) (line : Bytes)
    (next : Relay) : Outcome :=
  match routing.show? console now routing.errStream (Utf8.lossy line) with
  | some console => .advanced record console next
  | none => .failed record (.io .consoleClosed)

/-- What one attempt to read from a stream comes to. -/
inductive Heard where
  | line (bytes : Bytes) (rest : LineReader)
  /-- The stream has ended. -/
  | ended
  /-- Reading failed. -/
  | failed (e : IoError)
  /-- Nothing yet, or the stream had ended before. -/
  | silent (rest : Option LineReader)
  deriving Repr

/-- Attempts to read a line from a stream. -/
def listen (now : Time) : Option LineReader → Heard
  | none => .silent none
  | some lines =>
    match lines.poll now with
    | (.line bytes, rest) => .line bytes rest
    | (.tail bytes, rest) => .line bytes rest
    | (.ended, _) => .ended
    | (.failed e, _) => .failed e
    | (.pending, rest) => .silent (some rest)

/-- Relays one thing, as far as there is something. -/
def poll (routing : Routing) (now : Time) (record : Record) (console : Console) (relay : Relay) :
    Outcome :=
  if relay.out.isNone && relay.err.isNone then .finished
  else if record.aborted then .failed record (.interrupted .executing)
  else match listen now relay.out with
    | .line bytes rest => emitOut routing now record console bytes { relay with out := some rest }
    | .ended => .advanced record console { relay with out := none }
    | .failed e => .failed record (.io e)
    | .silent out =>
      match listen now relay.err with
      | .line bytes rest => emitErr routing now record console bytes ⟨out, some rest⟩
      | .ended => .advanced record console ⟨out, none⟩
      | .failed e => .failed record (.io e)
      | .silent err => .waiting ⟨out, err⟩

/-- Whether some stream has not ended. -/
def isOpen (relay : Relay) : Bool := relay.out.isSome || relay.err.isSome

section Poll

variable {routing : Routing} {now : Time} {record record' : Record} {console console' : Console}
  {relay next : Relay}

theorem emitOut_cases (routing : Routing) (now : Time) (record : Record) (console : Console)
    (line : Bytes) (next : Relay) :
    ∃ code, (∃ console', emitOut routing now record console line next
        = .advanced { record with exitCode := code } console' next) ∨
      emitOut routing now record console line next
        = .failed { record with exitCode := code } (.io .consoleClosed) := by
  unfold emitOut
  rcases routing.readOut line with ⟨text, found⟩
  obtain ⟨code, same⟩ : ∃ code, (match found with
      | some code => record.setExitCode code
      | none => record) = { record with exitCode := code } := by
    cases found with
    | none => exact ⟨record.exitCode, rfl⟩
    | some code => exact record.setExitCode_eq code
  refine ⟨code, ?_⟩
  simp only [same]
  split
  · exact .inl ⟨_, rfl⟩
  · exact .inr rfl

theorem emitErr_cases (routing : Routing) (now : Time) (record : Record) (console : Console)
    (line : Bytes) (next : Relay) :
    (∃ console', emitErr routing now record console line next
        = .advanced record console' next) ∨
      emitErr routing now record console line next = .failed record (.io .consoleClosed) := by
  unfold emitErr
  split
  · exact .inl ⟨_, rfl⟩
  · exact .inr rfl

/-- **What an attempt comes to.** It is over when both streams have ended; an abort comes before
everything else; and otherwise the record gets an exit code at most. -/
theorem poll_cases (routing : Routing) (now : Time) (record : Record) (console : Console)
    (relay : Relay) :
    (relay.isOpen = false ∧ poll routing now record console relay = .finished) ∨
      (relay.isOpen = true ∧ record.aborted = true ∧
        poll routing now record console relay = .failed record (.interrupted .executing)) ∨
      (relay.isOpen = true ∧ record.aborted = false ∧
        ((∃ code console' next, poll routing now record console relay
            = .advanced { record with exitCode := code } console' next) ∨
          (∃ code e, poll routing now record console relay
            = .failed { record with exitCode := code } e) ∨
          ∃ next, poll routing now record console relay = .waiting next)) := by
  have ended : (relay.out.isNone && relay.err.isNone) = !relay.isOpen := by
    unfold isOpen
    cases relay.out <;> cases relay.err <;> rfl
  rw [poll, ended]
  cases unended : relay.isOpen with
  | false => exact .inl ⟨rfl, rfl⟩
  | true =>
    refine .inr ?_
    by_cases asked : record.aborted = true
    · exact .inl ⟨rfl, asked, if_pos asked⟩
    · refine .inr ⟨rfl, Bool.eq_false_iff.mpr asked, ?_⟩
      simp only [Bool.not_true, Bool.false_eq_true, if_false, if_neg asked]
      cases listen now relay.out with
      | line bytes rest =>
        obtain ⟨code, ⟨console', same⟩ | same⟩ := emitOut_cases routing now record console bytes
          { relay with out := some rest }
        · exact .inl ⟨code, console', _, same⟩
        · exact .inr (.inl ⟨code, _, same⟩)
      | ended => exact .inl ⟨record.exitCode, console, _, rfl⟩
      | failed e => exact .inr (.inl ⟨record.exitCode, _, rfl⟩)
      | silent out =>
        cases listen now relay.err with
        | line bytes rest =>
          rcases emitErr_cases routing now record console bytes ⟨out, some rest⟩ with
            ⟨console', same⟩ | same
          · exact .inl ⟨record.exitCode, console', _, same⟩
          · exact .inr (.inl ⟨record.exitCode, _, same⟩)
        | ended => exact .inl ⟨record.exitCode, console, _, rfl⟩
        | failed e => exact .inr (.inl ⟨record.exitCode, _, rfl⟩)
        | silent err => exact .inr (.inr ⟨_, rfl⟩)

theorem poll_eq_finished_iff :
    poll routing now record console relay = .finished ↔ relay.isOpen = false := by
  rcases poll_cases routing now record console relay with
    ⟨ended, same⟩ | ⟨unended, -, same⟩ |
      ⟨unended, -, ⟨_, _, _, same⟩ | ⟨_, _, same⟩ | ⟨_, same⟩⟩ <;> simp [*]

/-- An abort comes before everything else. -/
theorem poll_of_aborted (unended : relay.isOpen = true) (asked : record.aborted = true) :
    poll routing now record console relay = .failed record (.interrupted .executing) := by
  rcases poll_cases routing now record console relay with
    ⟨ended, -⟩ | ⟨-, -, same⟩ | ⟨-, calm, -⟩
  · simp [ended] at unended
  · exact same
  · simp [calm] at asked

/-- Something is relayed only for a host that is not to abort, and it can give the host an exit code
but changes nothing else about it. -/
theorem poll_advanced
    (result : poll routing now record console relay = .advanced record' console' next) :
    record.aborted = false ∧ ∃ code, record' = { record with exitCode := code } := by
  rcases poll_cases routing now record console relay with
    ⟨-, same⟩ | ⟨-, -, same⟩ | ⟨-, calm, ⟨code, _, _, same⟩ | ⟨_, _, same⟩ | ⟨_, same⟩⟩ <;>
    rw [same] at result <;> cases result
  exact ⟨calm, code, rfl⟩

theorem poll_failed {e : HostError}
    (result : poll routing now record console relay = .failed record' e) :
    ∃ code, record' = { record with exitCode := code } := by
  rcases poll_cases routing now record console relay with
    ⟨-, same⟩ | ⟨-, -, same⟩ | ⟨-, -, ⟨_, _, _, same⟩ | ⟨code, _, same⟩ | ⟨_, same⟩⟩ <;>
    rw [same] at result <;> cases result
  · exact ⟨record.exitCode, rfl⟩
  · exact ⟨code, rfl⟩

theorem show?_grows {stream : Stream} {line : String}
    (shown : routing.show? console now stream line = some console') :
    console.lines <+: console'.lines := by
  unfold Routing.show? at shown
  split at shown
  · cases shown
    exact List.prefix_rfl
  · rw [(Console.write?_eq_some shown).2]
    exact List.prefix_append ..

/-- Nothing that was written is taken back. -/
theorem poll_grows
    (result : poll routing now record console relay = .advanced record' console' next) :
    console.lines <+: console'.lines := by
  have out {line : Bytes} {rest : Relay}
      (result : emitOut routing now record console line rest = .advanced record' console' next) :
      console.lines <+: console'.lines := by
    unfold emitOut at result
    simp only at result
    split at result
    · next shown => cases result; exact show?_grows shown
    · cases result
  have err {line : Bytes} {rest : Relay}
      (result : emitErr routing now record console line rest = .advanced record' console' next) :
      console.lines <+: console'.lines := by
    unfold emitErr at result
    split at result
    · next shown => cases result; exact show?_grows shown
    · cases result
  unfold poll at result
  split at result
  · cases result
  · split at result
    · cases result
    · split at result
      · exact out result
      · cases result; exact List.prefix_rfl
      · cases result
      · split at result
        · exact err result
        · cases result; exact List.prefix_rfl
        · cases result
        · cases result

/-- Relaying fails only while some stream has not ended. -/
theorem isOpen_of_poll_failed {e : HostError}
    (result : poll routing now record console relay = .failed record' e) :
    relay.isOpen = true := by
  rcases poll_cases routing now record console relay with ⟨-, same⟩ | ⟨unended, -⟩ | ⟨unended, -⟩
  · rw [same] at result
    cases result
  · exact unended
  · exact unended

end Poll

/-- When something next happens after a moment on a stream. -/
def nextAfter (now : Time) (lines : Option LineReader) : List Time :=
  (lines.bind fun lines => lines.reader.source.nextAfter now).toList

/-- When something next happens on either stream. -/
def nextTimes (now : Time) (relay : Relay) : List Time :=
  nextAfter now relay.out ++ nextAfter now relay.err

/-- Relays everything, with an abort at a moment if there is one: the record, the console, when it
was over and what came of it. None when nothing more can happen, or not within so many steps. -/
def run (routing : Routing) (abortAt : Option Time) :
    Nat → Time → Record → Console → Relay →
      Record × Console × Time × Option (Except HostError Unit)
  | 0, now, record, console, _ => (record, console, now, none)
  | steps + 1, now, record, console, relay =>
    let record := if abortAt.any (· ≤ now) then record.abort else record
    match poll routing now record console relay with
    | .advanced record console next => run routing abortAt steps now record console next
    | .finished => (record, console, now, some (.ok ()))
    | .failed record e => (record, console, now, some (.error e))
    | .waiting next =>
      match (next.nextTimes now ++ abortAt.toList).filter (now < ·) with
      | [] => (record, console, now, none)
      | t :: ts => run routing abortAt steps (ts.foldl min t) record console next

end Relay

end Fleet
