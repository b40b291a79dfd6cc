import Fleet.Address
import Fleet.Console
import Fleet.Error

/-!
# Records

Each host of a run has a record: its phase, when it entered each phase, what came of it, and whether
it has been asked to abort. `advance` is the only way to another phase; it stamps the time, and a
step that is not legal changes nothing. The failure and the backchannel are written once: later
writes have no effect. The exit code may be written until the host's life is over.
-/

namespace Fleet

/-- The kind of backend that opens a run's sessions. -/
inductive ConnectionKind where
  /-- Sessions of the secure shell. -/
  | ssh
  /-- A local client program for each host. -/
  | exec
  deriving Repr, DecidableEq

/-- The name by which a kind of backend is chosen. -/
def ConnectionKind.name : ConnectionKind → String
  | ssh => "ssh"
  | exec => "exec"

/-- A way to send signals to the remote side of a session. -/
structure Backchannel where
  /-- The name under which signals through it are noted. -/
  name : String
  /-- What comes of sending, where it fails. -/
  fault : Option HostError := none
  deriving Repr, DecidableEq

/-- What is known about one host of a run. -/
structure Record where
  host : Host
  /-- Its address, where the backend needs one. -/
  address : Option Address := none
  /-- Who we are here. -/
  localUser : String
  /-- Who we are to be there. -/
  remoteUser : String
  /-- The kind of its session. -/
  kind : ConnectionKind
  /-- Its place in the target list. -/
  nodeIndex : Nat
  /-- Whether its output is labelled. -/
  displayLabels : Bool := true
  phase : Phase := .new
  /-- When its session began to be opened. -/
  startedAt : Option Time := none
  /-- When its session was open. -/
  connectedAt : Option Time := none
  /-- When its life was over. -/
  finishedAt : Option Time := none
  /-- The exit code of its command, where one is known. -/
  exitCode : Option Int32 := none
  /-- The way to signal its remote side. -/
  backchannel : Option Backchannel := none
  /-- Why it failed. -/
  failure : Option String := none
  /-- Whether it has been asked to abort. -/
  aborted : Bool := false
  deriving Repr, DecidableEq

namespace Record

/-- The name of the host. -/
def hostname (record : Record) : String := record.host.hostname

/-- Notes when a phase was entered, unless that is noted already. -/
def stamp (record : Record) (now : Time) : Phase → Record
  | .connecting => { record with startedAt := record.startedAt.or (some now) }
  | .executing => { record with connectedAt := record.connectedAt.or (some now) }
  | .done | .failed => { record with finishedAt := record.finishedAt.or (some now) }
  | .new => record

/-- Steps to another phase, if that is legal. Says whether it was. -/
def advance (record : Record) (now : Time) (next : Phase) : Bool × Record :=
  if record.phase.canAdvance next then (true, { record with phase := next }.stamp now next)
  else (false, record)

/-- Notes an exit code, unless the host's life is over. The least number means that there is
none. -/
def setExitCode (record : Record) (code : Int32) : Record :=
  if record.phase.isTerminal then record
  else { record with exitCode := if code = Int32.minValue then none else some code }

/-- Notes why the host failed, unless that is noted already. -/
def setFailure (record : Record) (reason : String) : Record :=
  { record with failure := record.failure.or (some reason) }

/-- Notes how to signal the remote side, unless that is noted already. -/
def setBackchannel (record : Record) (backchannel : Backchannel) : Record :=
  { record with backchannel := record.backchannel.or (some backchannel) }

/-- Asks the host to abort. Asking again changes nothing. -/
def abort (record : Record) : Record := { record with aborted := true }

/-! ### What the operations leave alone -/

@[simp] theorem stamp_phase (record : Record) (now : Time) (next : Phase) :
    (record.stamp now next).phase = record.phase := by
  cases next <;> rfl

@[simp] theorem stamp_failure (record : Record) (now : Time) (next : Phase) :
    (record.stamp now next).failure = record.failure := by
  cases next <;> rfl

@[simp] theorem stamp_aborted (record : Record) (now : Time) (next : Phase) :
    (record.stamp now next).aborted = record.aborted := by
  cases next <;> rfl

@[simp] theorem stamp_exitCode (record : Record) (now : Time) (next : Phase) :
    (record.stamp now next).exitCode = record.exitCode := by
  cases next <;> rfl

/-- A legal step enters the phase and notes when. -/
theorem advance_of_legal {record : Record} {next : Phase} (now : Time)
    (legal : record.phase.canAdvance next = true) :
    record.advance now next = (true, { record with phase := next }.stamp now next) :=
  if_pos legal

section Advance

variable (record : Record) (now : Time) (next : Phase)

@[simp] theorem advance_failure : (record.advance now next).2.failure = record.failure := by
  unfold advance
  split
  · exact stamp_failure ..
  · rfl

@[simp] theorem advance_aborted : (record.advance now next).2.aborted = record.aborted := by
  unfold advance
  split
  · exact stamp_aborted ..
  · rfl

@[simp] theorem advance_exitCode : (record.advance now next).2.exitCode = record.exitCode := by
  unfold advance
  split
  · exact stamp_exitCode ..
  · rfl

end Advance

/-- Noting an exit code changes nothing else. -/
theorem setExitCode_eq (record : Record) (code : Int32) :
    ∃ noted, record.setExitCode code = { record with exitCode := noted } := by
  unfold setExitCode
  split
  · exact ⟨record.exitCode, rfl⟩
  · exact ⟨_, rfl⟩

/-- How long it took to open the session. -/
def connectDuration (record : Record) : Option Time := do
  let connected ← record.connectedAt
  let started ← record.startedAt
  return connected - started

/-- How long the session was open. -/
def executeDuration (record : Record) : Option Time := do
  let finished ← record.finishedAt
  let connected ← record.connectedAt
  return finished - connected

/-- The time left in the phase, where there is a limit on it. It stops at zero; a limit of zero is
no limit. -/
def remaining (record : Record) (now connectLimit commandLimit : Time) : Option Time :=
  let left (since : Option Time) (limit : Time) : Option Time :=
    since.bind fun start => if limit = 0 then none else some (limit - (now - start))
  match record.phase with
  | .connecting => left record.startedAt connectLimit
  | .executing => left record.connectedAt commandLimit
  | _ => none

/-- The name of a phase in a record's description. -/
def phaseWord : Phase → String
  | .new => "New"
  | .connecting => "Connecting"
  | .executing => "Executing"
  | .done => "Done"
  | .failed => "Failed"

/-- A character as it stands between quotes in a description. -/
def quotedChar (c : Char) : List Char :=
  match c with
  | '"' => ['\\', '"']
  | '\\' => ['\\', '\\']
  | '\n' => ['\\', 'n']
  | '\r' => ['\\', 'r']
  | '\t' => ['\\', 't']
  | '\x00' => ['\\', '0']
  | _ =>
    if c.toNat < 0x20 || (0x7F ≤ c.toNat && c.toNat ≤ 0x9F) then
      ("\\u\x7b" ++ String.ofList (Nat.toDigits 16 c.toNat) ++ "\x7d").toList
    else [c]

/-- The record in one line. -/
def describe (record : Record) : String :=
  let code := match record.exitCode with
    | none => "None"
    | some code => "Some(" ++ toString code.toInt ++ ")"
  "HostRecord \x7b host: \"" ++ String.ofList (record.hostname.toList.flatMap quotedChar)
    ++ "\", node_index: " ++ toString record.nodeIndex ++ ", phase: " ++ phaseWord record.phase
    ++ ", exit_code: " ++ code ++ " \x7d"

end Record

end Fleet
