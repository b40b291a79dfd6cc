import Fleet.Relay
import Fleet.Session

/-!
# Lanes

Each host of a run has a lane: what it is to do, its record, and how far its worker has come. A
worker is taken apart into the moments between which other tasks may run, so that every order of
events in a run is a sequence of such moments.

A worker takes a slot before its record leaves the first phase, and gives it back after the record
has reached the last; `Worker.holdsSlot` says when it has one.
-/

namespace Fleet

/-- How far the worker of a host has come. -/
inductive Worker where
  /-- There is no slot for it yet. -/
  | waiting
  /-- It has a slot. -/
  | admitted
  /-- About to ask for a session. -/
  | connecting
  /-- Asked for a session at a moment. -/
  | opening (since : Time) (attempt : Attempt)
  /-- Was given a session at a moment. -/
  | opened (since : Time) (plan : SessionPlan)
  /-- About to keep the way to signal the session, and to start on its streams. -/
  | attaching (since : Time) (plan : SessionPlan)
  /-- Sending files. In the middle of it (`busy`) it does not look whether it is to abort. -/
  | sending (busy : Bool) (work : Sending) (err : Option LineReader) (ending : SessionEnd)
  /-- Relaying output. -/
  | relaying (relay : Relay) (ending : SessionEnd)
  /-- Waiting for the end of the session. -/
  | reaping (due : Time) (outcome : Except HostError Termination)
  /-- All went well. -/
  | succeeding
  /-- Something went wrong, and nobody knows yet. -/
  | failing (e : HostError)
  /-- The failure is noted. -/
  | marking (e : HostError)
  /-- About to tell of the failure. -/
  | telling (e : HostError)
  /-- About to see whether somebody else takes the run down already. -/
  | claiming
  /-- Taking the run down: signalling the remote sides, from this host on. -/
  | signalling (next : Nat)
  /-- Taking the run down: asking the hosts to abort, from this host on. -/
  | aborting (next : Nat)
  /-- Taking the run down: about to tell the dispatcher. -/
  | raising
  /-- About to give its slot back. -/
  | leaving (crashed : Bool)
  /-- Gave its slot back, and nobody knows yet. -/
  | announcing (crashed : Bool)
  /-- Over. -/
  | gone (crashed : Bool)

namespace Worker

/-- Whether the worker has a slot. -/
def holdsSlot : Worker → Bool
  | waiting | announcing _ | gone _ => false
  | _ => true

/-- Whether the worker is over. -/
def isGone : Worker → Bool
  | gone _ => true
  | _ => false

/-- Whether the worker is over because it crashed. -/
def hasCrashed : Worker → Bool
  | gone crashed => crashed
  | _ => false

/-- When something next happens to the worker after a moment, by itself. -/
def nextTimes (now : Time) : Worker → List Time
  | opening since attempt => (attempt.delay.map (since + ·)).toList.filter (now < ·)
  | sending _ work _ _ => (work.answers.reader.source.nextAfter now).toList
  | relaying relay _ => relay.nextTimes now
  | reaping due _ => [due].filter (now < ·)
  | _ => []

end Worker

/-- One host of a run. -/
structure Lane where
  /-- What is known about the host. -/
  record : Record
  /-- The command it is to run. -/
  command : String
  /-- How far its worker has come. -/
  worker : Worker := .waiting
  /-- What its session took as input. -/
  received : Bytes := []

namespace Lane

/-- The lane with its worker at another place. -/
def moveTo (lane : Lane) (worker : Worker) : Lane := { lane with worker }

/-- The lane with its record in another phase, as far as that is legal. -/
def advance (lane : Lane) (now : Time) (phase : Phase) : Lane :=
  { lane with record := (lane.record.advance now phase).2 }

/-- A legal step enters the phase. -/
theorem advance_phase (lane : Lane) (now : Time) {next : Phase}
    (legal : lane.record.phase.canAdvance next = true) :
    (lane.advance now next).record.phase = next := by
  rw [advance, Record.advance_of_legal now legal, Record.stamp_phase]

/-- What the backend is told. -/
def request (lane : Lane) (nhosts : Nat) (wantErrorChannel wantInput : Bool) : OpenRequest where
  host := lane.record.hostname
  address := lane.record.address
  localUser := lane.record.localUser
  remoteUser := lane.record.remoteUser
  command := lane.command
  nodeIndex := lane.record.nodeIndex
  nhosts
  wantErrorChannel
  wantInput

/-- The line that tells of the host's failure, or of a warning. -/
def remark (lane : Lane) (text : String) : String := lane.record.hostname ++ ": " ++ text

end Lane

/-- What the end of a session means for a host. A status that the output carried is worth more than
that of the client, and without one the client may report a failure of its own. -/
def Termination.verdict (record : Record) : Termination → Except HostError Record
  | .signaled signal => .error (.killed signal)
  | .exited status =>
    if record.exitCode.isSome then .ok record
    else if status = ExitStatus.clientFailure then .error (.clientFailed status)
    else .ok (record.setExitCode status)
  | .unknown => .ok record

/-- The end of a session can give the host an exit code, and changes nothing else about it. -/
theorem Termination.verdict_eq_ok {termination : Termination} {record record' : Record}
    (good : termination.verdict record = .ok record') :
    ∃ code, record' = { record with exitCode := code } := by
  unfold verdict at good
  split at good
  · cases good
  · split at good
    · cases good; exact ⟨record.exitCode, rfl⟩
    · split at good
      · cases good
      · cases good; exact record.setExitCode_eq _
  · cases good; exact ⟨record.exitCode, rfl⟩

end Fleet
