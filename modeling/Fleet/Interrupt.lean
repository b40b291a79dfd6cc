import Fleet.Watchdog

/-!
# User interrupts

The first interrupt tells where the hosts stand; one that follows it closely ends the run: the
remote sides of the executing hosts get the signal to terminate and every host is asked to abort. A
batch run ends at the first interrupt.

A report reads the records one after another, once its heading is written. Of the time that is left
to a host it says how much there was when the interrupt came. Reading one record is a single moment.
-/

namespace Fleet

namespace Interrupt

/-- An interrupt that comes less than this after the one before ends the run. -/
def window : Time := Time.second

/-- When a run ends on interrupts. -/
inductive Policy where
  /-- On the second of two close ones. -/
  | twoStep
  /-- On the first. -/
  | batch
  deriving Repr, DecidableEq

/-- What an interrupt means. -/
inductive Action where
  /-- Tell where the hosts stand. -/
  | report
  /-- End the run. -/
  | terminate
  deriving Repr, DecidableEq

/-- Decides what each interrupt means. -/
structure Coordinator where
  /-- The policy of the run. -/
  policy : Policy
  /-- When the last interrupt came. -/
  last : Option Time := none
  deriving Repr, DecidableEq

/-- The meaning of an interrupt that comes now. A clock that runs backwards counts as one that
stands still. -/
def Coordinator.handle (c : Coordinator) (now : Time) : Action × Coordinator :=
  match c.policy with
  | .batch => (.terminate, c)
  | .twoStep =>
    let close := c.last.any fun before => now - before < window
    (if close then .terminate else .report, { c with last := some now })

/-- The meanings of interrupts that come one after another. -/
def Coordinator.handleAll (c : Coordinator) : List Time → List Action
  | [] => []
  | now :: later => (c.handle now).1 :: (c.handle now).2.handleAll later

/-- Where one host stands; with the whole seconds left to it where that is asked for and there is a
limit. -/
def statusLine (limits : Timeouts) (now : Time) (verbose : Bool) (record : Record) : String :=
  let line := record.hostname ++ ": " ++ record.phase.name
  match verbose, record.remaining now limits.connect limits.command with
  | true, some left => line ++ " (" ++ toString (left / Time.second) ++ "s left)"
  | _, _ => line

/-- Where a host stands, if a worker is busy with it. -/
def statusLine? (limits : Timeouts) (now : Time) (verbose : Bool) (record : Record) :
    Option String :=
  if record.phase.isActive then some (statusLine limits now verbose record) else none

/-- Where the hosts stand that a worker is busy with. -/
def statusLines (limits : Timeouts) (now : Time) (verbose : Bool) (records : List Record) :
    List String :=
  records.filterMap (statusLine? limits now verbose)

/-- The line above a report. It is set in bold, which is left out here. -/
def reportHeading : String := "interrupt (one more within 1 sec to abort)"

/-- The line that announces the end of a run. It is set in red, which is left out here. -/
def terminationNotice : String := "interrupted, aborting"

end Interrupt

/-- The signal that asks a process to terminate. -/
def terminateSignal : Int32 := 15

/-- A signal that was sent through a backchannel. -/
structure SentSignal where
  /-- The name of the backchannel. -/
  name : String
  signal : Int32
  deriving Repr, DecidableEq

namespace Record

/-- The signal that goes out when the host is asked to terminate: only to a host that is executing,
and only where there is a way. -/
def terminationSignal (record : Record) : List SentSignal :=
  match record.phase, record.backchannel with
  | .executing, some backchannel => [⟨backchannel.name, terminateSignal⟩]
  | _, _ => []

/-- Whether asking the host to terminate counts as done. With no way to signal there is nothing that
could fail. -/
def isTerminated (record : Record) : Bool :=
  record.phase == .executing && (record.backchannel.bind Backchannel.fault).isNone

end Record

namespace Interrupt

/-- Asks all hosts to terminate: how many times that was done, and the signals that went out. A
signal that could not be delivered does not stop the others. -/
def terminateAll (records : List Record) : Nat × List SentSignal :=
  (records.countP Record.isTerminated, records.flatMap Record.terminationSignal)

end Interrupt

/-- What the task that waits for interrupts is doing. -/
inductive InterruptTask where
  /-- Waiting for the next one. -/
  | listening
  /-- About to print the heading of a report, for an interrupt that came at a moment. -/
  | heading (came : Time)
  /-- Reading the records for a report, from this host on, with the lines so far. -/
  | surveying (came : Time) (next : Nat) (lines : List String)
  /-- Printing a report, of which these lines are left. -/
  | reporting (lines : List String)
  /-- Signalling the remote sides, from this host on. -/
  | signalling (next : Nat)
  /-- About to announce the end. -/
  | announcing
  /-- Asking the hosts to abort, from this host on. -/
  | aborting (next : Nat)
  /-- Over. -/
  | gone
  deriving Repr, DecidableEq

end Fleet
