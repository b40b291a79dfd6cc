import Fleet.Dispatch.Preparation
import Fleet.Gate
import Fleet.Interrupt
import Fleet.LabelColor

/-!
# The state of a run

A run consists of a dispatcher, which admits the hosts in order and then waits for them; of the
workers, one for each host; of a watchdog and of a task that waits for user interrupts. What they
share is in `State`: the lanes, the gate, the queue of faults that end the run, and the console.
What does not change in a run is in `Setup`.

What a run does to the world outside is kept as lists: the lines on the console, the requests to the
backend, the signals. What the world does to a run is given beforehand, as a plan of each session
and of each stream. A plan says that a session ends and when; a stream may stay open for ever.
-/

namespace Fleet

/-- What a run is given. -/
structure Setup where
  /-- What opens the sessions. -/
  backend : Backend
  /-- The settings. -/
  options : Options
  /-- The files, where some are copied. -/
  shipment : Option Shipment := none
  /-- Where the files are. -/
  fs : FileSystem
  /-- The colours of the labels, where labels are coloured. -/
  palette : Option Palette := none
  /-- Whether reports tell how much time is left. -/
  verbose : Bool := false
  /-- What the backend was asked before the run. -/
  earlier : List OpenRequest := []

namespace Setup

/-- What stands before the lines of a host, where labels are shown. -/
def label (setup : Setup) (record : Record) : String :=
  Palette.label setup.palette record.nodeIndex record.host

/-- How the output of a host is written. -/
def routing (setup : Setup) (lane : Lane) : Routing where
  label := if lane.record.displayLabels then some (setup.label lane.record) else none
  separateStderr := setup.options.separateStderr
  extractStatus := setup.options.maxRemoteStatus && setup.shipment.isNone

/-- What the backend is told about a host. -/
def request (setup : Setup) (nhosts : Nat) (lane : Lane) : OpenRequest :=
  lane.request nhosts setup.options.separateStderr setup.shipment.isSome

end Setup

/-- How far the dispatcher has come. -/
inductive Dispatcher where
  /-- Waiting for a slot for the next host. -/
  | admitting (next : Nat) (waiting : Waiting)
  /-- Waiting for all slots to be free. -/
  | draining (waiting : Waiting)
  /-- Waiting for the workers to be over. -/
  | joining
  /-- About to look for a fault once more. -/
  | checking
  /-- Over. -/
  | returned (result : Except DispatchError Unit)

namespace Dispatcher

/-- The dispatcher after a notice of the gate. -/
def notice : Dispatcher → Dispatcher
  | admitting next waiting => admitting next waiting.notice
  | draining waiting => draining waiting.notice
  | other => other

/-- The dispatcher when the hosts before `next` are admitted. -/
def before (next nhosts : Nat) : Dispatcher :=
  if next < nhosts then admitting next .arriving else draining .arriving

/-- Whether the dispatcher is over. -/
def hasReturned : Dispatcher → Bool
  | returned _ => true
  | _ => false

end Dispatcher

/-- What the backend was asked, and when. -/
structure Opened where
  time : Time
  request : OpenRequest
  deriving Repr, DecidableEq

/-- The state of a run. -/
structure State where
  /-- What the clock says. -/
  now : Time := 0
  lanes : List Lane
  /-- The slots. -/
  gate : Gate
  /-- Faults that end the run, the oldest first. -/
  fatal : List DispatchError := []
  /-- Whether some worker takes the run down. -/
  fleetAborted : Bool := false
  dispatcher : Dispatcher
  /-- The task that waits for user interrupts. -/
  interrupter : InterruptTask := .listening
  /-- What interrupts mean. -/
  coordinator : Interrupt.Coordinator
  watchdog : Watchdog
  console : Console
  /-- What the backend was asked, in order. -/
  opens : List Opened := []
  /-- The signals that went out, in order. -/
  signals : List SentSignal := []

namespace State

/-- A run about to begin. -/
def start (options : Options) (lanes : List Lane) (console : Console) : State where
  lanes
  gate := .ofLimit (options.fanoutLimit lanes.length)
  dispatcher := .before 0 lanes.length
  coordinator := ⟨if options.batch then .batch else .twoStep, none⟩
  watchdog := .start options.limits 0
  console

/-- The records of the hosts. -/
def records (s : State) : List Record := s.lanes.map Lane.record

/-- The state with one lane changed. -/
def modifyLane (s : State) (i : Nat) (f : Lane → Lane) : State :=
  { s with lanes := s.lanes.modify i f }

/-- The state with the worker of a lane at another place. -/
def moveWorker (s : State) (i : Nat) (worker : Worker) : State :=
  s.modifyLane i (·.moveTo worker)

/-- The state with a host asked to abort. -/
def abortHost (s : State) (i : Nat) : State :=
  s.modifyLane i fun lane => { lane with record := lane.record.abort }

/-- The state with the remote side of a host asked to terminate, as far as that is possible. -/
def signalHost (s : State) (lane : Lane) : State :=
  { s with signals := s.signals ++ lane.record.terminationSignal }

/-- The state with a line of our own on the console. -/
def tell (s : State) (line : String) : State :=
  { s with console := s.console.diagnostic s.now line }

/-- The state with another fault that ends the run. -/
def raise (s : State) (e : DispatchError) : State := { s with fatal := s.fatal ++ [e] }

/-- The state with the dispatcher over. -/
def finish (s : State) (result : Except DispatchError Unit) : State :=
  { s with dispatcher := .returned result }

end State

end Fleet
