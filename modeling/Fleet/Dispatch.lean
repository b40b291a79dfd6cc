import Fleet.Dispatch.Outcome
import Fleet.Dispatch.Schedule
import Fleet.Dispatch.Statistics

/-!
# Dispatching

`Dispatch.run` sends a payload to all targets: it prepares the run, follows it to its end, and tells
what came of it. A fault of the whole run leaves the targets as they were; otherwise the hosts that
failed may be dropped from them.

The program itself waits for a run however long that takes. Here a run is followed up to a
`Horizon`, which whoever asks for the run sets, and one that has not returned by then is reported as
`stuck`. Theorems about runs are about all that `Setup.Run` allows, in any order and for any time;
only where they speak of `Dispatch.run` itself the horizon matters.

Colours are given: where labels are coloured the program draws a new palette by chance for each run.
What goes to the program's log is left out.
-/

namespace Fleet

/-- How far a run is followed. -/
structure Horizon where
  /-- The latest moment. -/
  deadline : Time := 3600 * Time.second
  /-- The most steps. -/
  steps : Nat := Nat.pow 2 60

/-- Everything a run is given. -/
structure Dispatch where
  /-- What opens the sessions. -/
  backend : Backend
  /-- The settings. -/
  options : Options
  /-- Where the files are that are copied. -/
  fs : FileSystem
  /-- Whom to talk to. -/
  targets : TargetList
  /-- What to send. -/
  payload : Payload
  /-- Whether reports tell how much time is left. -/
  verbose : Bool := false
  /-- What the backend was asked before. -/
  earlier : List OpenRequest := []
  /-- When the user interrupts, in order. -/
  interrupts : List Time := []
  console : Console := {}
  /-- The palettes that are drawn, in this run and in those that come after it, for each number of
  hosts. -/
  palettes : Nat → Nat → Palette := fun _ _ => .off
  /-- How far the run is followed. -/
  horizon : Horizon := {}

/-- How a run ended. -/
inductive Conclusion where
  /-- All hosts are done or failed. -/
  | completed (outcome : Outcome)
  /-- A fault ended the run. -/
  | faulted (e : DispatchError)
  /-- It did not end within the horizon. -/
  | stuck
  deriving Repr, DecidableEq

/-- What was seen of a run. -/
structure Transcript where
  /-- How it ended. -/
  conclusion : Conclusion
  elapsed : Time := 0
  targets : TargetList
  console : Console
  /-- The hosts in the end; none if the run did not begin. -/
  lanes : List Lane := []
  /-- What the backend was asked. -/
  opens : List Opened := []
  /-- The signals that went out. -/
  signals : List SentSignal := []

namespace Dispatch

/-- How long hosts are given to tell of their failure after a fault ended the run. -/
def grace : Time := Time.millisecond

/-- The colours of the labels of the run, where labels are coloured. -/
def palette (dispatch : Dispatch) : Option Palette :=
  if dispatch.options.colorLabels then some (dispatch.palettes 0 dispatch.targets.length) else none

/-- What does not change in the run. -/
def setup (dispatch : Dispatch) (shipment : Option Shipment) : Setup where
  backend := dispatch.backend
  options := dispatch.options
  shipment
  fs := dispatch.fs
  palette := dispatch.palette
  verbose := dispatch.verbose
  earlier := dispatch.earlier

/-- What was seen of a run that came to this state. -/
def transcript (conclusion : Conclusion) (elapsed : Time) (targets : TargetList) (s : State) :
    Transcript where
  conclusion
  elapsed
  targets
  console := s.console
  lanes := s.lanes
  opens := s.opens
  signals := s.signals

/-- The targets after a run that completed. -/
def remaining (dispatch : Dispatch) (s : State) : TargetList :=
  if dispatch.options.dropFailed then dispatch.targets.retain (Outcome.keepFlags s.records)
  else dispatch.targets

/-- Tells what came of a run that was followed as far as it goes. After a fault the hosts get a
little more time. -/
def conclude (dispatch : Dispatch) (setup : Setup) (course : Course) : Transcript :=
  let s := course.state
  match s.dispatcher with
  | .returned (.ok ()) =>
    let outcome := .ofRecords s.records dispatch.options.maxRemoteStatus s.gate.peak
    transcript (.completed outcome) s.now (dispatch.remaining s) s
  | .returned (.error e) =>
    let after :=
      (course.follow setup (s.now + grace) (fun _ => false) dispatch.horizon.steps).state
    transcript (.faulted e) s.now dispatch.targets after
  | _ => transcript .stuck dispatch.horizon.deadline dispatch.targets s

/-- Sends the payload to all targets. -/
def run (dispatch : Dispatch) : Transcript :=
  match Preparation.make dispatch.backend dispatch.options dispatch.fs dispatch.payload
      dispatch.targets with
  | .error e =>
    { conclusion := .faulted e, targets := dispatch.targets, console := dispatch.console }
  | .ok ⟨lanes, shipment⟩ =>
    let setup := dispatch.setup shipment
    let start : Course :=
      { state := .start dispatch.options lanes dispatch.console, arrivals := dispatch.interrupts }
    dispatch.conclude setup
      (start.follow setup dispatch.horizon.deadline (fun s => s.dispatcher.hasReturned)
        dispatch.horizon.steps)

/-- The dispatch of the run after one of which this was seen, with the targets that it left. -/
def next (dispatch : Dispatch) (transcript : Transcript) : Dispatch :=
  { dispatch with
    targets := transcript.targets
    earlier := dispatch.earlier ++ transcript.opens.map Opened.request
    palettes := fun later => dispatch.palettes (later + 1) }

end Dispatch

namespace Transcript

/-- The statistics of a run that completed. -/
def statistics (transcript : Transcript) : List String :=
  match transcript.conclusion with
  | .completed _ => Statistics.lines (transcript.lanes.map Lane.record)
  | _ => []

end Transcript

end Fleet
