import Fleet.CommandLine.Reader
import Fleet.CommandLine.Targets
import Fleet.Client
import Fleet.Dispatch

/-!
# Following a command line

A command line leads to a number of runs, each with the hosts that the one before left. A fault of a
run ends them all, and so does having no hosts left. What is left behind is what was written, and
the code with which the program exits: that of the last run.

What lies outside the program is given, in `Surroundings`: the backend of the secure shell, what
client programs do, the palettes that are drawn. So is the horizon to which runs are followed; where
a run does not return within it, the report ends there with the code of a fault.
-/

namespace Fleet

namespace CommandLine

/-- The version of the program. -/
def version : String := "fanout-ssh 0.1.0"

/-- The exit code when a run fails as a whole. -/
def faultCode : Nat := 1

/-- The exit code when the command line cannot be followed. -/
def usageCode : Nat := 2

/-- What stands before what the program itself has to say. Before a fault it is set in bold red,
which is left out here. -/
def heading : String := "[Fanout] "

/-- What a command line led to. -/
structure Report where
  /-- The exit code. -/
  code : Nat
  /-- What was written, in order. -/
  lines : List (Stream × String)
  deriving Repr, DecidableEq

namespace Report

/-- What was written on a stream. -/
def text (report : Report) (stream : Stream) : String :=
  String.join ((report.lines.filter fun line => line.1 == stream).map Prod.snd)

/-- The report that ends with a word of the program itself. -/
def remark (code : Nat) (text : String) : Report := ⟨code, [(.err, heading ++ text ++ "\n")]⟩

/-- The report after other lines were written. -/
def after (report : Report) (lines : List (Stream × String)) : Report :=
  { report with lines := lines ++ report.lines }

end Report

/-- The code with which a program exits: one byte, and the largest if it does not fit. -/
def processCode (code : Int32) : Nat :=
  if 0 ≤ code.toInt ∧ code.toInt ≤ 255 then code.toInt.toNat else 255

/-- What is sent to the hosts. -/
def payload : Action → Payload
  | .exec words => .command (" ".intercalate words)
  | .copy spec => .copy spec

/-- The lines that were written in a run. -/
def written (transcript : Transcript) : List (Stream × String) :=
  transcript.console.lines.map fun line => (line.stream, line.text)

/-- At most so many runs, after one with a given exit code. -/
def runs : Nat → Int32 → Dispatch → Report
  | 0, code, _ => ⟨processCode code, []⟩
  | n + 1, code, dispatch =>
    if dispatch.targets.isEmpty then .remark (processCode code) "No hosts left to run on."
    else
      let transcript := dispatch.run
      let report := match transcript.conclusion with
        | .completed outcome => runs n outcome.exitCode (dispatch.next transcript)
        | .faulted e => .remark faultCode e.message
        | .stuck => ⟨faultCode, []⟩
      report.after (written transcript)

end CommandLine

/-- What a command line finds outside the program. -/
structure Surroundings where
  /-- The backend of the secure shell. -/
  secureShell : Backend
  /-- The backend that starts client programs, for the copy that is to be made, if one is. -/
  clients : Option CopySpec → Client → Backend
  /-- The palettes that are drawn, for each run and number of hosts. -/
  palettes : Nat → Nat → Palette := fun _ _ => .off
  /-- How far runs are followed. -/
  horizon : Horizon := {}

namespace Surroundings

open CommandLine

variable (around : Surroundings)

/-- The backend that a command line asks for. -/
def backend (config : Config) (action : Action) : Except DispatchError Backend :=
  match config.kind with
  | .ssh => .ok around.secureShell
  | .exec =>
    (Client.parse config.clientTemplate config.lockstep).map
      (around.clients (payload action).copySpec?)

/-- The dispatch of the first run that a command line leads to. -/
def first (config : Config) (action : Action) (fs : FileSystem) (user : String) :
    Except DispatchError Dispatch := do
  let targets ← config.resolveTargets fs
  let backend ← around.backend config action
  return { backend, options := config.options user, fs, targets, payload := payload action,
           verbose := decide (2 ≤ config.verbosity), palettes := around.palettes,
           horizon := around.horizon }

/-- Follows what a command line says. -/
def follow (config : Config) (action : Action) (fs : FileSystem) (user : String) : Report :=
  match around.first config action fs user with
  | .error e => .remark faultCode e.message
  | .ok dispatch => runs (max config.passes 1) 0 dispatch

/-- Follows a command line. Where it only asks for the version, that is written. -/
def run (words : List String) (fs : FileSystem) (user : String) : Except UsageFault Report :=
  match read words with
  | .ok (config, action) => .ok (around.follow config action fs user)
  | .error .version => .ok ⟨0, [(.out, version ++ "\n")]⟩
  | .error e => .error e

end Surroundings

end Fleet
