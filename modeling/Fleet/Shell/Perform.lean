import Fleet.ExitStatus
import Fleet.Shell.Evaluate

/-!
# Starting programs

A program is started with its arguments and an input. Either the system does not start it, or it
runs: it writes to its two streams, changes files, and ends unless it waits for more input.
-/

namespace Fleet.Shell

/-- What a program did. -/
structure Performance where
  /-- What it wrote to its first stream. -/
  stdout : List Chunk
  /-- What it wrote to its second stream. -/
  stderr : List Chunk
  /-- When all output was over. -/
  endTime : Time
  /-- How it ended; none if it has not. -/
  termination : Option Termination
  /-- The files afterwards. -/
  fs : FileSystem

namespace Performance

/-- So deep may commands of a program be nested, and so many rounds may its loops have. -/
def depthLimit : Nat := 1000000

/-- No argument of a program is longer than this. -/
def argumentLimit : Nat := 131071

def inputChannel : Nat := 0

/-- The channel of the first stream. -/
def stdoutChannel : Nat := 1

/-- The channel of the second stream. -/
def stderrChannel : Nat := 2

/-- The variables that a program is told of. -/
def bindings (localUser : String) : List Variable :=
  [⟨"HOME".toList, "/root".toList, true⟩,
    ⟨"PATH".toList, "/usr/local/bin:/usr/bin:/bin".toList, true⟩,
    ⟨"USER".toList, .ofString localUser, true⟩]

/-- The machine on which a program is started. -/
def machine (fs : FileSystem) (localUser : String) (name : Text) (input : Bytes) (closed : Bool) :
    Machine where
  world := { fs, channels := [.source (.ofBytes input) closed, .sink [], .sink []] }
  self := { name, bindings := bindings localUser,
            descriptors := [(0, inputChannel), (1, stdoutChannel), (2, stderrChannel)] }

/-- What was written to a channel, in the order of time. -/
def chunks (m : Machine) (channel : Nat) : List Chunk :=
  match m.world.channels[channel]? with
  | some (.sink written) =>
    (written.reverse.map fun (time, text) => (⟨time, text.toBytes⟩ : Chunk)).mergeSort
      fun a b => a.time ≤ b.time
  | _ => []

/-- How a process ended. -/
def terminationOf : Flow → Option Termination
  | .status code | .exit code => some (.exited (Int32.ofNat code))
  | .leave _ _ => some (.exited 0)
  | .killed signal _ => some (.signaled (Int32.ofNat signal))
  | .blocked | .exhausted => none

/-- What was done by a program that has run. -/
def ofRun (result : Flow × Machine) : Performance :=
  let (flow, m) := result
  { stdout := chunks m stdoutChannel
    stderr := chunks m stderrChannel
    endTime := max m.world.now m.world.latest
    termination := terminationOf flow
    fs := m.world.fs }

/-- Whether the system takes a text as part of a command line. -/
def spellable (text : String) : Bool := !text.toList.contains '\x00'

/-- The program of a name, or why the system does not start it. -/
def lookUp (fs : FileSystem) (program : String) : Except SpawnFault Evaluate.Found :=
  match Evaluate.lookUp fs (.ofString program) with
  | .missing e => .error (.program program e)
  | .file data =>
    match Evaluate.interpreter? data with
    | none => .error (.told (program ++ ": Exec format error (os error 8)"))
    | some (name, _) =>
      match Evaluate.lookUp fs name with
      | .program _ => .ok (.file data)
      | .missing e => .error (.program program e)
      | .file _ => .error (.program program .permissionDenied)
  | found => .ok found

/-- Starts a program with an input, after which there may come more unless it is closed. -/
def start (fs : FileSystem) (localUser program : String) (args : List String) (input : Bytes)
    (closed : Bool) : Except SpawnFault Performance :=
  if !(program :: args).all spellable then
    .error (.told (program ++ ": nul byte found in provided data"))
  else match lookUp fs program with
    | .error fault => .error fault
    | .ok found =>
      if (program :: args).any fun arg => arg.utf8ByteSize > argumentLimit then
        .error (.told (program ++ ": Argument list too long (os error 7)"))
      else
        let name : Text := .ofString program
        .ok (ofRun (Evaluate.launch depthLimit found name (args.map .ofString)
          (machine fs localUser name input closed)))

end Performance

end Fleet.Shell
