import Fleet.Client
import Fleet.Shell.Perform

/-!
# Where client programs run

A workplace starts client programs: it has files, and somebody who starts them. What a client will
do is worked out when it is asked for, from the command line, the files that earlier clients left,
and the input that it is going to get.

The input of a copy depends on what the client answers. So the client is run with the input that
there is so far; what it says to that is given to the sender, which may send more, and so on, until
the sender is done and the input ends.

All this stands in for real programs, and so does `Backend.secureShell` for a real server: with them
a command line can be rehearsed. No theorem about command lines rests on them.
-/

namespace Fleet

/-- The backend of the secure shell: it looks up no addresses, and needs a server to open
sessions. -/
def Backend.secureShell : Backend where
  kind := .ssh
  attempt _ _ := { delay := some 0, opening := .refused (.ssh "cannot connect") }

/-- Where client programs run. -/
structure Workplace where
  /-- The files. -/
  fs : FileSystem
  /-- Who starts the programs. -/
  user : String
  /-- The files that clients are sent, where some are copied. -/
  shipment : Option Shipment := none

namespace Workplace

/-- A program, with what it does for an input that is closed or not. -/
abbrev Play := Bytes → Bool → Except SpawnFault Shell.Performance

/-- A copy to a program takes at most so many steps. -/
def stepLimit : Nat := Nat.pow 2 60

/-- The stream of a program's output. -/
def stream (performance : Shell.Performance) (chunks : List Chunk) : Source :=
  ⟨chunks, if performance.termination.isSome then .closed performance.endTime else .never⟩

/-- What a program does when it is sent files. The input grows at most so many times. -/
def converse (fs : FileSystem) (shipment : Shipment) (play : Play) :
    Nat → Bytes → Except SpawnFault Shell.Performance
  | 0, input => play input false
  | rounds + 1, input => do
    let performance ← play input false
    let answers := LineReader.ofSource (stream performance performance.stdout)
    match (Sending.start shipment.preserve shipment.entries answers {}).run fs stepLimit 0 with
    | (written, _, some (.ok ())) => play written true
    | (_, _, some (.error _)) => return performance
    | (written, _, none) =>
      if written.length ≤ input.length then return performance
      else converse fs shipment play rounds written

/-- The workplace for a copy, or for a command. Where the files cannot be listed there is nothing to
send. -/
def ofCopy (fs : FileSystem) (user : String) : Option CopySpec → Workplace
  | none => { fs, user }
  | some spec =>
    { fs, user
      shipment := (CopySpec.enumerate fs spec).toOption.map fun entries =>
        ⟨entries, spec.preserve⟩ }

/-- The workplace for a payload. -/
def ofPayload (fs : FileSystem) (user : String) (payload : Payload) : Workplace :=
  ofCopy fs user payload.copySpec?

variable (workplace : Workplace)

/-- What a program does for a request. -/
def perform (fs : FileSystem) (program : String) (words : List String) :
    Except SpawnFault Shell.Performance :=
  let play : Play := Shell.Performance.start fs workplace.user program words
  match workplace.shipment with
  | none => play [] true
  | some shipment =>
    let groups := Copy.groups shipment.preserve shipment.entries
    converse workplace.fs shipment play (groups.length + 1) []

/-- The session that a program makes. -/
def session (request : OpenRequest) (performance : Shell.Performance) : SessionPlan where
  stdout := stream performance performance.stdout
  stderr := some (stream performance performance.stderr)
  stdin := if request.wantInput then some none else none
  backchannel := some ⟨request.host, none⟩
  reap := { outcome := .ok (performance.termination.getD .unknown) }

def filesAfter (client : Client) (fs : FileSystem) (request : OpenRequest) : FileSystem :=
  match client.commandLine request with
  | .error _ => fs
  | .ok (program, words) =>
    match workplace.perform fs program words with
    | .ok performance => performance.fs
    | .error _ => fs

/-- The backend that starts a client here for each host. -/
def backend (client : Client) : Backend :=
  client.backend fun earlier request program words =>
    let fs := earlier.foldl (workplace.filesAfter client) workplace.fs
    { delay := some 0
      opening := match workplace.perform fs program words with
        | .error fault => .refused (.spawn fault)
        | .ok performance => .session (session request performance) }

end Workplace

/-- What was seen of a client that was started by itself. -/
structure Visit where
  /-- What it wrote to its first stream. -/
  stdout : Bytes
  /-- What it wrote to its second stream. -/
  stderr : Bytes
  /-- What came of the signals that it was sent. -/
  signals : List (Except HostError Unit)
  /-- How it ended. -/
  termination : Termination

namespace Visit

/-- What comes of sending a signal to a client. -/
def signal (number : Int) : Except HostError Unit :=
  if 1 ≤ number ∧ number ≤ 31 then .ok () else .error (.io (.system .invalidArgument))

/-- The first signal that ends a client. -/
def fatal? (signals : List Int) : Option Nat :=
  (signals.find? fun n => 1 ≤ n && n ≤ 31 && Shell.Builtin.isFatal n.toNat).map Int.toNat

/-- A client that did what a program does, unless a signal ended it before it did anything. -/
def ofPerformance (performance : Shell.Performance) (signals : List Int) : Visit :=
  match fatal? signals with
  | some number =>
    { stdout := [], stderr := [], signals := signals.map signal,
      termination := .signaled (Int32.ofNat number) }
  | none =>
    { stdout := performance.stdout.flatMap Chunk.data
      stderr := performance.stderr.flatMap Chunk.data
      signals := signals.map signal
      termination := performance.termination.getD .unknown }

/-- Starts the client of a host, sends it signals at once, and gives it an input that then ends. -/
def make (workplace : Workplace) (client : Client) (request : OpenRequest) (input : Bytes)
    (signals : List Int) : Except HostError Visit :=
  match client.commandLine request with
  | .error fault => .error (.spawn fault)
  | .ok (program, words) =>
    match Shell.Performance.start workplace.fs workplace.user program words input true with
    | .error fault => .error (.spawn fault)
    | .ok performance => .ok (ofPerformance performance signals)

end Visit

end Fleet
