import Fleet.Dispatch

/-!
# Rehearsals

A rehearsal is a run whose hosts play fixed parts: for each name there are attempts, which are made
one after another as that name is asked for, the last of them for good. It may have several passes,
each of which starts with the targets that the one before left.
-/

namespace Fleet

/-- A backend whose hosts play fixed parts. -/
structure Rehearsal where
  /-- The attempts of each name. -/
  parts : List (String × List Attempt)
  /-- Whether one failed host ends the run for all. -/
  lockstep : Bool := false
  /-- Why the backend cannot be used, if that is so. -/
  initFault : Option InitFault := none
  /-- The addresses of hosts. -/
  resolve : String → Except DispatchError (Option Address) := fun _ => .ok none

namespace Rehearsal

/-- The part of a host that is not mentioned: an empty session that ends at once. -/
def walkOn (name : String) : Attempt where
  delay := some 0
  opening := .session
    { stdout := .empty, stdin := some none, backchannel := some ⟨name, none⟩ }

/-- The attempt that is made when a name is asked for once more. -/
def attemptFor (rehearsal : Rehearsal) (name : String) (before : Nat) : Attempt :=
  let attempts := ((rehearsal.parts.find? fun part => part.1 == name).map Prod.snd).getD []
  (attempts[before]?.or attempts.getLast?).getD (walkOn name)

/-- A session has no input where none is wanted. -/
def trim (wantInput : Bool) (attempt : Attempt) : Attempt :=
  match attempt.opening with
  | .session plan =>
    { attempt with
      opening := .session { plan with stdin := if wantInput then plan.stdin else none } }
  | _ => attempt

def backend (rehearsal : Rehearsal) : Backend where
  kind := .exec
  lockstep := rehearsal.lockstep
  init _ := match rehearsal.initFault with
    | some fault => .error (.init fault)
    | none => .ok ()
  resolve := rehearsal.resolve
  attempt earlier request :=
    let before := earlier.countP fun other => other.host == request.host
    trim request.wantInput (rehearsal.attemptFor request.host before)

end Rehearsal

namespace Dispatch

/-- So many runs, each with the targets that the one before left and a fresh console. -/
def passes (dispatch : Dispatch) : Nat → List Transcript
  | 0 => []
  | n + 1 =>
    let transcript := dispatch.run
    transcript :: passes (dispatch.next transcript) n

end Dispatch

namespace Written

/-- Whether a line comes before another where the order of writing does not count: by time, then the
second stream first, then by content. -/
def le (a b : Written) : Bool :=
  if a.time ≠ b.time then a.time < b.time
  else match a.stream, b.stream with
    | .err, .out => true
    | .out, .err => false
    | _, _ => FilePath.nameLe (Utf8.encode a.text) (Utf8.encode b.text)

end Written

namespace Transcript

/-- What was written on the console. After a fault the order of writing says nothing. -/
def lines (transcript : Transcript) : List Written :=
  match transcript.conclusion with
  | .faulted _ => transcript.console.lines.mergeSort Written.le
  | _ => transcript.console.lines

/-- What the backend was asked, each time with what the session took as input. -/
def openings (transcript : Transcript) : List (Opened × Bytes) :=
  transcript.opens.map fun opened =>
    (opened, (transcript.lanes[opened.request.nodeIndex]?.map Lane.received).getD [])

end Transcript

end Fleet
