import Fleet.FileSystem
import Fleet.Shell.Syntax
import Fleet.Source

/-!
# The machine that programs run on

Programs share a file system, a clock and the channels that their descriptors lead to: texts to be
read, collections of what was written, and files. Each has a state of its own besides: a name,
parameters, variables and descriptors.

A program runs in one go. What it writes is noted with the time at which it does, and the clock
moves when it sleeps. Where it has to wait for input that may still come, it stops there for good;
to let it go on it is run anew with more input.
-/

namespace Fleet.Shell

/-- Where a descriptor leads. -/
inductive Channel where
  /-- A text to be read, and whether it ends there. -/
  | source (unread : Text) (closed : Bool)
  /-- What was written, the latest first. -/
  | sink (written : List (Time × Text))
  /-- A file that is written, from a place on or always at the end. -/
  | file (path : Bytes) (offset : Nat) (atEnd : Bool)
  /-- Nothing to be read, and nothing is kept. -/
  | null
  /-- Zero bytes without end. -/
  | zeros
  deriving Repr, DecidableEq

/-- What programs share. -/
structure World where
  /-- The files. -/
  fs : FileSystem
  now : Time := 0
  /-- The latest time that anything in the background has reached. -/
  latest : Time := 0
  channels : List Channel
  /-- The number of the next process. -/
  nextProcess : Nat := 2

structure Variable where
  name : Text
  value : Text
  /-- Whether programs are told of it. -/
  exported : Bool := false
  deriving Repr, DecidableEq

/-- The state of one process. -/
structure Process where
  name : Text
  parameters : List Text := []
  /-- Its variables. -/
  bindings : List Variable := []
  /-- How its last command ended. -/
  status : Nat := 0
  /-- How the last command inside a word of the current command ended. -/
  substituted : Nat := 0
  /-- The channel of each open descriptor. -/
  descriptors : List (Nat × Nat)
  number : Nat := 1
  /-- The number that it gives as its own: a part of a shell gives that of the shell. -/
  shellNumber : Nat := 1
  /-- The number of the last process in the background. -/
  lastBackground : Option Nat := none
  deriving Repr, DecidableEq

/-- A process in its world. -/
structure Machine where
  /-- What it shares with others. -/
  world : World
  /-- What is its own. -/
  self : Process

/-- How the run of something ended. -/
inductive Flow where
  /-- With a status, and what comes after it runs. -/
  | status (code : Nat)
  /-- The process ends with a status. -/
  | exit (code : Nat)
  | killed (signal process : Nat)
  /-- Loops are left, this many of them, the last of which may go on. -/
  | leave (loops : Nat) (again : Bool)
  /-- There may be more input, which has to be waited for. -/
  | blocked
  /-- It takes more steps than are allowed. -/
  | exhausted
  deriving Repr, DecidableEq

/-- A program: what it does with its arguments. -/
abbrev Program := List Text → Machine → Flow × Machine

namespace Machine

variable (m : Machine)

/-! ## Descriptors -/

/-- The number of the channel behind a descriptor. -/
def channelNumber? (descriptor : Nat) : Option Nat :=
  (m.self.descriptors.find? fun entry => entry.1 == descriptor).map Prod.snd

/-- The machine with another channel under a number. -/
def setChannel (number : Nat) (channel : Channel) : Machine :=
  { m with world := { m.world with channels := m.world.channels.set number channel } }

/-- The machine with a descriptor that leads to a channel. -/
def connect (descriptor number : Nat) : Machine :=
  { m with self := { m.self with
      descriptors := (descriptor, number)
        :: m.self.descriptors.filter fun entry => entry.1 != descriptor } }

/-- The machine with a descriptor that leads nowhere. -/
def disconnect (descriptor : Nat) : Machine :=
  { m with self := { m.self with
      descriptors := m.self.descriptors.filter fun entry => entry.1 != descriptor } }

/-- The machine with a new channel, and its number. -/
def newChannel (channel : Channel) : Nat × Machine :=
  (m.world.channels.length,
    { m with world := { m.world with channels := m.world.channels ++ [channel] } })

/-! ## Reading and writing -/

/-- The content of a file, as far as it is one. -/
def fileData (path : Bytes) : Bytes :=
  match m.world.fs.read path with
  | .ok data => data
  | .error _ => []

/-- Content with other bytes at a place. What is missing before the place is filled with zeros. -/
def overwrite (old : Bytes) (offset : Nat) (new : Bytes) : Bytes :=
  let front := old.take offset
  front ++ List.replicate (offset - front.length) 0 ++ new ++ old.drop (offset + new.length)

/-- Writes to a descriptor. What has nowhere to go is lost. -/
def write (descriptor : Nat) (text : Text) : Machine :=
  if text.isEmpty then m
  else match m.channelNumber? descriptor with
    | none => m
    | some n =>
      match m.world.channels[n]? with
      | some (.sink written) => m.setChannel n (.sink ((m.world.now, text) :: written))
      | some (.file path offset atEnd) =>
        let old := m.fileData path
        let place := if atEnd then old.length else offset
        let fs := m.world.fs.replaceContent path (overwrite old place text.toBytes)
        let after : Machine := { m with world := { m.world with fs } }
        after.setChannel n (.file path (place + text.length) atEnd)
      | _ => m

/-- Writes a line to the descriptor for faults. -/
def complain (line : Text) : Machine := m.write 2 (line ++ ['\n'])

/-- What becomes of reading. -/
inductive Input where
  /-- A text, after which nothing comes. -/
  | all (text : Text)
  /-- A text, after which there may come more. -/
  | open (text : Text)
  /-- The descriptor cannot be read. -/
  | closed
  /-- There is no end of it. -/
  | endless

/-- Reads everything that there is. -/
def readAll (descriptor : Nat) : Input × Machine :=
  match m.channelNumber? descriptor with
  | none => (.closed, m)
  | some n =>
    match m.world.channels[n]? with
    | some (.source unread true) => (.all unread, m.setChannel n (.source [] true))
    | some (.source unread false) => (.open unread, m.setChannel n (.source [] false))
    | some .null => (.all [], m)
    | some .zeros => (.endless, m)
    | _ => (.closed, m)

/-- Splits a text behind its first newline. -/
def splitLine? : Text → Option (Text × Text)
  | [] => none
  | '\n' :: rest => some ([], rest)
  | c :: rest => (splitLine? rest).map fun (line, after) => (c :: line, after)

/-- What becomes of reading a line. -/
inductive Line where
  /-- A line, and whether it was complete. -/
  | line (text : Text) (complete : Bool)
  /-- The rest of the line may still come. -/
  | wait
  deriving Repr, DecidableEq

/-- Reads a line. -/
def readLine (descriptor : Nat) : Line × Machine :=
  match m.channelNumber? descriptor with
  | none => (.line [] false, m)
  | some n =>
    match m.world.channels[n]? with
    | some (.source unread closed) =>
      match splitLine? unread, closed with
      | some (line, rest), _ => (.line line true, m.setChannel n (.source rest closed))
      | none, true => (.line unread false, m.setChannel n (.source [] true))
      | none, false => (.wait, m)
    | _ => (.line [] false, m)

/-! ## Files -/

def path (text : Text) : Bytes := text.toBytes

/-- The path of the device that is always empty. -/
def nullPath : Bytes := Utf8.encode "/dev/null"

/-- The path of the device with zero bytes. -/
def zeroPath : Bytes := Utf8.encode "/dev/zero"

/-- The descriptor that a path stands for. -/
def descriptorOf? (text : Text) : Option Nat :=
  ["/dev/stdin", "/dev/stdout", "/dev/stderr"].findIdx? fun name => name.toList == text

/-- Opens a file for reading. -/
def openToRead (text : Text) : Except SystemError Channel :=
  if path text = nullPath then .ok .null
  else if path text = zeroPath then .ok .zeros
  else match m.world.fs.find (path text) with
    | .ok (.file _ data) => .ok (.source (.ofBytes data) true)
    | .ok (.directory _ _) => .error .isDirectory
    | .ok _ => .ok .null
    | .error (.system e) => .error e
    | .error _ => .error .notFound

/-- Opens a file for writing. It is emptied or made unless it is written at the end. -/
def openToWrite (text : Text) (atEnd : Bool) : Except SystemError (Channel × Machine) :=
  if path text = nullPath then .ok (.null, m)
  else
    let made := fun (data : Bytes) =>
      { m with world := { m.world with fs := m.world.fs.replaceContent (path text) data } }
    match m.world.fs.find (path text) with
    | .ok (.file _ data) =>
      if atEnd then .ok (.file (path text) 0 true, m) else
        .ok (.file (path text) 0 false, if data.isEmpty then m else made [])
    | .ok (.directory _ _) => .error .isDirectory
    | .ok _ => .ok (.null, m)
    | .error (.system .notFound) =>
      if m.world.fs.hasParent (path text) then .ok (.file (path text) 0 atEnd, made [])
      else .error .notFound
    | .error (.system e) => .error e
    | .error _ => .error .notFound

/-! ## Variables -/

/-- The value of a variable. -/
def valueOf? (name : Text) : Option Text :=
  (m.self.bindings.find? fun v => v.name == name).map Variable.value

/-- Whether programs are told of a variable. -/
def isExported (name : Text) : Bool := m.self.bindings.any fun v => v.name == name && v.exported

/-- The machine with another value of a variable. -/
def assign (name value : Text) (exported : Bool) : Machine :=
  let old := m.self.bindings.filter fun v => v.name != name
  { m with self := { m.self with
      bindings := old ++ [⟨name, value, exported || m.isExported name⟩] } }

/-- The machine without a variable. -/
def unassign (name : Text) : Machine :=
  { m with self := { m.self with
      bindings := m.self.bindings.filter fun v => v.name != name } }

/-! ## Processes -/

/-- The machine with another status of the last command. -/
def setStatus (status : Nat) : Machine := { m with self := { m.self with status } }

/-- The machine with another status of the last command inside a word. -/
def setSubstituted (substituted : Nat) : Machine := { m with self := { m.self with substituted } }

/-- The machine at a later time. -/
def wait (duration : Time) : Machine :=
  { m with world := { m.world with now := m.world.now + duration } }

/-- The machine in which a process goes on after another one has ended. Where relative paths start
is its own. -/
def resume (after : Machine) : Machine :=
  { world := { after.world with fs := { after.world.fs with cwd := m.world.fs.cwd } },
    self := m.self }

/-- The machine with a new process, which is like the one before but for its number. -/
def fork : Machine where
  world := { m.world with nextProcess := m.world.nextProcess + 1 }
  self := { m.self with number := m.world.nextProcess }

end Machine

/-- The status of a process that ended like this, as others see it. -/
def Flow.code : Flow → Nat
  | status code | exit code => code
  | killed signal _ => 128 + signal
  | leave _ _ | blocked | exhausted => 0

end Fleet.Shell
