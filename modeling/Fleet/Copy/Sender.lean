import Fleet.Copy.Acknowledgement
import Fleet.Copy.Listing
import Fleet.Numeral

/-!
# Sending files

The entries of a listing become groups of bytes: a line with times, a header line, and the bytes of
a file with a zero byte after them. The sender waits for an acknowledgement before the first group
and after each; it never sends a group before the one in front of it is acknowledged.

The content of a file is read when its turn comes. If there is less of it than its header announced,
what there is has been sent and the copy fails.
-/

namespace Fleet

/-- Where bytes for the remote side go. It may stop taking them. -/
structure Sink where
  /-- What it has taken. -/
  written : Bytes := []
  /-- How many more bytes it takes, where there is a limit. -/
  room : Option Nat := none
  deriving Repr, DecidableEq

/-- Gives bytes to a sink: whether it took all of them, and the sink with those it took. -/
def Sink.write (sink : Sink) (bytes : Bytes) : Bool × Sink :=
  match sink.room with
  | none => (true, { sink with written := sink.written ++ bytes })
  | some room =>
    (decide (bytes.length ≤ room),
      ⟨sink.written ++ bytes.take room, some (room - bytes.length)⟩)

namespace Copy

/-- What is sent between two acknowledgements. -/
inductive Group where
  /-- A line of the protocol. -/
  | line (text : String)
  /-- So many bytes of a file, and a zero byte. -/
  | content (path : Bytes) (length : Nat)
  deriving Repr, DecidableEq

/-- The line with an entry's times. -/
def timesLine (entry : CopyEntry) : String :=
  "T" ++ toString entry.mtime ++ " 0 " ++ toString entry.atime ++ " 0\n"

/-- The line that announces an entry. -/
def headerLine (entry : CopyEntry) : String :=
  match entry.kind with
  | .directory => "D" ++ Numeral.octal4 entry.mode ++ " 0 " ++ entry.name ++ "\n"
  | .file length =>
    "C" ++ Numeral.octal4 entry.mode ++ " " ++ toString length ++ " " ++ entry.name ++ "\n"
  | .leave => "E\n"

/-- The groups of one entry. Times precede files and directories, where they are sent at all. -/
def groupsOf (preserve : Bool) (entry : CopyEntry) : List Group :=
  (if preserve && entry.kind != .leave then [.line (timesLine entry)] else [])
    ++ .line (headerLine entry) ::
    match entry.kind with
    | .file length => [.content entry.path length]
    | _ => []

def groups (preserve : Bool) (entries : List CopyEntry) : List Group :=
  entries.flatMap (groupsOf preserve)

/-- Sends one group. -/
def sendGroup (fs : FileSystem) (sink : Sink) : Group → Except HostError Unit × Sink
  | .line text =>
    match sink.write (Utf8.encode text) with
    | (true, sink) => (.ok (), sink)
    | (false, sink) => (.error (.io .pipeClosed), sink)
  | .content path length =>
    match fs.find path with
    | .error e => (.error (.io e), sink)
    | .ok _ =>
      match if length = 0 then .ok [] else fs.read path with
      | .error e => (.error (.io e), sink)
      | .ok data =>
        match sink.write (data.take length) with
        | (false, sink) => (.error (.io .pipeClosed), sink)
        | (true, sink) =>
          if data.length < length then
            (.error (.protocol (.shrank (Utf8.lossy path))), sink)
          else match sink.write [0] with
            | (true, sink) => (.ok (), sink)
            | (false, sink) => (.error (.io .pipeClosed), sink)

end Copy

/-- A copy under way: it waits for an acknowledgement, with the groups still to be sent after it. -/
structure Sending where
  /-- The groups still to be sent. -/
  groups : List Copy.Group
  /-- How far the acknowledgement has been read. -/
  progress : Acknowledgement.Progress := .code
  /-- Where acknowledgements come from. -/
  answers : LineReader
  /-- Where the groups go. -/
  sink : Sink
  deriving Repr, DecidableEq

namespace Sending

/-- What became of an attempt to get on with a copy. -/
inductive Outcome where
  /-- A step was made, with a warning to pass on if there was one. -/
  | advanced (warning : Option String) (next : Sending)
  /-- All groups are sent and acknowledged. -/
  | finished (warning : Option String) (rest : LineReader) (sink : Sink)
  /-- The copy failed. -/
  | failed (warning : Option String) (e : HostError) (sink : Sink)
  /-- There is no complete acknowledgement yet. -/
  | waiting (next : Sending)
  deriving Repr

/-- A copy about to begin. -/
def start (preserve : Bool) (entries : List CopyEntry) (answers : LineReader) (sink : Sink) :
    Sending :=
  { groups := Copy.groups preserve entries, answers, sink }

/-- Sends the next group, after a good acknowledgement. -/
def proceed (fs : FileSystem) (sending : Sending) (warning : Option String)
    (answers : LineReader) : Outcome :=
  match sending.groups with
  | [] => .finished warning answers sending.sink
  | group :: groups =>
    match Copy.sendGroup fs sending.sink group with
    | (.ok (), sink) => .advanced warning { groups, answers, sink }
    | (.error e, sink) => .failed warning e sink

/-- Reads the acknowledgement that is waited for, and sends the next group if it is good. -/
def poll (fs : FileSystem) (sending : Sending) (now : Time) : Outcome :=
  match Acknowledgement.poll sending.progress sending.answers now with
  | (.ok, _, answers) => sending.proceed fs none answers
  | (.warning text, _, answers) => sending.proceed fs (some text) answers
  | (.failed e, _, _) => .failed none e sending.sink
  | (.pending, progress, answers) => .waiting { sending with progress, answers }

/-- Getting on with a copy takes one group. -/
theorem poll_advanced {fs : FileSystem} {sending next : Sending} {now : Time}
    {warning : Option String} (result : sending.poll fs now = .advanced warning next) :
    next.groups.length < sending.groups.length := by
  have taken {note : Option String} {answers : LineReader}
      (result : sending.proceed fs note answers = .advanced warning next) :
      next.groups.length < sending.groups.length := by
    unfold proceed at result
    split at result
    · cases result
    · next group groups here =>
      split at result
      · cases result
        rw [here]
        exact Nat.lt_succ_self _
      · cases result
  unfold poll at result
  split at result
  · exact taken result
  · exact taken result
  · cases result
  · cases result

/-- Whether a copy would not have to wait. -/
def isReady (sending : Sending) (now : Time) : Bool :=
  Acknowledgement.isReady sending.progress sending.answers now

/-- Sends everything, from one moment at which something arrives to the next: what was sent, the
warnings, and what came of it, if anything did. -/
def run (fs : FileSystem) : Nat → Time → Sending →
    Bytes × List String × Option (Except HostError Unit)
  | 0, _, sending => (sending.sink.written, [], none)
  | attempts + 1, now, sending =>
    match sending.poll fs now with
    | .advanced warning next =>
      let (written, warnings, outcome) := run fs attempts now next
      (written, warning.toList ++ warnings, outcome)
    | .finished warning _ sink => (sink.written, warning.toList, some (.ok ()))
    | .failed warning e sink => (sink.written, warning.toList, some (.error e))
    | .waiting next =>
      match next.answers.nextTime with
      | some time => run fs attempts (max time (now + 1)) next
      | none => (next.sink.written, [], none)

end Sending

end Fleet
