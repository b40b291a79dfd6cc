import Fleet.Console
import Fleet.Error
import Fleet.Utf8

/-!
# Streams that arrive over time

What a session says arrives in chunks, each at its time, and then ends, fails or stays open for
good. A `Reader` takes chunks one by one as they become available and hands on their bytes. Reading
never waits: where nothing is available yet the answer is `pending`, and the reader is as good as
before.
-/

namespace Fleet

/-- Bytes that become available together. -/
structure Chunk where
  /-- When they do. -/
  time : Time
  data : Bytes
  deriving Repr, DecidableEq

/-- What comes after the last chunk. -/
inductive Ending where
  /-- The stream ends. -/
  | closed (time : Time)
  /-- Reading fails. -/
  | failure (time : Time) (e : IoError)
  /-- Nothing, and no end. -/
  | never
  deriving Repr, DecidableEq

/-- When the ending can be noticed. -/
def Ending.time? : Ending → Option Time
  | closed t => some t
  | failure t _ => some t
  | never => none

/-- The same ending, not before a moment, on a clock that is ahead by `origin`. -/
def Ending.after (origin earliest : Time) : Ending → Ending
  | closed t => closed (max (origin + t) earliest)
  | failure t e => failure (max (origin + t) earliest) e
  | never => never

/-- A stream that is still to arrive. -/
structure Source where
  chunks : List Chunk
  /-- What comes after them. -/
  ending : Ending
  deriving Repr, DecidableEq

namespace Source

/-- A stream with nothing in it. -/
def empty : Source := ⟨[], .closed 0⟩

/-- When something next happens on the stream. -/
def nextTime (source : Source) : Option Time :=
  match source.chunks with
  | c :: _ => some c.time
  | [] => source.ending.time?

/-- When something next happens on the stream after a moment. -/
def nextAfter (source : Source) (now : Time) : Option Time :=
  (source.chunks.map Chunk.time ++ source.ending.time?.toList).find? (now < ·)

/-- The chunks on a clock that is ahead by `origin`, none before the one in front of it. -/
def startChunks (origin earliest : Time) : List Chunk → List Chunk × Time
  | [] => ([], earliest)
  | c :: rest =>
    let time := max (origin + c.time) earliest
    let (chunks, last) := startChunks origin time rest
    (⟨time, c.data⟩ :: chunks, last)

/-- The stream as it arrives when it is created at `origin`: times count from there, nothing
overtakes, and empty chunks are no chunks. -/
def start (source : Source) (origin : Time) : Source :=
  let (chunks, last) := startChunks origin origin (source.chunks.filter fun c => c.data ≠ [])
  ⟨chunks, source.ending.after origin last⟩

/-- All the bytes of the stream, whenever they arrive. -/
def bytes (source : Source) : Bytes := source.chunks.flatMap Chunk.data

end Source

/-- A stream with the bytes of it that were taken but not yet used. -/
structure Reader where
  /-- Taken and not yet used. -/
  buffered : Bytes := []
  /-- Still to be taken. -/
  source : Source
  deriving Repr, DecidableEq

/-- What became of an attempt to read. -/
inductive Fill where
  | data (byte : UInt8) (rest : Bytes)
  /-- The stream has ended. -/
  | ended
  /-- Reading failed. -/
  | failed (e : IoError)
  /-- Nothing is there yet. -/
  | pending
  deriving Repr, DecidableEq

/-- What the end of a stream looks like at a moment. -/
def Ending.fill (now : Time) : Ending → Fill
  | .closed t => if t ≤ now then .ended else .pending
  | .failure t e => if t ≤ now then .failed e else .pending
  | .never => .pending

namespace Reader

/-- All the bytes that the reader will ever hand on. -/
def bytes (reader : Reader) : Bytes := reader.buffered ++ reader.source.bytes

/-- Takes chunks until there is a byte. The reader that comes back holds the bytes after it. -/
def take (now : Time) (ending : Ending) : Bytes → List Chunk → Fill × Reader
  | b :: rest, chunks => (.data b rest, ⟨rest, ⟨chunks, ending⟩⟩)
  | [], [] => (ending.fill now, ⟨[], ⟨[], ending⟩⟩)
  | [], c :: chunks =>
    if c.time ≤ now then take now ending c.data chunks
    else (.pending, ⟨[], ⟨c :: chunks, ending⟩⟩)
termination_by _ chunks => chunks.length

/-- Reads one byte. -/
def poll (reader : Reader) (now : Time) : Fill × Reader :=
  take now reader.source.ending reader.buffered reader.source.chunks

/-- Whether reading would not have to wait. -/
def isReady (reader : Reader) (now : Time) : Bool :=
  (reader.poll now).1 ≠ .pending

end Reader

end Fleet
