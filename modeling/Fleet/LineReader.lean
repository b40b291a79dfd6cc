import Fleet.Source

/-!
# Lines

A line ends with a newline byte, which does not belong to it; a last piece without one counts if it
is not empty. A line may arrive in many chunks, so the reader keeps what it has of it: an attempt
that finds no whole line loses nothing.

`pieces` is the same on a byte string that is all there.
-/

namespace Fleet

/-- The byte that ends a line. -/
def newline : UInt8 := 10

/-- Splits at the first newline: what is before and what is after. -/
def splitLine : Bytes → Option (Bytes × Bytes)
  | [] => none
  | b :: rest =>
    if b = newline then some ([], rest)
    else (splitLine rest).map fun (line, after) => (b :: line, after)

/-- The pieces between newlines, the first of which starts with `held`. -/
def piecesFrom (held : Bytes) : Bytes → List Bytes
  | [] => if held = [] then [] else [held]
  | b :: rest => if b = newline then held :: piecesFrom [] rest else piecesFrom (held ++ [b]) rest

/-- The pieces between newlines; the last one only if it is not empty. -/
def pieces (bs : Bytes) : List Bytes := piecesFrom [] bs

/-- What became of an attempt to read a line. -/
inductive LineRead where
  /-- A line that ended with a newline. -/
  | line (bytes : Bytes)
  /-- The last piece of the stream, without a newline. -/
  | tail (bytes : Bytes)
  /-- The stream has ended. -/
  | ended
  /-- Reading failed. -/
  | failed (e : IoError)
  /-- There is no whole line yet. -/
  | pending
  deriving Repr, DecidableEq

/-- A reader together with the part of a line that it has seen. -/
structure LineReader where
  /-- The part of a line seen so far. -/
  held : Bytes := []
  /-- Where the rest comes from. -/
  reader : Reader
  deriving Repr, DecidableEq

namespace LineReader

/-- A reader of a stream from its first byte on. -/
def ofSource (source : Source) : LineReader := { reader := { source } }

/-- At the end of a stream: the part seen so far is a piece of its own if it is not empty. -/
def finish (now : Time) (held : Bytes) (ending : Ending) : LineRead × LineReader :=
  match ending.fill now with
  | .ended => (if held = [] then .ended else .tail held, ⟨[], ⟨[], ⟨[], ending⟩⟩⟩)
  | .failed e => (.failed e, ⟨held, ⟨[], ⟨[], ending⟩⟩⟩)
  | _ => (.pending, ⟨held, ⟨[], ⟨[], ending⟩⟩⟩)

/-- Reads on from `held` and `buffered` through the chunks that are there. -/
def scan (now : Time) (ending : Ending) (held buffered : Bytes) :
    List Chunk → LineRead × LineReader
  | [] =>
    match splitLine buffered with
    | some (line, rest) => (.line (held ++ line), ⟨[], ⟨rest, ⟨[], ending⟩⟩⟩)
    | none => finish now (held ++ buffered) ending
  | c :: chunks =>
    match splitLine buffered with
    | some (line, rest) => (.line (held ++ line), ⟨[], ⟨rest, ⟨c :: chunks, ending⟩⟩⟩)
    | none =>
      if c.time ≤ now then scan now ending (held ++ buffered) c.data chunks
      else (.pending, ⟨held ++ buffered, ⟨[], ⟨c :: chunks, ending⟩⟩⟩)

/-- Reads the next line, as far as it is there. -/
def poll (lines : LineReader) (now : Time) : LineRead × LineReader :=
  scan now lines.reader.source.ending lines.held lines.reader.buffered lines.reader.source.chunks

/-- Whether reading would not have to wait. -/
def isReady (lines : LineReader) (now : Time) : Bool :=
  (lines.poll now).1 ≠ .pending

/-- When something next happens on the stream. -/
def nextTime (lines : LineReader) : Option Time := lines.reader.source.nextTime

/-- Reads until the stream ends, fails or stays silent for good. After an attempt in vain the next
one is made when something happens, or `every` so often. The number of attempts is bounded by
`attempts`. -/
def drain (every : Option Time) : Nat → Time → LineReader → List Bytes × Except IoError Unit
  | 0, _, _ => ([], .ok ())
  | attempts + 1, now, lines =>
    match lines.poll now with
    | (.line bytes, rest) | (.tail bytes, rest) =>
      let (more, outcome) := drain every attempts now rest
      (bytes :: more, outcome)
    | (.ended, _) => ([], .ok ())
    | (.failed e, _) => ([], .error e)
    | (.pending, rest) =>
      match every, rest.nextTime with
      | some span, _ => drain every attempts (now + max span 1) rest
      | none, some time => drain every attempts (max time (now + 1)) rest
      | none, none => ([], .ok ())

end LineReader

end Fleet
