import Fleet.Blank
import Fleet.LineReader

/-!
# Acknowledgements

The receiving side of a copy answers each record with a byte: 0 when all is well, 1 for a warning
and 2 for a refusal, both followed by a line of text. Anything else ends the copy. An answer may
come in pieces, so reading one is a machine that can be asked again when more has arrived.
-/

namespace Fleet

namespace Acknowledgement

/-- How far an answer has been read. -/
inductive Progress where
  /-- Its first byte is still to come. -/
  | code
  /-- Its first byte was not 0, and its text is being read. -/
  | text (code : UInt8)
  deriving Repr, DecidableEq

/-- What became of an attempt to read an answer. -/
inductive Answer where
  /-- All is well. -/
  | ok
  /-- All is well, but there is something to tell. -/
  | warning (text : String)
  /-- The copy is over. -/
  | failed (e : HostError)
  /-- The answer is not complete yet. -/
  | pending
  deriving Repr, DecidableEq

/-- What an answer with a text means. -/
def judge (code : UInt8) (text : String) : Answer :=
  if code = 1 then .warning text
  else if code = 2 then .failed (.protocol (.refused text))
  else .failed (.protocol (.unexpectedByte code text))

/-- What an answer with the bytes of a text means. They have to be UTF-8; blanks at the end, the
newline among them, do not belong to the text. -/
def judgeBytes (code : UInt8) (bytes : Bytes) : Answer :=
  match Utf8.decode? bytes with
  | .ok text => judge code (trimEnd text)
  | .error bad => .failed (.io (.malformedText bad.index bad.length))

/-- Reads the text of an answer. -/
def pollText (code : UInt8) (lines : LineReader) (now : Time) : Answer × Progress × LineReader :=
  match lines.poll now with
  | (.line bytes, rest) => (judgeBytes code (bytes ++ [newline]), .code, rest)
  | (.tail bytes, rest) => (judgeBytes code bytes, .code, rest)
  | (.ended, rest) => (judgeBytes code [], .code, rest)
  | (.failed e, rest) => (.failed (.io e), .code, rest)
  | (.pending, rest) => (.pending, .text code, rest)

/-- Reads an answer, as far as it is there. -/
def poll (progress : Progress) (lines : LineReader) (now : Time) :
    Answer × Progress × LineReader :=
  match progress with
  | .text code => pollText code lines now
  | .code =>
    match lines.reader.poll now with
    | (.data code _, reader) =>
      if code = 0 then (.ok, .code, { lines with reader })
      else pollText code { held := [], reader } now
    | (.ended, reader) => (.failed (.protocol (.lostConnection .unexpectedEnd)), .code,
        { lines with reader })
    | (.failed e, reader) => (.failed (.protocol (.lostConnection e)), .code, { lines with reader })
    | (.pending, reader) => (.pending, .code, { lines with reader })

/-- Whether reading on would not have to wait. -/
def isReady (progress : Progress) (lines : LineReader) (now : Time) : Bool :=
  (poll progress lines now).1 ≠ .pending

/-- No stream takes more reads than this. -/
def readLimit : Nat := Nat.pow 2 60

/-- Reads one answer to its end, from one moment at which something arrives to the next. -/
def await : Nat → Progress → LineReader → Time → Answer × LineReader × Time
  | 0, _, lines, now => (.pending, lines, now)
  | attempts + 1, progress, lines, now =>
    match poll progress lines now with
    | (.pending, progress, rest) =>
      match rest.nextTime with
      | some time => await attempts progress rest (max time (now + 1))
      | none => (.pending, rest, now)
    | (answer, _, rest) => (answer, rest, now)

/-- Reads so many answers, one after another: for each the warning that came with it, or why it was
none. -/
def awaitAll : Nat → Time → LineReader → List (Except HostError (Option String))
  | 0, _, _ => []
  | n + 1, now, lines =>
    match await readLimit .code lines now with
    | (.ok, rest, now) => .ok none :: awaitAll n now rest
    | (.warning text, rest, now) => .ok (some text) :: awaitAll n now rest
    | (.failed e, rest, now) => .error e :: awaitAll n now rest
    | (.pending, _, _) => []

end Acknowledgement

end Fleet
