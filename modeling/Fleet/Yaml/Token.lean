import Fleet.Yaml.Scalar

/-!
# Tokens of a YAML text

A YAML text is a sequence of tokens. Most are marks that can be seen; the beginning and the end of a
block follow from indentation, and a key without a mark of its own is known only by the colon after
it. So the lexer remembers where such a key could have begun, and puts its token there once the
colon comes; the key and the colon have to be on one line.
-/

namespace Fleet.Yaml

/-- A tag, split into its handle and what follows it. -/
structure Tag where
  handle : String
  /-- What follows it. -/
  suffix : String
  deriving Repr, DecidableEq

/-- The tokens of a text. -/
inductive Token where
  /-- A line with instructions for the reader. -/
  | directive
  /-- Three dashes. -/
  | documentStart
  /-- Three dots. -/
  | documentEnd
  /-- The first entry of a sequence is indented here. -/
  | blockSequence
  /-- The first key of a mapping is indented here. -/
  | blockMapping
  /-- What was indented here ends. -/
  | blockEnd
  /-- An opening bracket. -/
  | flowSequence
  /-- A closing bracket. -/
  | flowSequenceEnd
  /-- An opening brace. -/
  | flowMapping
  /-- A closing brace. -/
  | flowMappingEnd
  /-- A dash. -/
  | blockEntry
  /-- A comma. -/
  | flowEntry
  /-- A question mark, or the place of a key without one. -/
  | key
  /-- A colon. -/
  | value
  /-- A reference to something named. -/
  | alias (name : String)
  /-- A name for what follows. -/
  | anchor (name : String)
  /-- A tag for what follows. -/
  | tag (tag : Tag)
  /-- A scalar, plain or not. -/
  | scalar (plain : Bool) (text : String)
  deriving Repr, DecidableEq

namespace Token

/-! ## Words -/

/-- Reads the name of an anchor. What follows it has to end it. -/
def readName (cursor : Cursor) : Option (String × Cursor) :=
  let (name, after) := (cursor.skip 1).span isNameChar
  let ends := atWordEnd after.rest
    || after.head?.any ['?', ':', ',', ']', '\x7d', '%', '@', '\x60'].contains
  if name ≠ [] && ends then some (String.ofList name, after) else none

/-- Whether a character may stand in a tag. -/
def isTagChar (c : Char) : Bool :=
  isNameChar c || ";/?:@&=+$,.!~*'()[]%".toList.contains c

/-- The byte of a percent sign and two digits. -/
def readOctet : List Char → Option Nat
  | '%' :: a :: b :: _ => do return 16 * (← hexValue? a) + (← hexValue? b)
  | _ => none

/-- How many bytes a character has that begins with this one. -/
def octetCount? (octet : Nat) : Option Nat :=
  if octet < 0x80 then some 1
  else if 0xC0 ≤ octet ∧ octet < 0xE0 then some 2
  else if 0xE0 ≤ octet ∧ octet < 0xF0 then some 3
  else if 0xF0 ≤ octet ∧ octet < 0xF8 then some 4
  else none

/-- Adds so many more bytes to the code of a character. -/
def readOctets (code : Nat) : Nat → Cursor → Option (Nat × Cursor)
  | 0, cursor => some (code, cursor)
  | n + 1, cursor => do
    let octet ← readOctet cursor.rest
    if octet / 64 = 2 then readOctets (code * 256 + octet) n (cursor.skip 3) else none

/-- Reads a character that is written with percent signs. -/
def readEscape (cursor : Cursor) : Option (Char × Cursor) := do
  let octet ← readOctet cursor.rest
  let (code, after) ← readOctets octet ((← octetCount? octet) - 1) (cursor.skip 3)
  return (← charOfCode? code, after)

/-- Reads the characters of a tag, so many at most. -/
def readTagChars : Nat → Cursor → Option (List Char × Cursor)
  | 0, cursor => some ([], cursor)
  | limit + 1, cursor =>
    match cursor.head? with
    | none => some ([], cursor)
    | some c =>
      if !isTagChar c then some ([], cursor)
      else do
        let (x, after) ← if c = '%' then readEscape cursor else some (c, cursor.skip 1)
        let (more, rest) ← readTagChars limit after
        return (x :: more, rest)

/-- Reads what follows the handle of a tag. There has to be something if nothing was before. -/
def readSuffix (before : List Char) (cursor : Cursor) : Option (String × Cursor) := do
  let (chars, after) ← readTagChars cursor.rest.length cursor
  if before = [] && chars = [] then none
  else return (String.ofList (before.drop 1 ++ chars), after)

/-- Reads what may be the handle of a tag: an exclamation mark and a name, with another exclamation
mark if it is one. -/
def readHandle (cursor : Cursor) : Option (List Char × Cursor) :=
  if cursor.head? ≠ some '!' then none
  else
    let (name, after) := (cursor.skip 1).span isNameChar
    if after.head? = some '!' then some ('!' :: (name ++ ['!']), after.skip 1)
    else some ('!' :: name, after)

/-- Whether something is the handle of a tag. -/
def isHandle (cs : List Char) : Bool := decide (2 ≤ cs.length) && cs.getLast? == some '!'

/-- Reads a tag, which has to end where a word ends. -/
def readTag (cursor : Cursor) : Option (Tag × Cursor) := do
  let (found, after) ←
    if cursor.rest[1]? = some '<' then do
      let (suffix, after) ← readSuffix [] (cursor.skip 2)
      if after.head? = some '>' then some (Tag.mk "" suffix, after.skip 1) else none
    else do
      let (handle, after) ← readHandle cursor
      if isHandle handle then do
        let (suffix, after) ← readSuffix [] after
        return (Tag.mk (String.ofList handle) suffix, after)
      else do
        let (suffix, after) ← readSuffix handle after
        return (if suffix = "" then Tag.mk "" "!" else Tag.mk "!" suffix, after)
  if atWordEnd after.rest then some (found, after) else none

/-! ## Directives -/

/-- Reads a number of a version. -/
def readVersionNumber (cursor : Cursor) : Option Cursor :=
  let (digits, after) := cursor.span Char.isDigit
  if 1 ≤ digits.length ∧ digits.length ≤ 9 then some after else none

/-- Reads a version. -/
def readVersion (cursor : Cursor) : Option Cursor := do
  let after ← readVersionNumber cursor.skipSpaces
  if after.head? = some '.' then readVersionNumber (after.skip 1) else none

/-- Reads the meaning of a handle. -/
def readTagMeaning (cursor : Cursor) : Option Cursor := do
  let (handle, after) ← readHandle cursor.skipSpaces
  if isHandle handle || handle = ['!'] then
    let (_, after) ← readSuffix [] after.skipSpaces
    if atWordEnd after.rest then some after else none
  else none

/-- Reads a line with instructions. Those that are not known are skipped. -/
def readDirective (cursor : Cursor) : Option Cursor := do
  let (name, after) := (cursor.skip 1).span isNameChar
  if name = [] || !atWordEnd after.rest then none
  else
    let after ← match String.ofList name with
      | "YAML" => readVersion after
      | "TAG" => readTagMeaning after
      | _ => some after.skipToBreak
    after.finishLine?

end Token

end Fleet.Yaml
