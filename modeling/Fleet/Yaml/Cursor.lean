/-!
# A place in a YAML text

Where things begin on their lines carries meaning, so the rest of a text always goes with its place:
the line, the column and the number of characters before it. The text ends at its first zero
character.
-/

namespace Fleet.Yaml

/-- A place in a text. -/
structure Mark where
  /-- How many characters are before it. -/
  index : Nat := 0
  /-- How many lines are before it. -/
  line : Nat := 0
  /-- How many characters are before it on its line. -/
  column : Nat := 0
  deriving Repr, DecidableEq

/-- The place after a character. -/
def Mark.step (m : Mark) (c : Char) : Mark :=
  if c = '\n' then ⟨m.index + 1, m.line + 1, 0⟩ else ⟨m.index + 1, m.line, m.column + 1⟩

/-- The place after both characters of a line break that has two. -/
def Mark.stepPair (m : Mark) : Mark := (m.step '\r').step '\n'

/-- Whether a character is a space or a tab. -/
def isSpace (c : Char) : Bool := c == ' ' || c == '\t'

/-- Whether a character breaks lines. -/
def isBreak (c : Char) : Bool := c == '\n' || c == '\r'

/-- Whether a word cannot go on here: a space, a line break or the end. -/
def atWordEnd : List Char → Bool
  | [] => true
  | c :: _ => isSpace c || isBreak c

/-- Whether a line cannot go on here. -/
def atLineEnd : List Char → Bool
  | [] => true
  | c :: _ => isBreak c

/-- Whether a character may stand in a name. -/
def isNameChar (c : Char) : Bool := c.isAlphanum || c == '_' || c == '-'

/-- Whether a character means something between brackets. -/
def isFlowChar (c : Char) : Bool := [',', '[', ']', '\x7b', '\x7d'].contains c

/-- The value of a hexadecimal digit. -/
def hexValue? (c : Char) : Option Nat :=
  if c.isDigit then some (c.toNat - '0'.toNat)
  else if 'a' ≤ c ∧ c ≤ 'f' then some (c.toNat - 'a'.toNat + 10)
  else if 'A' ≤ c ∧ c ≤ 'F' then some (c.toNat - 'A'.toNat + 10)
  else none

/-- The value of hexadecimal digits. -/
def hexNumber? (cs : List Char) : Option Nat :=
  cs.foldlM (fun n c => (hexValue? c).map (16 * n + ·)) 0

/-- The character of a code. -/
def charOfCode? (code : Nat) : Option Char :=
  if code.isValidChar then some (Char.ofNat code) else none

/-- The rest of a text with its place. -/
structure Cursor where
  /-- The place. -/
  mark : Mark := {}
  /-- What is left. -/
  rest : List Char
  deriving Repr, DecidableEq

namespace Cursor

/-- The beginning of a text. -/
def ofText (text : String) : Cursor := { rest := text.toList.takeWhile (· ≠ '\x00') }

/-- The next character. -/
def head? (cursor : Cursor) : Option Char := cursor.rest.head?

/-- Moves on over so many characters. -/
def skip : Nat → Cursor → Cursor
  | 0, cursor => cursor
  | _, ⟨m, []⟩ => ⟨m, []⟩
  | n + 1, ⟨m, c :: rest⟩ => skip n ⟨m.step c, rest⟩

/-- Moves on over characters of a kind, from a place. -/
def spanFrom (p : Char → Bool) (m : Mark) : List Char → List Char × Cursor
  | [] => ([], ⟨m, []⟩)
  | c :: rest =>
    if p c then
      let (taken, after) := spanFrom p (m.step c) rest
      (c :: taken, after)
    else ([], ⟨m, c :: rest⟩)

/-- Moves on over characters of a kind. -/
def span (p : Char → Bool) (cursor : Cursor) : List Char × Cursor :=
  spanFrom p cursor.mark cursor.rest

/-- Moves on over spaces and tabs. -/
def skipSpaces (cursor : Cursor) : Cursor := (cursor.span isSpace).2

/-- Moves on to the end of the line. -/
def skipToBreak (cursor : Cursor) : Cursor := (cursor.span fun c => !isBreak c).2

/-- Moves on over a line break, if there is one. -/
def skipBreak (cursor : Cursor) : Cursor :=
  match cursor.rest with
  | '\r' :: '\n' :: rest => ⟨cursor.mark.stepPair, rest⟩
  | c :: rest => if isBreak c then ⟨cursor.mark.step c, rest⟩ else cursor
  | [] => cursor

/-- Moves on over spaces and a comment to the end of the line; none if something else is there. -/
def finishLine? (cursor : Cursor) : Option Cursor :=
  let cursor := cursor.skipSpaces
  let cursor := if cursor.head? = some '#' then cursor.skipToBreak else cursor
  if atLineEnd cursor.rest then some cursor.skipBreak else none

/-- Whether a line with three dashes or dots begins here, which ends whatever is open. -/
def isDocumentMark (m : Mark) : List Char → Bool
  | '-' :: '-' :: '-' :: rest => m.column == 0 && atWordEnd rest
  | '.' :: '.' :: '.' :: rest => m.column == 0 && atWordEnd rest
  | _ => false

end Cursor

end Fleet.Yaml
