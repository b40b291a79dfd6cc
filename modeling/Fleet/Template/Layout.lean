import Fleet.Blank
import Fleet.Template.Reader

/-!
# Text and tags

A template's source is text with tags in it. A tag starts with two braces; a backslash before them
makes them text. This module cuts a source into pieces and settles the blank space between them:

- a tilde at the edge of a tag takes all blank space on that side away;
- a tag that is there for its effect, a block's edge or a comment, takes its whole line away if it
  stands alone on one. A tag that prints something never does.

Blank space at the very end of a source, behind a tag, always stays.
-/

namespace Fleet.Template

inductive Tag where
  /-- Prints a value. -/
  | print (e : Expr)
  /-- Starts a block. -/
  | opening (head : Head)
  /-- Separates the two parts of a block. -/
  | inverse
  /-- Ends a block. -/
  | closing (name : String)
  /-- Starts a block whose text is not a template. -/
  | rawOpening (head : Head)
  /-- Ends such a block. -/
  | rawClosing (name : String)
  /-- Says something to the reader. -/
  | comment
  /-- Puts another template in. -/
  | inclusion (name : String)
  deriving Repr

/-- Whether a tag takes its line away when it stands alone. -/
def Tag.isSilent : Tag → Bool
  | .print _ => false
  | _ => true

/-- Whether a tag that stands alone takes the blank space in front of it away as well. -/
def Tag.dropsIndent : Tag → Bool
  | .print _ => false
  | .inclusion _ => false
  | _ => true

/-- What is around a tag. -/
structure Margins where
  /-- Whether it takes away the blank space in front of it. -/
  trimsBefore : Bool
  /-- Whether it takes away the blank space behind it. -/
  trimsAfter : Bool
  /-- Whether there is only blank space in front of it on its line. -/
  blankBefore : Bool
  /-- Whether there is only blank space behind it on its line, and the line ends. -/
  blankAfter : Bool
  deriving Repr, DecidableEq

/-- A piece of a source. -/
inductive Piece where
  | text (cs : List Char)
  | tag (tag : Tag) (margins : Margins)
  deriving Repr

namespace Layout

open Reader

/-- The two braces that start a tag. -/
def braces : List Char := ['\x7b', '\x7b']

/-- The two braces that end a tag. -/
def closingBraces : List Char := ['\x7d', '\x7d']

/-- The four braces at the edges of a raw block's tags. -/
def rawBraces : List Char := braces ++ braces

/-- The four braces that end such a tag. -/
def rawClosingBraces : List Char := closingBraces ++ closingBraces

/-! ## Text -/

/-- How many characters behind a backslash it takes the meaning of: braces right behind it, or all
further backslashes that lead up to braces. None of them means that it is a character as others. -/
def escaped (rest : List Char) : Nat :=
  let run := (rest.takeWhile (· == '\\')).length
  let behind := rest.drop run
  if !braces.isPrefixOf behind then 0
  else if run > 0 then run
  else if rawBraces.isPrefixOf behind then 4
  else 2

/-- Takes text from the front, up to the place where `stop` stands. The first so many characters are
copied as they are. -/
def text (stop : List Char) : Nat → List Char → List Char × List Char
  | _, [] => ([], [])
  | copy + 1, c :: rest =>
    let (taken, after) := text stop copy rest
    (c :: taken, after)
  | 0, c :: rest =>
    if stop.isPrefixOf (c :: rest) then ([], c :: rest)
    else if c = '\\' ∧ escaped rest ≠ 0 then text stop (escaped rest) rest
    else
      let (taken, after) := text stop 0 rest
      (c :: taken, after)

/-! ## Tags -/

/-- An optional tilde, with blank space around it. -/
def tilde (cs : List Char) : Bool × List Char :=
  match skip cs with
  | '~' :: rest => (true, skip rest)
  | rest => (false, rest)

/-- Reads the inside of a tag between an optional tilde and the closing braces. -/
def enclosed (read : List Char → Option (Tag × List Char)) (close : List Char)
    (cs : List Char) : Option (Tag × Bool × Bool × List Char) := do
  let (before, inside) := tilde cs
  let (tag, rest) ← read inside
  let (after, rest) := tilde rest
  return (tag, before, after, ← expect close rest)

/-- What follows `else` in the middle of a block. -/
def inverse? (cs : List Char) : Option (Tag × List Char) :=
  ((expect "else".toList cs).or (expect ['^'] cs)).map fun rest => (.inverse, rest)

/-- A value to be printed. -/
def print? (cs : List Char) : Option (Tag × List Char) :=
  (expression? cs).map fun (e, rest) => (.print e, rest)

/-- A value to be printed, between braces of its own. -/
def braced? (cs : List Char) : Option (Tag × List Char) := do
  let (e, rest) ← expression? (skip (← expect ['\x7b'] cs))
  return (.print e, ← expect ['\x7d'] (skip rest))

/-- A value to be printed, after an ampersand. -/
def ampersand? (cs : List Char) : Option (Tag × List Char) := do
  let inside := skip (← expect ['&'] cs)
  let (e, rest) ← subexpression? inside.length inside <|>
    (path? inside).map fun (path, rest) => (Expr.path path, rest)
  return (.print e, rest)

/-- The start of a block. -/
def opening? (cs : List Char) : Option (Tag × List Char) := do
  let (head, rest) ← head? (skip (← expect ['#'] cs))
  return (.opening head, rest)

/-- The end of a block. -/
def closing? (make : String → Tag) (cs : List Char) : Option (Tag × List Char) := do
  let (name, rest) ← name? (skip (← expect ['/'] cs))
  return (make name, rest)

/-- The start of a block whose text is not a template. -/
def rawOpening? (cs : List Char) : Option (Tag × List Char) :=
  (head? cs).map fun (head, rest) => (.rawOpening head, rest)

/-- Whether a character can be part of the name of another template. -/
def isInclusionChar (c : Char) : Bool := isNameChar c || c == '/' || c == '.'

/-- Another template by its name. What it is told does not matter. -/
def inclusion? (cs : List Char) : Option (Tag × List Char) := do
  let inside := skip (← expect ['>'] cs)
  let name := inside.takeWhile isInclusionChar
  if name.isEmpty then none
  else
    let rest := inside.drop name.length
    let (_, _, rest) := arguments rest.length rest
    return (.inclusion (String.ofList name), rest)

/-- What follows the first place where a text stands. -/
def after? (token : List Char) : List Char → Option (List Char)
  | [] => none
  | c :: rest => if token.isPrefixOf (c :: rest) then some ((c :: rest).drop token.length)
    else after? token rest

/-- A comment. One that starts with two dashes ends with two dashes, if it can. -/
def comment? (cs : List Char) : Option (List Char) := do
  let rest ← expect ['!'] cs
  (expect ['-', '-'] (skip rest)).bind (after? ['-', '-', '\x7d', '\x7d']) <|>
    after? closingBraces rest

/-- Reads a tag after its opening braces: the tag, whether there is a tilde at either edge, and the
rest of the source. -/
def tag? (cs : List Char) : Option (Tag × Bool × Bool × List Char) :=
  enclosed inverse? closingBraces cs
    <|> enclosed print? closingBraces cs
    <|> enclosed braced? closingBraces cs
    <|> enclosed ampersand? closingBraces cs
    <|> enclosed opening? closingBraces cs
    <|> enclosed (closing? .closing) closingBraces cs
    <|> ((expect braces cs).bind fun inside => enclosed rawOpening? rawClosingBraces inside)
    <|> (comment? cs).map (fun rest => (.comment, false, false, rest))
    <|> enclosed inclusion? closingBraces cs

/-! ## Pieces -/

/-- Whether a character indents. -/
def isIndent (c : Char) : Bool := c == ' ' || c == '\t'

/-- Whether a character ends a line. -/
def isLineEnd (c : Char) : Bool := c == '\n' || c == '\r'

/-- Whether a line has been blank so far, given the source before in reverse. -/
def isBlankBefore (before : List Char) : Bool :=
  match before.dropWhile isIndent with
  | [] => true
  | c :: _ => isLineEnd c

/-- Whether a line is blank from here on, and ends. -/
def isBlankAfter (after : List Char) : Bool :=
  (after.dropWhile isIndent).head?.any isLineEnd

/-- What is around a tag. -/
def marginsOf (before after : List Char) (trimsBefore trimsAfter : Bool) : Margins :=
  ⟨trimsBefore, trimsAfter, isBlankBefore before, isBlankAfter after⟩

/-- The source before, in reverse, after `cs` was read up to `rest`. -/
def passed (before cs rest : List Char) : List Char :=
  (cs.take (cs.length - rest.length)).reverse ++ before

/-- The pieces of the rest of a source, with the source before it in reverse. Each piece takes at
least one character, so the length of the rest is turns enough. -/
def piecesFrom : Nat → List Char → List Char → Option (List Piece)
  | _, _, [] => some []
  | 0, _, _ :: _ => none
  | turns + 1, before, cs =>
    match expect braces cs with
    | none =>
      let (taken, rest) := text braces 0 cs
      (piecesFrom turns (passed before cs rest) rest).map (.text taken :: ·)
    | some inside => do
      let (tag, trimsBefore, trimsAfter, rest) ← tag? inside
      let piece := Piece.tag tag (marginsOf before rest trimsBefore trimsAfter)
      let before := passed before cs rest
      match tag with
      | .rawOpening _ =>
        let (taken, close) := text rawBraces 0 (skip rest)
        let inside ← expect rawBraces close
        let (tag, trimsBefore, trimsAfter, rest') ← enclosed (closing? .rawClosing)
          rawClosingBraces inside
        let margins := marginsOf (passed before rest close) rest' trimsBefore trimsAfter
        let more ← piecesFrom turns (passed before rest rest') rest'
        return piece :: .text taken :: .tag tag margins :: more
      | _ =>
        let more ← piecesFrom turns before rest
        return piece :: more

def pieces? (source : List Char) : Option (List Piece) :=
  piecesFrom source.length [] source

/-! ## Blank space -/

/-- Text without what is left of the line in front of it. -/
def dropLine (cs : List Char) : List Char :=
  match cs.dropWhile isIndent with
  | '\r' :: '\n' :: rest => rest
  | '\n' :: rest => rest
  | rest => rest

/-- Text without the indentation at its end. -/
def dropEndIndent (cs : List Char) : List Char := (cs.reverse.dropWhile isIndent).reverse

/-- Whether a tag stands alone on its line and takes the line away. -/
def standsAlone (tag : Tag) (m : Margins) : Bool := tag.isSilent && m.blankBefore && m.blankAfter

/-- Text as the tag behind it leaves it. -/
def beforeTag (cs : List Char) (tag : Tag) (m : Margins) : List Char :=
  let cs := if m.trimsBefore then dropEndBlanks cs else cs
  if tag.dropsIndent && standsAlone tag m then dropEndIndent cs else cs

/-- What the tags before a text do to it. -/
structure Pending where
  /-- All blank space goes. -/
  trims : Bool := false
  /-- What is left of the line goes. -/
  dropsLine : Bool := false
  /-- Nothing has been read yet. -/
  atStart : Bool := true

/-- What a tag does to the text behind it, besides what is pending already. -/
def Pending.pass (pending : Pending) (tag : Tag) (m : Margins) : Pending :=
  { trims := match tag with
      | .comment => pending.trims
      | _ => m.trimsAfter
    dropsLine := if tag.isSilent then standsAlone tag m else pending.dropsLine
    atStart := false }

/-- Settles the blank space between pieces. -/
def settle (pending : Pending) : List Piece → List Piece
  | [] => []
  | .tag tag m :: rest => .tag tag m :: settle (pending.pass tag m) rest
  | .text cs :: rest =>
    let isGap := !pending.atStart && cs.all isSpace
    if isGap && rest.isEmpty then [.text cs]
    else
      let trimmed := if pending.trims then dropBlanks cs
        else if pending.dropsLine then dropLine cs else cs
      let pending := { pending with
        atStart := false, dropsLine := pending.dropsLine && isGap && pending.trims }
      match rest with
      | .tag tag m :: _ => .text (beforeTag trimmed tag m) :: settle pending rest
      | _ => .text trimmed :: settle pending rest

end Layout

end Fleet.Template
