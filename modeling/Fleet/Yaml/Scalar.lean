import Fleet.Yaml.Cursor

/-!
# Scalars of a YAML text

A scalar that is plain or between quotes may go over several lines: a single line break becomes a
space, more than one become one less, and blanks around them vanish. After `|` and `>` whole lines
follow that are indented further; `|` keeps their breaks and `>` joins them too, except around lines
that begin with a blank.
-/

namespace Fleet.Yaml

/-! ## Folding -/

/-- The text of a scalar so far, with the blanks and breaks after it. -/
structure Folding where
  /-- The characters so far, the last one first. -/
  text : List Char := []
  /-- The blanks after them on the same line, the last one first. -/
  spaces : List Char := []
  /-- Whether blanks that follow are at the beginning of a line. -/
  leading : Bool := false
  /-- Whether there was a line break. -/
  broken : Bool := false
  /-- How many more there were. -/
  more : Nat := 0
  deriving Repr, DecidableEq

namespace Folding

/-- After a blank. -/
def space (f : Folding) (c : Char) : Folding :=
  if f.leading then f else { f with spaces := c :: f.spaces }

/-- After a line break. -/
def newline (f : Folding) : Folding :=
  if f.leading then { f with more := f.more + 1 }
  else { f with spaces := [], leading := true, broken := true }

/-- What stands for the blanks and breaks, the last one first. -/
def gap (f : Folding) : List Char :=
  if f.leading then
    if f.broken && f.more == 0 then [' '] else List.replicate f.more '\n'
  else f.spaces

/-- With the blanks and breaks joined to the text. -/
def join (f : Folding) : Folding := { text := f.gap ++ f.text }

/-- With one more character. -/
def push (f : Folding) (c : Char) : Folding := { f with text := c :: f.text }

/-- The text. -/
def result (f : Folding) : String := String.ofList f.text.reverse

end Folding

/-! ## Plain scalars -/

/-- Whether a plain scalar ends before a character. -/
def endsPlain (flow : Bool) (c : Char) (rest : List Char) : Bool :=
  if c = ':' then atWordEnd rest || (flow && (rest.head?.any isFlowChar))
  else flow && isFlowChar c

/-- Reads a plain scalar. `fresh` says that the character before was a blank or a break: there a
comment may begin, a line that is not indented enough, or the end of the document. -/
def readPlain (flow : Bool) (indent : Int) (f : Folding) (fresh : Bool) (m : Mark) :
    List Char → Option (Folding × Cursor)
  | [] => some (f, ⟨m, []⟩)
  | '\r' :: '\n' :: rest => readPlain flow indent f.newline true m.stepPair rest
  | c :: rest =>
    if isBreak c then readPlain flow indent f.newline true (m.step c) rest
    else if isSpace c then
      if f.leading && m.column < indent && c == '\t' then none
      else readPlain flow indent (f.space c) true (m.step c) rest
    else if fresh && (!flow && m.column < indent || c == '#') then some (f, ⟨m, c :: rest⟩)
    else if Cursor.isDocumentMark m (c :: rest) then some (f, ⟨m, c :: rest⟩)
    else if endsPlain flow c rest then some (f, ⟨m, c :: rest⟩)
    else readPlain flow indent (f.join.push c) false (m.step c) rest

/-! ## Quoted scalars -/

/-- What a letter after a backslash stands for. -/
def escaped? (c : Char) : Option Char :=
  ([('0', '\x00'), ('a', '\x07'), ('b', '\x08'), ('t', '\t'), ('\t', '\t'), ('n', '\n'),
    ('v', '\x0b'), ('f', '\x0c'), ('r', '\r'), ('e', '\x1b'), (' ', ' '), ('"', '"'),
    ('\'', '\''), ('\\', '\\'), ('N', '\u0085'), ('_', '\u00a0'), ('L', '\u2028'),
    ('P', '\u2029')].find? fun row => row.1 == c).map Prod.snd

/-- How many hexadecimal digits follow a letter after a backslash. -/
def codeLength? (c : Char) : Option Nat :=
  match c with
  | 'x' => some 2
  | 'u' => some 4
  | 'U' => some 8
  | _ => none

/-- The character of the hexadecimal digits that follow a letter after a backslash, and how many
there are. -/
def coded? (c : Char) (rest : List Char) : Option (Char × Nat) := do
  let length ← codeLength? c
  if rest.length < length then none
  else
    let code ← hexNumber? (rest.take length)
    return (← charOfCode? code, length)

/-- Reads a scalar after its quote, up to the quote that closes it. -/
def readQuoted (quote : Char) (f : Folding) (m : Mark) (chars : List Char) :
    Option (Folding × Cursor) :=
  match chars with
  | [] => none
  | '\r' :: '\n' :: rest => readQuoted quote f.newline m.stepPair rest
  | c :: rest =>
    if isBreak c then readQuoted quote f.newline (m.step c) rest
    else if isSpace c then readQuoted quote (f.space c) (m.step c) rest
    else if Cursor.isDocumentMark m (c :: rest) then none
    else if c = quote then
      match quote, rest with
      | '\'', '\'' :: rest =>
        readQuoted quote (f.join.push '\'') ((m.step c).step '\'') rest
      | _, _ => some (f.join, ⟨m.step c, rest⟩)
    else if c = '\\' && quote = '"' then
      match rest with
      | [] => none
      | '\r' :: '\n' :: rest =>
        readQuoted quote { f.join with leading := true } (m.step c).stepPair rest
      | e :: rest =>
        let after := (m.step c).step e
        if isBreak e then readQuoted quote { f.join with leading := true } after rest
        else match escaped? e with
          | some x => readQuoted quote (f.join.push x) after rest
          | none =>
            match coded? e rest with
            | some (x, length) =>
              let cursor := Cursor.skip length ⟨after, rest⟩
              readQuoted quote (f.join.push x) cursor.mark (rest.drop length)
            | none => none
    else readQuoted quote (f.join.push c) (m.step c) rest
termination_by chars.length

/-! ## Block scalars -/

/-- What is done with the line breaks at the end of a block scalar. -/
inductive Chomping where
  /-- None is kept. -/
  | strip
  /-- The first is kept. -/
  | clip
  /-- All are kept. -/
  | keep
  deriving Repr, DecidableEq

/-- What stands after the mark of a block scalar. -/
structure BlockHeader where
  /-- What is done with line breaks at the end. -/
  chomping : Chomping := .clip
  /-- How much further the lines are indented; zero if the first line tells. -/
  increment : Nat := 0
  deriving Repr, DecidableEq

namespace BlockHeader

/-- The sign of a way of chomping. -/
def chomping? : Char → Option Chomping
  | '+' => some .keep
  | '-' => some .strip
  | _ => none

/-- Reads what stands after the mark of a block scalar, in either order; none if the indentation is
zero. -/
def read? (cursor : Cursor) : Option (BlockHeader × Cursor) :=
  let digit? (c : Char) : Option Nat := if c.isDigit then some (c.toNat - '0'.toNat) else none
  let header? : Option (BlockHeader × Nat) :=
    match cursor.rest with
    | [] => some ({}, 0)
    | c :: rest =>
      match chomping? c, digit? c with
      | some chomping, _ =>
        match rest.head?.bind digit? with
        | some increment => if increment = 0 then none else some (⟨chomping, increment⟩, 2)
        | none => some ({ chomping }, 1)
      | none, some increment =>
        if increment = 0 then none
        else match rest.head?.bind chomping? with
          | some chomping => some (⟨chomping, increment⟩, 2)
          | none => some ({ increment }, 1)
      | none, none => some ({}, 0)
  header?.map fun (header, length) => (header, cursor.skip length)

end BlockHeader

/-- Reads the indentation of a line and the empty lines before it: the greatest column that was
reached and the number of line breaks. No tab may stand in the indentation. -/
def readIndentation (indent widest breaks : Nat) (m : Mark) :
    List Char → Option (Nat × Nat × Cursor)
  | [] => some (max widest m.column, breaks, ⟨m, []⟩)
  | '\r' :: '\n' :: rest =>
    readIndentation indent (max widest m.column) (breaks + 1) m.stepPair rest
  | c :: rest =>
    let inside := indent == 0 || m.column < indent
    if c = ' ' && inside then readIndentation indent widest breaks (m.step c) rest
    else if c = '\t' && inside then none
    else if isBreak c then
      readIndentation indent (max widest m.column) (breaks + 1) (m.step c) rest
    else some (max widest m.column, breaks, ⟨m, c :: rest⟩)

/-- The text of a block scalar so far. -/
structure BlockText where
  /-- The characters so far, the last one first. -/
  text : List Char := []
  /-- Whether a line ended after them. -/
  ended : Bool := false
  /-- How many empty lines came after it. -/
  breaks : Nat := 0
  /-- Whether the last line began with a blank. -/
  blank : Bool := false
  deriving Repr, DecidableEq

namespace BlockText

/-- The line breaks before a next line, which begins with a blank or not. -/
def joint (b : BlockText) (literal blank : Bool) : List Char :=
  List.replicate b.breaks '\n' ++
    if !b.ended then []
    else if !literal && !b.blank && !blank then (if b.breaks = 0 then [' '] else [])
    else ['\n']

/-- The text at the end, with the line breaks that are kept. -/
def close (b : BlockText) (chomping : Chomping) : String :=
  let last := if b.ended then ['\n'] else []
  let tail := match chomping with
    | .strip => []
    | .clip => last
    | .keep => List.replicate b.breaks '\n' ++ last
  String.ofList (tail ++ b.text).reverse

end BlockText

/-- Reads the lines of a block scalar, so many at most. -/
def readBlockLines (literal : Bool) (indent : Nat) :
    Nat → BlockText → Cursor → Option (BlockText × Cursor)
  | 0, b, cursor => some (b, cursor)
  | lines + 1, b, cursor =>
    match cursor.rest with
    | [] => some (b, cursor)
    | c :: _ =>
      if cursor.mark.column ≠ indent then some (b, cursor)
      else
        let blank := isSpace c
        let (line, after) := cursor.span fun c => !isBreak c
        let text := line.reverse ++ (b.joint literal blank ++ b.text)
        if after.rest = [] then some ({ text, blank }, after)
        else do
          let next := after.skipBreak
          let (_, breaks, start) ← readIndentation indent 0 0 next.mark next.rest
          readBlockLines literal indent lines { text, ended := true, breaks, blank } start

/-- Reads a block scalar after its mark, inside of something that is indented. -/
def readBlock (literal : Bool) (outer : Int) (cursor : Cursor) : Option (String × Cursor) := do
  let (header, cursor) ← BlockHeader.read? cursor
  let first ← cursor.finishLine?
  let given := if header.increment = 0 then 0 else (max outer 0).toNat + header.increment
  let (widest, breaks, start) ← readIndentation given 0 0 first.mark first.rest
  let indent := if given = 0 then max (max widest (outer + 1).toNat) 1 else given
  let (text, after) ← readBlockLines literal indent start.rest.length { breaks } start
  return (text.close header.chomping, after)

end Fleet.Yaml
