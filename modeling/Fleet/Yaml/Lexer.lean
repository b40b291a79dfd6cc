import Fleet.Yaml.Token

/-!
# From a YAML text to its tokens

`Lexer.next?` finds one token after another. It knows how far what it is in is indented, how many
brackets are open, and, for each of those, where a key without a mark could have begun.
-/

namespace Fleet.Yaml

/-- A place where a key without a mark could have begun. -/
structure KeyChance where
  /-- Whether it still could. -/
  possible : Bool := false
  /-- Whether it is a fault if it did not. -/
  required : Bool := false
  /-- The number of the token that would be its. -/
  number : Nat := 0
  /-- The place. -/
  mark : Mark := {}
  deriving Repr, DecidableEq

/-- The lexer on its way through a text. -/
structure Lexer where
  /-- The rest of the text. -/
  cursor : Cursor
  /-- The tokens so far. -/
  tokens : List Token := []
  /-- Where a key could have begun, for the innermost brackets. -/
  chance : KeyChance := {}
  /-- The same for the brackets around them. -/
  chances : List KeyChance := []
  /-- Whether a key may begin here. -/
  keyAllowed : Bool := true
  /-- How far the innermost block is indented. -/
  indent : Int := -1
  /-- How far the blocks around it are indented. -/
  indents : List Int := []
  /-- How many brackets are open. -/
  flow : Nat := 0
  deriving Repr, DecidableEq

namespace Lexer

/-! ## Keys and indentation -/

/-- With another token. -/
def emit (l : Lexer) (token : Token) : Lexer := { l with tokens := l.tokens ++ [token] }

/-- Where the lexer is. -/
def mark (l : Lexer) : Mark := l.cursor.mark

/-- How far apart a key and its colon may be. -/
def keyReach : Nat := 1024

/-- Whether a key that could have begun at a place would be too far away. -/
def isStale (l : Lexer) (chance : KeyChance) : Bool :=
  chance.possible &&
    (chance.mark.line < l.mark.line || chance.mark.index + keyReach < l.mark.index)

/-- Gives up the chances that are too far away. -/
def expire? (l : Lexer) : Option Lexer :=
  let fresh (chance : KeyChance) : KeyChance :=
    if l.isStale chance then { chance with possible := false } else chance
  if (l.chance :: l.chances).any fun chance => l.isStale chance && chance.required then none
  else some { l with chance := fresh l.chance, chances := l.chances.map fresh }

/-- Gives up the innermost chance. -/
def dropKey? (l : Lexer) : Option Lexer :=
  if l.chance.possible && l.chance.required then none
  else some { l with chance := { l.chance with possible := false } }

/-- Notes that a key could begin here, if that is allowed. -/
def saveKey? (l : Lexer) : Option Lexer :=
  if !l.keyAllowed then some l
  else l.dropKey?.map fun l => { l with chance := {
    possible := true
    required := decide (0 < l.flow) && l.indent == l.mark.column
    number := l.tokens.length
    mark := l.mark } }

/-- Blocks that are indented further than a column end; how far what is left is indented. -/
def unrolled (column : Int) (indent : Int) : List Int → Nat × Int × List Int
  | [] => (0, indent, [])
  | outer :: indents =>
    if column < indent then
      let (count, indent, indents) := unrolled column outer indents
      (count + 1, indent, indents)
    else (0, indent, outer :: indents)

/-- Ends the blocks that are indented further than a column. -/
def unroll (l : Lexer) (column : Int) : Lexer :=
  if 0 < l.flow then l
  else
    let (count, indent, indents) := unrolled column l.indent l.indents
    { l with indent, indents, tokens := l.tokens ++ List.replicate count .blockEnd }

/-- Begins a block at a column, if that is further than the block that is open. The token goes to a
place among the tokens. -/
def roll (l : Lexer) (column : Nat) (number : Nat) (token : Token) : Lexer :=
  if 0 < l.flow || column ≤ l.indent then l
  else { l with
    indents := l.indent :: l.indents, indent := column,
    tokens := l.tokens.insertIdx number token }

/-- With a number of characters taken. -/
def skip (l : Lexer) (n : Nat) : Lexer := { l with cursor := l.cursor.skip n }

/-- With keys allowed or not. -/
def allow (l : Lexer) (keyAllowed : Bool) : Lexer := { l with keyAllowed }

/-! ## Blanks -/

/-- Moves on to the next token, from a place. After a line break a key may begin, unless brackets
are open. Where a key may begin a tab is not skipped. -/
def toTokenFrom (flow comment allowed : Bool) (m : Mark) : List Char → Bool × Cursor
  | [] => (allowed, ⟨m, []⟩)
  | '\r' :: '\n' :: rest => toTokenFrom flow false (allowed || !flow) m.stepPair rest
  | c :: rest =>
    if isBreak c then toTokenFrom flow false (allowed || !flow) (m.step c) rest
    else if comment || c == ' ' || (c == '\t' && (flow || !allowed)) then
      toTokenFrom flow comment allowed (m.step c) rest
    else if c == '#' then toTokenFrom flow true allowed (m.step c) rest
    else (allowed, ⟨m, c :: rest⟩)

/-- Moves on to the next token. -/
def toToken (l : Lexer) : Lexer :=
  let (keyAllowed, cursor) :=
    toTokenFrom (decide (0 < l.flow)) false l.keyAllowed l.cursor.mark l.cursor.rest
  { l with keyAllowed, cursor }

/-! ## Tokens -/

/-- A directive, which stands outside of every block. -/
def directive? (l : Lexer) : Option Lexer := do
  let l ← (l.unroll (-1)).dropKey?
  let cursor ← Token.readDirective l.cursor
  return { l.allow false with cursor }.emit .directive

/-- The beginning or the end of a document. -/
def document? (l : Lexer) (token : Token) : Option Lexer := do
  let l ← (l.unroll (-1)).dropKey?
  return ((l.allow false).skip 3).emit token

/-- No more brackets than this may be open. -/
def flowLimit : Nat := 255

/-- An opening bracket, which may begin a key. -/
def openBracket? (l : Lexer) (token : Token) : Option Lexer := do
  let l ← l.saveKey?
  if flowLimit ≤ l.flow then none
  else some ((({ l with
    chances := l.chance :: l.chances, chance := {}, flow := l.flow + 1 }.allow true).skip 1).emit
    token)

/-- With the innermost brackets closed, if any are open. -/
def closed (l : Lexer) : Lexer :=
  match l.flow, l.chances with
  | flow + 1, chance :: chances => { l with flow, chance, chances }
  | _, _ => l

/-- A closing bracket. -/
def closeBracket? (l : Lexer) (token : Token) : Option Lexer := do
  let l ← l.dropKey?
  return ((l.closed.allow false).skip 1).emit token

def comma? (l : Lexer) : Option Lexer := do
  let l ← l.dropKey?
  return ((l.allow true).skip 1).emit .flowEntry

/-- A dash, which stands in blocks alone. -/
def dash? (l : Lexer) : Option Lexer := do
  if 0 < l.flow || !l.keyAllowed then none
  else
    let l ← (l.roll l.mark.column l.tokens.length .blockSequence).dropKey?
    return ((l.allow true).skip 1).emit .blockEntry

/-- With a mapping begun here, outside of brackets. -/
def rollMapping? (l : Lexer) : Option Lexer :=
  if 0 < l.flow then some l
  else if !l.keyAllowed then none
  else some (l.roll l.mark.column l.tokens.length .blockMapping)

/-- A question mark. -/
def key? (l : Lexer) : Option Lexer := do
  let l ← (← l.rollMapping?).dropKey?
  return ((l.allow (l.flow == 0)).skip 1).emit .key

/-- A colon, after a key without a mark if one could have begun. -/
def value? (l : Lexer) : Option Lexer := do
  let chance := l.chance
  let l ← if chance.possible then
      let marked := { l with tokens := l.tokens.insertIdx chance.number .key }
      let rolled := marked.roll chance.mark.column chance.number .blockMapping
      some ({ rolled with chance := { chance with possible := false } }.allow false)
    else (l.rollMapping?).map fun l => l.allow (l.flow == 0)
  return (l.skip 1).emit .value

/-- Something that may be a key, or begin one. -/
def word? (l : Lexer) (read : Cursor → Option (Token × Cursor)) : Option Lexer := do
  let l ← l.saveKey?
  let (token, cursor) ← read l.cursor
  return { l.allow false with cursor }.emit token

/-- A block scalar. -/
def block? (l : Lexer) (literal : Bool) : Option Lexer := do
  let l ← l.saveKey?
  let (text, cursor) ← readBlock literal l.indent (l.cursor.skip 1)
  return { l.allow true with cursor }.emit (.scalar false text)

/-- A plain scalar. Where it ends after a line break a key may follow. -/
def plain? (l : Lexer) : Option Lexer := do
  let l ← l.saveKey?
  let (f, cursor) ←
    readPlain (decide (0 < l.flow)) (l.indent + 1) {} false l.cursor.mark l.cursor.rest
  return { l.allow f.leading with cursor }.emit (.scalar true f.result)

/-- Reads an anchor or an alias. -/
def readReference (token : String → Token) (cursor : Cursor) : Option (Token × Cursor) :=
  (Token.readName cursor).map fun (name, after) => (token name, after)

/-- Reads a scalar between quotes. -/
def readString (quote : Char) (cursor : Cursor) : Option (Token × Cursor) :=
  let start := cursor.skip 1
  (readQuoted quote {} start.mark start.rest).map fun (f, after) =>
    (.scalar false f.result, after)

/-- The token that begins with a character. -/
def token? (l : Lexer) (c : Char) (rest : List Char) : Option Lexer :=
  let flow := decide (0 < l.flow)
  match c with
  | '[' => l.openBracket? .flowSequence
  | '\x7b' => l.openBracket? .flowMapping
  | ']' => l.closeBracket? .flowSequenceEnd
  | '\x7d' => l.closeBracket? .flowMappingEnd
  | ',' => l.comma?
  | '-' => if atWordEnd rest then l.dash? else l.plain?
  | '?' => if flow || atWordEnd rest then l.key? else l.plain?
  | ':' => if flow || atWordEnd rest then l.value? else l.plain?
  | '*' => l.word? (readReference .alias)
  | '&' => l.word? (readReference .anchor)
  | '!' => l.word? fun cursor =>
    (Token.readTag cursor).map fun (tag, after) => (.tag tag, after)
  | '|' => if flow then l.plain? else l.block? true
  | '>' => if flow then l.plain? else l.block? false
  | '\'' | '"' => l.word? (readString c)
  | '%' | '@' | '\x60' => none
  | _ => l.plain?

/-- The next token; none if there can be none. -/
def next? (l : Lexer) : Option Lexer := do
  let l ← l.toToken.expire?
  let l := l.unroll l.mark.column
  match l.cursor.rest with
  | [] => (l.unroll (-1)).dropKey?
  | c :: rest =>
    if l.mark.column = 0 && c = '%' then l.directive?
    else if Cursor.isDocumentMark l.mark (c :: rest) then
      l.document? (if c = '-' then .documentStart else .documentEnd)
    else l.token? c rest

/-- All tokens from here on, if there are no more than so many. -/
def run? : Nat → Lexer → Option (List Token)
  | 0, _ => none
  | limit + 1, l => do
    let next ← l.next?
    if next.cursor.rest = [] then
      let last ← next.next?
      return last.tokens
    else run? limit next

end Lexer

/-- The tokens of a text; none if it is malformed. -/
def tokens? (text : String) : Option (List Token) :=
  let cursor := Cursor.ofText text
  Lexer.run? (cursor.rest.length + 1) { cursor }

end Fleet.Yaml
