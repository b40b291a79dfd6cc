import Fleet.Shell.Syntax

/-!
# Shell tokens

A text is cut into words, operators and newlines. Quotes, parameters and commands inside a word are
found on the way; a quote that is never closed ends the tokens with a fault.

Every function that may call itself on a rest of the text takes a bound on how often.
-/

namespace Fleet.Shell

/-- Operators between words. -/
inductive Operator where
  | semicolon
  | doubleSemicolon
  | ampersand
  | doubleAmpersand
  | bar
  | doubleBar
  | openParenthesis
  | closeParenthesis
  deriving Repr, DecidableEq

/-- What a text is cut into. -/
inductive TokenKind where
  | word (word : Word)
  | operator (operator : Operator)
  /-- The beginning of a redirection; the target follows. -/
  | redirection (descriptor : Nat) (direction : Direction)
  /-- The end of a line. -/
  | newline
  /-- The end of the text. -/
  | finish
  /-- The text cannot be cut any further. -/
  | fault (reason : String)
  deriving Repr, DecidableEq

/-- A token and the line on which it ends. -/
structure Token where
  line : Nat
  kind : TokenKind
  deriving Repr, DecidableEq

namespace Lexer

/-- Whether a character ends an unquoted word. -/
def endsWord (c : Char) : Bool :=
  c == ' ' || c == '\t' || c == '\n' || c == ';' || c == '&' || c == '|' || c == '(' || c == ')'
    || c == '<' || c == '>'

/-- Whether a character may begin a name. -/
def beginsName (c : Char) : Bool := c.isAlpha || c == '_'

/-- Whether a character may stand inside a name. -/
def isNameChar (c : Char) : Bool := c.isAlphanum || c == '_'

/-- Whether a character is the name of a parameter by itself. -/
def isSpecial (c : Char) : Bool :=
  c.isDigit || c == '?' || c == '$' || c == '#' || c == '@' || c == '*' || c == '!' || c == '-'

/-- Whether a backslash between double quotes takes a character's meaning away. -/
def isEscapable (c : Char) : Bool := c == '$' || c == '\x60' || c == '"' || c == '\\'

/-- Splits behind the next character of a kind. -/
def upTo (stop : Char) : Text → Option (Text × Text)
  | [] => none
  | c :: rest =>
    if c = stop then some ([], rest)
    else (upTo stop rest).map fun (before, after) => (c :: before, after)

/-- What encloses a character inside a command in parentheses. -/
inductive Enclosure where
  /-- Nothing. -/
  | bare
  /-- A backslash stands before it. -/
  | escaped
  /-- Single quotes. -/
  | single
  /-- Double quotes. -/
  | double
  /-- Double quotes, and a backslash before it. -/
  | escapedDouble
  deriving Repr, DecidableEq

/-- Splits behind the parenthesis that closes a command, where so many more are open inside it. -/
def closing (depth : Nat) (enclosure : Enclosure) : Text → Option (Text × Text)
  | [] => none
  | c :: rest =>
    let keep := fun (depth : Nat) (enclosure : Enclosure) =>
      (closing depth enclosure rest).map fun (before, after) => (c :: before, after)
    match enclosure with
    | .escaped => keep depth .bare
    | .single => keep depth (if c = '\'' then .bare else .single)
    | .escapedDouble => keep depth .double
    | .double =>
      keep depth (if c = '"' then .bare else if c = '\\' then .escapedDouble else .double)
    | .bare =>
      if c = ')' then
        match depth with
        | 0 => some ([], rest)
        | depth + 1 => keep depth .bare
      else if c = '(' then keep (depth + 1) .bare
      else keep depth
        (if c = '\\' then .escaped else if c = '\'' then .single else if c = '"' then .double
          else .bare)

/-- Splits behind the quote that closes a command in backward quotes. Backslashes before such
quotes, dollar signs and backslashes are taken off. -/
def backquoted : Text → Option (Text × Text)
  | [] => none
  | '\x60' :: rest => some ([], rest)
  | '\\' :: c :: rest =>
    (backquoted rest).map fun (before, after) =>
      (if c = '\x60' || c = '$' || c = '\\' then c :: before else '\\' :: c :: before, after)
  | c :: rest => (backquoted rest).map fun (before, after) => (c :: before, after)

/-- Whether a text is the name of a variable or a parameter. -/
def isParameter : Text → Bool
  | [] => false
  | [c] => isSpecial c || beginsName c
  | c :: rest => (beginsName c && rest.all isNameChar) || (c :: rest).all Char.isDigit

/-- Reads what follows a dollar sign: a piece and the rest. -/
def dollar (quoted : Bool) (text : Text) : Except String (Piece × Text) :=
  match text with
  | '(' :: rest =>
    match closing 0 .bare rest with
    | some (source, rest) => .ok (.output source quoted, rest)
    | none => .error "end of file unexpected (expecting \")\")"
  | '\x7b' :: rest =>
    match upTo '\x7d' rest with
    | some (name, rest) => .ok (.value name quoted, rest)
    | none => .error "Missing '\x7d'"
  | c :: rest =>
    if isSpecial c then .ok (.value [c] quoted, rest)
    else if beginsName c then
      .ok (.value (text.takeWhile isNameChar) quoted, text.dropWhile isNameChar)
    else .ok (.literal ['$'] quoted, text)
  | [] => .ok (.literal ['$'] quoted, [])

/-- Adds characters that stand for themselves to the pieces of a word, the last of which comes
first. -/
def push (quoted : Bool) (added : Text) : List Piece → List Piece
  | .literal text q :: pieces =>
    if q = quoted then .literal (text ++ added) q :: pieces
    else .literal added quoted :: .literal text q :: pieces
  | pieces => .literal added quoted :: pieces

/-- Whether a character stands for itself inside or outside double quotes. -/
def isPlain (inside : Bool) (c : Char) : Bool :=
  c != '$' && c != '\x60' && c != '"' && c != '\\'
    && (inside || (c != '\'' && !endsWord c))

/-- The words for a quote that is never closed. -/
def openQuote : String := "Unterminated quoted string"

/-- Reads a word from inside or outside double quotes: the pieces, the last of which comes first,
and the rest. -/
def pieces : Nat → Bool → List Piece → Text → Except String (List Piece × Text)
  | 0, _, _, _ => .error openQuote
  | _ + 1, inside, read, [] => if inside then .error openQuote else .ok (read, [])
  | steps + 1, inside, read, c :: rest =>
    if c = '$' then
      match dollar inside rest with
      | .ok (piece, rest) => pieces steps inside (piece :: read) rest
      | .error reason => .error reason
    else if c = '\x60' then
      match backquoted rest with
      | some (source, rest) => pieces steps inside (.output source inside :: read) rest
      | none => .error "EOF in backquote substitution"
    else if c = '"' then
      if inside then pieces steps false read rest
      else pieces steps true (.literal [] true :: read) rest
    else if c = '\\' then
      match rest with
      | [] => if inside then .error openQuote else .ok (push true ['\\'] read, [])
      | d :: rest =>
        if d = '\n' then pieces steps inside read rest
        else if inside && !isEscapable d then pieces steps inside (push true ['\\', d] read) rest
        else pieces steps inside (push true [d] read) rest
    else if isPlain inside c then
      pieces steps inside (push inside (c :: rest.takeWhile (isPlain inside)) read)
        (rest.dropWhile (isPlain inside))
    else if c = '\'' then
      match upTo '\'' rest with
      | some (text, rest) => pieces steps inside (.literal text true :: read) rest
      | none => .error openQuote
    else .ok (read, c :: rest)

/-- Whether a redirection follows a number that is a descriptor. -/
def descriptor? (text : Text) : Option (Nat × Text) :=
  match text with
  | c :: d :: rest =>
    if c.isDigit && (d = '<' || d = '>') then some (c.toNat - '0'.toNat, d :: rest) else none
  | _ => none

/-- Reads the sign of a redirection. -/
def redirection? (descriptor : Option Nat) : Text → Option (TokenKind × Text)
  | '<' :: '&' :: rest => some (.redirection (descriptor.getD 0) .duplicate, rest)
  | '<' :: rest => some (.redirection (descriptor.getD 0) .read, rest)
  | '>' :: '&' :: rest => some (.redirection (descriptor.getD 1) .duplicate, rest)
  | '>' :: '>' :: rest => some (.redirection (descriptor.getD 1) .append, rest)
  | '>' :: '|' :: rest => some (.redirection (descriptor.getD 1) .write, rest)
  | '>' :: rest => some (.redirection (descriptor.getD 1) .write, rest)
  | _ => none

/-- Reads an operator. -/
def operator? : Text → Option (Operator × Text)
  | ';' :: ';' :: rest => some (.doubleSemicolon, rest)
  | ';' :: rest => some (.semicolon, rest)
  | '&' :: '&' :: rest => some (.doubleAmpersand, rest)
  | '&' :: rest => some (.ampersand, rest)
  | '|' :: '|' :: rest => some (.doubleBar, rest)
  | '|' :: rest => some (.bar, rest)
  | '(' :: rest => some (.openParenthesis, rest)
  | ')' :: rest => some (.closeParenthesis, rest)
  | _ => none

/-- Reads what is neither a blank nor a comment: a token and the rest. -/
def token (text : Text) : TokenKind × Text :=
  let numbered := (descriptor? text).bind fun (n, rest) => redirection? (some n) rest
  match numbered.or (redirection? none text), operator? text with
  | some found, _ => found
  | none, some (operator, rest) => (.operator operator, rest)
  | none, none =>
    match pieces (text.length + 1) false [] text with
    | .ok (read, rest) => (.word read.reverse, rest)
    | .error reason => (.fault reason, [])

/-- How many lines end between a text and a rest of it. -/
def linesBetween (text rest : Text) : Nat := text.count '\n' - rest.count '\n'

/-- Cuts a text into at most so many tokens, from a line on. -/
def tokens : Nat → Nat → Text → List Token
  | 0, line, _ => [⟨line, .finish⟩]
  | _ + 1, line, [] => [⟨line, .finish⟩]
  | steps + 1, line, c :: rest =>
    if c = ' ' || c = '\t' then tokens steps line rest
    else if c = '\n' then ⟨line, .newline⟩ :: tokens steps (line + 1) rest
    else if c = '#' then tokens steps line (rest.dropWhile (· ≠ '\n'))
    else if c = '\\' && rest.head? = some '\n' then tokens steps (line + 1) rest.tail
    else match token (c :: rest) with
      | (.fault reason, _) => [⟨line, .fault reason⟩]
      | (kind, after) =>
        let line := line + linesBetween (c :: rest) after
        ⟨line, kind⟩ :: tokens steps line after

/-- Cuts a text into tokens. -/
def run (text : Text) : List Token := tokens (text.length + 1) 1 text

end Lexer

end Fleet.Shell
