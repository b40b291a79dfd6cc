/-!
# Shell words

Quoting a text so that a shell takes it as one word, and splitting a command into words as a shell
does: blanks separate, single quotes keep everything, double quotes keep all but four characters
after a backslash, and a `#` at the start of a word begins a comment.

Splitting is a walk over the characters with a state that says what encloses the next one.
-/

namespace Fleet

/-- A text as one shell word: between single quotes, each quote of its own taken out of them. -/
def shellQuote (s : String) : String :=
  "'" ++ String.ofList (s.toList.flatMap fun c => if c = '\'' then "'\\''".toList else [c]) ++ "'"

namespace ShellWords

/-- What encloses the next character. -/
inductive State where
  /-- Between words. -/
  | between
  /-- After a backslash between words. -/
  | escapedBetween
  /-- Inside a word, unquoted. -/
  | bare
  /-- After a backslash inside a word. -/
  | escapedBare
  /-- Between single quotes. -/
  | single
  /-- Between double quotes. -/
  | double
  /-- After a backslash between double quotes. -/
  | escapedDouble
  /-- Inside a comment. -/
  | comment
  deriving Repr, DecidableEq

/-- Whether a character separates words. -/
def isSeparator (c : Char) : Bool := c == ' ' || c == '\t' || c == '\n'

/-- Whether a backslash between double quotes takes a character's meaning away. -/
def isEscapable (c : Char) : Bool := c == '$' || c == '\x60' || c == '"' || c == '\\'

/-- Splits the rest of a command, with the characters of the current word in `word`. None when a
quote is never closed. -/
def splitFrom (state : State) (word : List Char) : List Char → Option (List (List Char))
  | [] =>
    match state with
    | .between | .comment => some []
    | .escapedBetween | .escapedBare => some [word ++ ['\\']]
    | .bare => some [word]
    | .single | .double | .escapedDouble => none
  | c :: rest =>
    match state with
    | .between =>
      if c = '\'' then splitFrom .single word rest
      else if c = '"' then splitFrom .double word rest
      else if c = '\\' then splitFrom .escapedBetween word rest
      else if isSeparator c then splitFrom .between word rest
      else if c = '#' then splitFrom .comment word rest
      else splitFrom .bare (word ++ [c]) rest
    | .escapedBetween =>
      if c = '\n' then splitFrom .between word rest else splitFrom .bare (word ++ [c]) rest
    | .bare =>
      if c = '\'' then splitFrom .single word rest
      else if c = '"' then splitFrom .double word rest
      else if c = '\\' then splitFrom .escapedBare word rest
      else if isSeparator c then (splitFrom .between [] rest).map (word :: ·)
      else splitFrom .bare (word ++ [c]) rest
    | .escapedBare =>
      if c = '\n' then splitFrom .bare word rest else splitFrom .bare (word ++ [c]) rest
    | .single =>
      if c = '\'' then splitFrom .bare word rest else splitFrom .single (word ++ [c]) rest
    | .double =>
      if c = '"' then splitFrom .bare word rest
      else if c = '\\' then splitFrom .escapedDouble word rest
      else splitFrom .double (word ++ [c]) rest
    | .escapedDouble =>
      if c = '\n' then splitFrom .double word rest
      else if isEscapable c then splitFrom .double (word ++ [c]) rest
      else splitFrom .double (word ++ ['\\', c]) rest
    | .comment =>
      if c = '\n' then splitFrom .between word rest else splitFrom .comment word rest

/-- The words of a command. None when a quote is never closed. -/
def split? (command : String) : Option (List String) :=
  (splitFrom .between [] command.toList).map (·.map String.ofList)

end ShellWords

end Fleet
