import Fleet.Utf8

/-!
# Shell commands

What a shell is told to do, as far as the clients of a run need it: simple commands with
assignments and redirections, pipelines, lists, groups, conditions and loops.

A shell deals in bytes. To keep its texts readable each byte stands as the character of that
number; `Text.ofBytes` and `Text.toBytes` go between the two.

A command inside a word stays the text that it is until the word is expanded, so words are flat.
-/

namespace Fleet.Shell

/-- A text inside a shell: its bytes, each as the character of that number. -/
abbrev Text := List Char

namespace Text

def ofBytes (bytes : Bytes) : Text := bytes.map fun b => Char.ofNat b.toNat

def toBytes (text : Text) : Bytes := text.map fun c => UInt8.ofNat c.toNat

/-- The bytes of a string as a text. -/
def ofString (s : String) : Text := ofBytes (Utf8.encode s)

end Text

/-- A piece of a word. -/
inductive Piece where
  /-- Characters that stand for themselves. -/
  | literal (text : Text) (quoted : Bool)
  /-- The value of a variable or a parameter. -/
  | value (name : Text) (quoted : Bool)
  /-- What commands say. -/
  | output (source : Text) (quoted : Bool)
  deriving Repr, DecidableEq

/-- A word: its pieces, one behind the other. -/
abbrev Word := List Piece

/-- The text of a word that consists of plain characters only. -/
def Word.plain? : Word → Option Text
  | [.literal text false] => some text
  | _ => none

/-- A word in which blanks separate nothing. -/
def Word.quote (word : Word) : Word :=
  word.map fun piece => match piece with
    | .literal text _ => .literal text true
    | .value name _ => .value name true
    | .output source _ => .output source true

/-- How a file is opened, or what stands in its place. -/
inductive Direction where
  /-- For reading. -/
  | read
  /-- For writing, from the start. -/
  | write
  /-- For writing, at the end. -/
  | append
  /-- Not at all: another descriptor is taken. -/
  | duplicate
  deriving Repr, DecidableEq

/-- The redirection of a descriptor. -/
structure Redirection where
  descriptor : Nat
  /-- How the target is opened. -/
  direction : Direction
  /-- A file, or another descriptor. -/
  target : Word
  deriving Repr, DecidableEq

inductive Command where
  /-- Nothing to do. -/
  | nothing
  /-- Assignments, a program with its arguments, and redirections. -/
  | simple (line : Nat) (assignments : List (Text × Word)) (words : List Word)
    (redirections : List Redirection)
  /-- Two commands, the second of which reads what the first one writes. -/
  | pipe (first second : Command)
  /-- A command whose status is turned round. -/
  | negate (command : Command)
  /-- The second command only if the first one succeeds. -/
  | both (first second : Command)
  /-- The second command only if the first one fails. -/
  | either (first second : Command)
  /-- One command after the other. -/
  | sequence (first second : Command)
  /-- A command that is not waited for. -/
  | background (command : Command)
  /-- A command in a shell of its own. -/
  | subshell (command : Command)
  | branch (condition yes no : Command)
  /-- A loop that goes on while its condition holds, or until it does. -/
  | loop (untilTrue : Bool) (condition body : Command)
  /-- A loop over words; over the parameters if there are none given. -/
  | each (name : Text) (items : Option (List Word)) (body : Command)
  /-- A command with redirections around it. -/
  | redirected (line : Nat) (command : Command) (redirections : List Redirection)
  deriving Repr, DecidableEq

/-- A text that is no command. -/
structure Fault where
  /-- The line on which that shows. -/
  line : Nat
  /-- What is wrong. -/
  reason : String
  deriving Repr, DecidableEq

/-- A text read as commands, each up to the end of a line: those before the first fault, and the
fault if there is one. -/
structure Script where
  commands : List Command
  /-- The fault after them. -/
  fault : Option Fault
  deriving Repr, DecidableEq

end Fleet.Shell
