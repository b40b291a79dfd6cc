import Fleet.Shell.Syntax

/-!
# Formats

What `echo` and `printf` make of their arguments. The shell has both built in, and both exist as
programs of their own; the two kinds differ in which escapes they know.

A format is first taken apart into directives. It is then gone through once for every round of
arguments, as long as there are arguments and rounds take some.
-/

namespace Fleet.Shell

/-- Who does the formatting. -/
inductive Dialect where
  /-- The shell itself. -/
  | builtin
  /-- A program of its own. -/
  | standalone
  deriving Repr, DecidableEq

namespace Format

/-! ## Escapes -/

/-- The value of an octal digit. -/
def octalDigit? (c : Char) : Option Nat :=
  if '0' ≤ c ∧ c ≤ '7' then some (c.toNat - '0'.toNat) else none

/-- The value of a decimal digit. -/
def decimalDigit? (c : Char) : Option Nat :=
  if c.isDigit then some (c.toNat - '0'.toNat) else none

/-- The value of a hexadecimal digit. -/
def hexDigit? (c : Char) : Option Nat :=
  if c.isDigit then some (c.toNat - '0'.toNat)
  else if 'a' ≤ c ∧ c ≤ 'f' then some (c.toNat - 'a'.toNat + 10)
  else if 'A' ≤ c ∧ c ≤ 'F' then some (c.toNat - 'A'.toNat + 10)
  else none

/-- Reads a number of at most so many digits: its value, whether there was a digit, and the rest. -/
def digits (digit? : Char → Option Nat) (base : Nat) : Nat → Nat → Text → Nat × Text
  | 0, value, text => (value, text)
  | _ + 1, value, [] => (value, [])
  | most + 1, value, c :: rest =>
    match digit? c with
    | some d => digits digit? base most (base * value + d) rest
    | none => (value, c :: rest)

/-- The byte of a number, as a character. -/
def byteChar (n : Nat) : Char := Char.ofNat (n % 256)

/-- What a letter stands for behind a backslash. -/
def letterEscape? : Char → Option Char
  | 'a' => some '\x07'
  | 'b' => some '\x08'
  | 'e' => some '\x1b'
  | 'f' => some '\x0c'
  | 'n' => some '\n'
  | 'r' => some '\r'
  | 't' => some '\t'
  | 'v' => some '\x0b'
  | '\\' => some '\\'
  | _ => none

/-- What stands behind a backslash. -/
inductive Escape where
  /-- Characters. -/
  | chars (text rest : Text)
  /-- The end of all output. -/
  | stop
  deriving Repr, DecidableEq

/-- Where an escape stands. -/
inductive Place where
  | format
  | argument
  deriving Repr, DecidableEq

/-- Reads what stands behind a backslash. -/
def escape (dialect : Dialect) (place : Place) : Text → Escape
  | [] => .chars ['\\'] []
  | c :: rest =>
    let keep := Escape.chars ['\\'] (c :: rest)
    match letterEscape? c with
    | some d => .chars [d] rest
    | none =>
      if c = 'c' ∧ (place = .argument ∨ dialect = .standalone) then .stop
      else if c = '"' ∧ place = .format ∧ dialect = .standalone then .chars ['"'] rest
      else if c = 'x' ∧ dialect = .standalone then
        match rest with
        | d :: _ =>
          if (hexDigit? d).isSome then
            let (value, rest) := digits hexDigit? 16 2 0 rest
            .chars [byteChar value] rest
          else keep
        | [] => keep
      else if c = '0' ∧ place = .argument then
        let (value, rest) := digits octalDigit? 8 3 0 rest
        .chars [byteChar value] rest
      else if (octalDigit? c).isSome then
        let (value, rest) := digits octalDigit? 8 3 0 (c :: rest)
        .chars [byteChar value] rest
      else keep

/-- An argument with its escapes replaced, and whether they end all output. The bound is on the
number of characters. -/
def unescape (dialect : Dialect) : Nat → Text → Text × Bool
  | 0, _ => ([], false)
  | _ + 1, [] => ([], false)
  | steps + 1, c :: rest =>
    if c = '\\' then
      match escape dialect .argument rest with
      | .stop => ([], true)
      | .chars text rest =>
        let (more, stop) := unescape dialect steps rest
        (text ++ more, stop)
    else
      let (more, stop) := unescape dialect steps rest
      (c :: more, stop)

/-! ## Echo -/

/-- Arguments with blanks between them. -/
def spaced : List Text → Text
  | [] => []
  | [text] => text
  | text :: rest => text ++ ' ' :: spaced rest

/-- Whether an argument sets options of a standalone `echo`. -/
def isEchoOption : Text → Bool
  | '-' :: c :: rest => (c :: rest).all fun d => d == 'n' || d == 'e' || d == 'E'
  | _ => false

/-- The arguments of a standalone `echo`: whether a newline ends the output, whether escapes count,
and what is to be said. -/
def echoOptions (newline escapes : Bool) : List Text → Bool × Bool × List Text
  | [] => (newline, escapes, [])
  | arg :: rest =>
    if isEchoOption arg then
      echoOptions (newline && !arg.contains 'n')
        (match arg.reverse.find? fun c => c == 'e' || c == 'E' with
          | some c => c == 'e'
          | none => escapes) rest
    else (newline, escapes, arg :: rest)

/-- What `echo` says. -/
def echo (dialect : Dialect) (args : List Text) : Text :=
  let (newline, escapes, args) := match dialect with
    | .builtin =>
      match args with
      | ['-', 'n'] :: rest => (false, true, rest)
      | _ => (true, true, args)
    | .standalone => echoOptions true false args
  let text := spaced args
  let (text, stop) := if escapes then unescape dialect (text.length + 1) text else (text, false)
  if newline && !stop then text ++ ['\n'] else text

/-! ## Directives -/

/-- A width or a precision. -/
inductive Size where
  /-- Written down. -/
  | fixed (n : Nat)
  /-- Taken from the arguments. -/
  | taken
  deriving Repr, DecidableEq

/-- The directive to show an argument. -/
structure Conversion where
  /-- Characters that change how it is shown. -/
  flags : Text
  /-- How wide it is at least. -/
  width : Option Size
  /-- How long a text is at most, or how many digits a number has at least. -/
  precision : Option Size
  /-- As what it is shown. -/
  letter : Char
  deriving Repr, DecidableEq

/-- A directive of a format. -/
inductive Directive where
  /-- Characters that stand for themselves. -/
  | text (text : Text)
  /-- Show an argument. -/
  | convert (conversion : Conversion)
  /-- End all output. -/
  | stop
  /-- This is no directive. -/
  | invalid (text : Text)
  deriving Repr, DecidableEq

/-- Reads a width or a precision. -/
def size (text : Text) : Option Size × Text :=
  match text with
  | '*' :: rest => (some .taken, rest)
  | _ =>
    let number := text.takeWhile Char.isDigit
    if number.isEmpty then (none, text)
    else
      (some (.fixed (digits decimalDigit? 10 number.length 0 number).1), text.drop number.length)

/-- Whether a letter says as what an argument is shown. -/
def isConversion (c : Char) : Bool :=
  c == 's' || c == 'b' || c == 'c' || c == 'd' || c == 'i' || c == 'u' || c == 'o' || c == 'x'
    || c == 'X'

/-- Reads what stands behind a percent sign: a directive and the rest. -/
def conversion (text : Text) : Directive × Text :=
  let isFlag := fun c => c == '-' || c == '0' || c == '+' || c == ' ' || c == '#'
  let flags := text.takeWhile isFlag
  let (width, rest) := size (text.drop flags.length)
  let (precision, rest) := match rest with
    | '.' :: rest =>
      match size rest with
      | (none, rest) => (some (Size.fixed 0), rest)
      | found => found
    | _ => (none, rest)
  let read := text.take (text.length - rest.length)
  match rest with
  | [] => (.invalid ('%' :: read), [])
  | c :: rest =>
    if isConversion c then (.convert ⟨flags, width, precision, c⟩, rest)
    else (.invalid ('%' :: read ++ [c]), rest)

/-- Takes a format apart into at most so many directives. -/
def directives (dialect : Dialect) : Nat → Text → List Directive
  | 0, _ => []
  | _ + 1, [] => []
  | steps + 1, '%' :: '%' :: rest => .text ['%'] :: directives dialect steps rest
  | steps + 1, '%' :: rest =>
    let (directive, rest) := conversion rest
    directive :: directives dialect steps rest
  | steps + 1, '\\' :: rest =>
    match escape dialect .format rest with
    | .stop => [.stop]
    | .chars text rest => .text text :: directives dialect steps rest
  | steps + 1, c :: rest =>
    let isPlain := fun d => d != '%' && d != '\\'
    .text (c :: rest.takeWhile isPlain) :: directives dialect steps (rest.dropWhile isPlain)

/-! ## Showing arguments -/

/-- What formatting gives. -/
structure Output where
  /-- What is said. -/
  text : Text := []
  /-- What there is to complain of. -/
  faults : List Text := []
  status : Nat := 0
  stopped : Bool := false
  deriving Repr, DecidableEq

namespace Output

/-- The output with more said. -/
def say (output : Output) (text : Text) : Output := { output with text := output.text ++ text }

/-- The output with something to complain of. -/
def complain (output : Output) (fault : Text) (status : Nat) : Output :=
  { output with faults := output.faults ++ [fault], status }

end Output

/-- The number at the front of a text: its sign and value, whether there is one, and the rest. -/
def number (text : Text) : Int × Bool × Text :=
  let (negative, digitsText) := match text.dropWhile fun c => c == ' ' || c == '\t' with
    | '-' :: rest => (true, rest)
    | '+' :: rest => (false, rest)
    | rest => (false, rest)
  let (value, rest) : Nat × Text := match digitsText with
    | '0' :: 'x' :: rest | '0' :: 'X' :: rest => digits hexDigit? 16 rest.length 0 rest
    | '0' :: rest => digits octalDigit? 8 rest.length 0 rest
    | rest => digits decimalDigit? 10 rest.length 0 rest
  (if negative then -(value : Int) else value, rest.length < digitsText.length, rest)

/-- The complaint about an argument that is no number, or only begins as one. -/
def numberFault (dialect : Dialect) (arg : Text) (begins : Bool) : Text :=
  match dialect, begins with
  | .builtin, false => arg ++ ": expected numeric value".toList
  | .builtin, true => arg ++ ": not completely converted".toList
  | .standalone, false => '\'' :: arg ++ "': expected a numeric value".toList
  | .standalone, true => '\'' :: arg ++ "': value not completely converted".toList

/-- Reads an argument as a number. -/
def readNumber (dialect : Dialect) (arg : Option Text) (output : Output) : Int × Output :=
  match arg with
  | none | some [] => (0, output)
  | some ('\'' :: c :: _) | some ('"' :: c :: _) => (c.toNat, output)
  | some text =>
    match number text with
    | (value, true, []) => (value, output)
    | (value, found, _) => (value, output.complain (numberFault dialect text found) 1)

/-- The digits of a number. -/
def showDigits (letter : Char) (n : Nat) : Text :=
  if letter = 'o' then Nat.toDigits 8 n
  else if letter = 'x' then Nat.toDigits 16 n
  else if letter = 'X' then (Nat.toDigits 16 n).map Char.toUpper
  else Nat.toDigits 10 n

/-- A number with its sign apart. -/
def showNumber (c : Conversion) (value : Int) : Text × Text :=
  if c.letter = 'd' ∨ c.letter = 'i' then
    (if value < 0 then ['-'] else if c.flags.contains '+' then ['+']
      else if c.flags.contains ' ' then [' '] else [], showDigits 'd' value.natAbs)
  else
    let n := (value % (Nat.pow 2 64 : Nat)).toNat
    (if n ≠ 0 ∧ c.flags.contains '#' then
      (if c.letter = 'o' then ['0'] else if c.letter = 'u' then [] else ['0', c.letter]) else [],
      showDigits c.letter n)

/-- A text brought to a width. -/
def pad (c : Conversion) (width : Nat) (front text : Text) (zeros : Bool) : Text :=
  let missing := width - (front.length + text.length)
  if c.flags.contains '-' then front ++ text ++ List.replicate missing ' '
  else if zeros && c.flags.contains '0' then front ++ List.replicate missing '0' ++ text
  else List.replicate missing ' ' ++ front ++ text

/-- A width or precision, with the arguments that are left. -/
def takeSize (size : Option Size) (args : List Text) : Option Nat × List Text :=
  match size with
  | none => (none, args)
  | some (.fixed n) => (some n, args)
  | some .taken => (some ((args.head?.map fun a => (number a).1.toNat).getD 0), args.tail)

/-- Shows an argument: the output, and the arguments that are left. -/
def convert (dialect : Dialect) (c : Conversion) (args : List Text) (output : Output) :
    Output × List Text :=
  let (width, args) := takeSize c.width args
  let (precision, args) := takeSize c.precision args
  let width := width.getD 0
  let arg := args.head?.getD []
  if c.letter = 's' then
    let text := match precision with
      | some n => arg.take n
      | none => arg
    (output.say (pad c width [] text false), args.tail)
  else if c.letter = 'b' then
    let (text, stop) := unescape dialect (arg.length + 1) arg
    let text := match precision with
      | some n => text.take n
      | none => text
    ({ output.say (pad c width [] text false) with stopped := stop }, args.tail)
  else if c.letter = 'c' then
    (output.say (pad c width [] [arg.head?.getD '\x00'] false), args.tail)
  else
    let (value, output) := readNumber dialect args.head? output
    let (front, text) := showNumber c value
    let text := match precision with
      | some n => List.replicate (n - text.length) '0' ++ text
      | none => text
    (output.say (pad c width front text precision.isNone), args.tail)

/-- Goes through the directives once: the output, and the arguments that are left. -/
def round (dialect : Dialect) (output : Output) (args : List Text) :
    List Directive → Output × List Text
  | [] => (output, args)
  | .text text :: rest => round dialect (output.say text) args rest
  | .stop :: _ => ({ output with stopped := true }, [])
  | .invalid text :: _ =>
    let output := match dialect with
      | .builtin =>
        output.complain (if text = ['%'] then "missing format character".toList
          else text ++ ": invalid directive".toList) 2
      | .standalone => output.complain (text ++ ": invalid conversion specification".toList) 1
    ({ output with stopped := true }, [])
  | .convert c :: rest =>
    let (output, args) := convert dialect c args output
    if output.stopped then (output, []) else round dialect output args rest

/-- Goes through the directives until no arguments are left, or a round takes none. -/
def rounds (dialect : Dialect) (directives : List Directive) :
    Nat → Output → List Text → Output
  | 0, output, _ => output
  | more + 1, output, args =>
    let (output, left) := round dialect output args directives
    if output.stopped || left.isEmpty then output
    else if left.length < args.length then rounds dialect directives more output left
    else match dialect, left with
      | .standalone, arg :: _ =>
        output.complain ("warning: ignoring excess arguments, starting with '".toList
          ++ arg ++ ['\'']) 0
      | _, _ => output

/-- What `printf` says about a format and arguments. -/
def printf (dialect : Dialect) (format : Text) (args : List Text) : Output :=
  rounds dialect (directives dialect (format.length + 1) format) (args.length + 1) {} args

end Format

end Fleet.Shell
