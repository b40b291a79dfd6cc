import Fleet.Shell.Format
import Fleet.Shell.Machine

/-!
# Programs

The programs that a shell may start besides shells: those that pass text on, count it or change it,
and a few that only print or wait. Each complains under the name by which it was started.

Where a program needs more input than there is so far, it passes on what it can and stops.
-/

namespace Fleet.Shell

namespace Tools

/-- The words for a fault of the system. -/
def reason (e : SystemError) : Text := e.description.toList

/-- The machine after a program complained. -/
def complain (m : Machine) (text : Text) : Machine :=
  m.complain (m.self.name ++ ": ".toList ++ text)

/-- The machine after a program complained about how it was started. -/
def misuse (m : Machine) (text : Text) : Flow × Machine :=
  (.status 1, (complain m text).complain
    ("Try '".toList ++ m.self.name ++ " --help' for more information.".toList))

/-! ## Reading -/

/-- What a program has to read. -/
inductive Content where
  /-- A text that is complete. -/
  | whole (text : Text)
  /-- A text that may go on. -/
  | open (text : Text)
  /-- Nothing can be read. -/
  | fault (reason : Text)
  /-- Zero bytes without end. -/
  | endless
  deriving Repr, DecidableEq

/-- Reads the input. -/
def input (m : Machine) : Content × Machine :=
  match m.readAll 0 with
  | (.all text, m) => (.whole text, m)
  | (.open text, m) => (.open text, m)
  | (.closed, m) => (.fault "Bad file descriptor".toList, m)
  | (.endless, m) => (.endless, m)

/-- Reads a file; a dash stands for the input. -/
def content (file : Text) (m : Machine) : Content × Machine :=
  if file = ['-'] ∨ Machine.descriptorOf? file = some 0 then input m
  else match m.openToRead file with
    | .ok (.source unread _) => (.whole unread, m)
    | .ok .zeros => (.endless, m)
    | .ok _ => (.whole [], m)
    | .error e => (.fault (reason e), m)

/-- Reads a file, or the input where none is named. -/
def contentOf (files : List Text) (m : Machine) : Text × Content × Machine :=
  match files with
  | [] => (['-'], input m)
  | file :: _ => (file, content file m)

/-! ## Passing text on -/

/-- Passes the content of files on. -/
def catFiles (code : Nat) : List Text → Machine → Flow × Machine
  | [], m => (.status code, m)
  | file :: rest, m =>
    match content file m with
    | (.whole text, m) => catFiles code rest (m.write 1 text)
    | (.open text, m) => (.blocked, m.write 1 text)
    | (.fault reason, m) =>
      let m := complain m (file ++ ": ".toList ++ reason)
      catFiles 1 rest
        (if file = ['-'] then complain m ("closing standard input: ".toList ++ reason) else m)
    | (.endless, m) => (.exhausted, m)

/-- Passes files or the input on. -/
def cat : Program := fun args m =>
  let files := args.filter fun arg => arg ≠ ['-', 'u'] ∧ arg ≠ ['-', '-']
  match files.find? fun arg => arg.length > 1 ∧ arg.head? = some '-' with
  | some arg => misuse m ("invalid option -- '".toList ++ (arg.drop 1).take 1 ++ ['\''])
  | none => catFiles 0 (if files.isEmpty then [['-']] else files) m

/-- Writes a text to files. -/
def writeFiles (atEnd : Bool) (text : Text) (code : Nat) :
    List Text → Machine → Nat × Machine
  | [], m => (code, m)
  | file :: rest, m =>
    match m.openToWrite file atEnd with
    | .error e => writeFiles atEnd text 1 rest (complain m (file ++ ": ".toList ++ reason e))
    | .ok (channel, opened) =>
      let (n, opened) := opened.newChannel channel
      let m := m.resume ((opened.connect 3 n).write 3 text)
      writeFiles atEnd text code rest m

/-- Passes the input on, and to files. -/
def tee : Program := fun args m =>
  let atEnd := args.contains ['-', 'a']
  let files := args.filter (· ≠ ['-', 'a'])
  match input m with
  | (.whole text, m) =>
    let (code, m) := writeFiles atEnd text 0 files (m.write 1 text)
    (.status code, m)
  | (.open text, m) => (.blocked, (writeFiles atEnd text 0 files (m.write 1 text)).2)
  | (.fault reason, m) => (.status 1, complain m ("standard input: ".toList ++ reason))
  | (.endless, m) => (.exhausted, m)

/-! ## Parts of text -/

/-- What is counted. -/
inductive Measure where
  | lines
  | bytes
  deriving Repr, DecidableEq

/-- Reads how much is wanted, and of what files. -/
def amount (measure : Measure) (most : Text) : List Text → Measure × Text × List Text
  | ['-', 'n'] :: n :: rest => amount .lines n rest
  | ['-', 'c'] :: n :: rest => amount .bytes n rest
  | ('-' :: 'n' :: n) :: rest => amount .lines n rest
  | ('-' :: 'c' :: n) :: rest => amount .bytes n rest
  | ('-' :: d :: n) :: rest =>
    if d.isDigit then amount .lines (d :: n) rest else (measure, most, ('-' :: d :: n) :: rest)
  | files => (measure, most, files)

/-- Reads a number. -/
def number? (text : Text) : Option Nat :=
  if text.isEmpty || !text.all Char.isDigit then none
  else some (text.foldl (fun n c => 10 * n + (c.toNat - '0'.toNat)) 0)

/-- The first lines of a text, and how many there are. -/
def firstLines : Nat → Text → Text × Nat
  | _, [] => ([], 0)
  | 0, _ => ([], 0)
  | n + 1, c :: rest =>
    if c = '\n' then
      let (more, count) := firstLines n rest
      (c :: more, count + 1)
    else
      let (more, count) := firstLines (n + 1) rest
      (c :: more, count)

/-- Splits a text into lines, each with its newline. -/
def linesOf : Text → List Text
  | [] => []
  | c :: rest =>
    if c = '\n' then [c] :: linesOf rest
    else match linesOf rest with
      | [] => [[c]]
      | line :: lines => (c :: line) :: lines

/-- Prints the beginning of a file or the input. -/
def head : Program := fun args m =>
  let (measure, most, files) := amount .lines ['1', '0'] args
  match number? most with
  | none => (.status 1, complain m ("invalid number of ".toList
      ++ (if measure = .lines then "lines".toList else "bytes".toList)
      ++ ": '".toList ++ most ++ ['\'']))
  | some n =>
    let taken := fun (text : Text) => match measure with
      | .bytes => (text.take n, decide (n ≤ text.length))
      | .lines =>
        let (front, count) := firstLines n text
        (front, decide (n ≤ count))
    match contentOf files m with
    | (_, .whole text, m) => (.status 0, m.write 1 (taken text).1)
    | (_, .open text, m) =>
      let (front, enough) := taken text
      (if enough then .status 0 else .blocked, m.write 1 front)
    | (file, .fault reason, m) => (.status 1, complain m
        ("cannot open '".toList ++ file ++ "' for reading: ".toList ++ reason))
    | (_, .endless, m) =>
      match measure with
      | .bytes => (.status 0, m.write 1 (List.replicate n '\x00'))
      | .lines => (.exhausted, m)

/-- Prints the end of a file or the input. -/
def tail : Program := fun args m =>
  let (measure, most, files) := amount .lines ['1', '0'] args
  let (fromStart, digits) := match most with
    | '+' :: rest => (true, rest)
    | rest => (false, rest)
  match number? digits with
  | none => (.status 1, complain m ("invalid number of ".toList
      ++ (if measure = .lines then "lines".toList else "bytes".toList)
      ++ ": '".toList ++ most ++ ['\'']))
  | some n =>
    let taken := fun (text : Text) => match measure with
      | .bytes => if fromStart then text.drop (n - 1) else text.drop (text.length - n)
      | .lines =>
        let lines := linesOf text
        (if fromStart then lines.drop (n - 1) else lines.drop (lines.length - n)).flatten
    match contentOf files m with
    | (_, .whole text, m) => (.status 0, m.write 1 (taken text))
    | (_, .open _, m) => (.blocked, m)
    | (file, .fault reason, m) => (.status 1, complain m
        ("cannot open '".toList ++ file ++ "' for reading: ".toList ++ reason))
    | (_, .endless, m) => (.exhausted, m)

/-! ## Counting -/

/-- Whether a character separates words. -/
def isBlank (c : Char) : Bool := c == ' ' || ('\t' ≤ c && c ≤ '\r')

/-- How many words a text has, after one that is still going on or not. -/
def countWords (inside : Bool) : Text → Nat
  | [] => 0
  | c :: rest =>
    if isBlank c then countWords false rest
    else (if inside then 0 else 1) + countWords true rest

/-- A number in a column. -/
def column (width n : Nat) : Text :=
  let digits := Nat.toDigits 10 n
  List.replicate (width - digits.length) ' ' ++ digits

/-- Counts the lines, words and bytes of a file or the input. -/
def wc : Program := fun args m =>
  let flags := (args.filter fun arg => arg.length > 1 ∧ arg.head? = some '-').flatMap List.tail
  let files := args.filter fun arg => arg.length ≤ 1 ∨ arg.head? ≠ some '-'
  let wants := fun c => flags.isEmpty || flags.contains c
  match contentOf files m with
  | (file, .whole text, m) =>
    let counts :=
      (if wants 'l' then [text.count '\n'] else [])
      ++ (if wants 'w' then [countWords false text] else [])
      ++ (if wants 'c' || flags.contains 'm' then [text.length] else [])
    let width :=
      if counts.length ≤ 1 then 1
      else if files.isEmpty then 7
      else (Nat.toDigits 10 text.length).length
    let label := if files.isEmpty then [] else [file]
    (.status 0, m.write 1 (Format.spaced (counts.map (column width) ++ label) ++ ['\n']))
  | (_, .open _, m) => (.blocked, m)
  | (file, .fault reason, m) => (.status 1, complain m (file ++ ": ".toList ++ reason))
  | (_, .endless, m) => (.exhausted, m)

/-! ## Changing characters -/

/-- The characters of a class. -/
def classChars : List (String × (Char → Bool)) :=
  [("[:upper:]", Char.isUpper), ("[:lower:]", Char.isLower), ("[:digit:]", Char.isDigit),
    ("[:alpha:]", Char.isAlpha), ("[:alnum:]", Char.isAlphanum), ("[:space:]", isBlank),
    ("[:blank:]", fun c => c == ' ' || c == '\t'),
    ("[:cntrl:]", fun c => c.toNat < 32 || c.toNat == 127),
    ("[:print:]", fun c => 32 ≤ c.toNat && c.toNat < 127),
    ("[:punct:]", fun c => 32 < c.toNat && c.toNat < 127 && !c.isAlphanum)]

/-- All characters that are bytes. -/
def allChars : Text := (List.range 256).map Char.ofNat

/-- Reads one character of a set. -/
def setChar : Text → Option (Char × Text)
  | [] => none
  | '\\' :: rest =>
    match Format.escape .builtin .format rest with
    | .chars [c] rest => some (c, rest)
    | _ => some ('\\', rest)
  | c :: rest => some (c, rest)

/-- The characters of a set, with at most so many items. -/
def setChars : Nat → Text → Text
  | 0, _ => []
  | _ + 1, [] => []
  | items + 1, text =>
    match classChars.find? fun entry => entry.1.toList.isPrefixOf text with
    | some (name, belongs) =>
      allChars.filter belongs ++ setChars items (text.drop name.length)
    | none =>
      match setChar text with
      | none => []
      | some (first, '-' :: rest) =>
        match setChar rest with
        | some (last, rest) =>
          (allChars.filter fun c => first ≤ c && c ≤ last) ++ setChars items rest
        | none => [first, '-']
      | some (first, rest) => first :: setChars items rest

/-- Leaves only one of equal characters that follow each other, if they belong to a set. -/
def squeeze (set : Text) : Text → Text
  | [] => []
  | [c] => [c]
  | c :: d :: rest =>
    if c = d ∧ set.contains c then squeeze set (d :: rest) else c :: squeeze set (d :: rest)

/-- What a character becomes when one set is replaced by another. -/
def replaceChar (set new : Text) (c : Char) : Char :=
  match set.idxOf? c with
  | some i => (new[i]?.or new.getLast?).getD c
  | none => c

/-- Replaces or deletes characters of the input. -/
def tr : Program := fun args m =>
  let flags := (args.takeWhile fun arg => arg.length > 1 ∧ arg.head? = some '-').flatMap List.tail
  let sets := args.dropWhile fun arg => arg.length > 1 ∧ arg.head? = some '-'
  let expand := fun (set : Text) => setChars (set.length + 1) set
  let first :=
    let set := expand (sets.head?.getD [])
    if flags.contains 'c' || flags.contains 'C' then allChars.filter fun c => !set.contains c
    else set
  let second := sets[1]?.map expand
  let change : Option (Text → Text) :=
    if flags.contains 'd' then
      some fun text =>
        let left := text.filter fun c => !first.contains c
        if flags.contains 's' then squeeze (second.getD []) left else left
    else match second with
      | some new =>
        some fun text =>
          let replaced := text.map (replaceChar first new)
          if flags.contains 's' then squeeze new replaced else replaced
      | none => if flags.contains 's' then some (squeeze first) else none
  match change with
  | none =>
    misuse m (if sets.isEmpty then "missing operand".toList
      else "missing operand after '".toList ++ sets.head?.getD [] ++ ['\''])
  | some change =>
    match input m with
    | (.whole text, m) => (.status 0, m.write 1 (change text))
    | (.open _, m) => (.blocked, m)
    | (.fault reason, m) => (.status 1, complain m ("read error: ".toList ++ reason))
    | (.endless, m) => (.exhausted, m)

/-! ## Printing and waiting -/

/-- Prints its arguments. -/
def echo (dialect : Dialect) : Program := fun args m =>
  (.status 0, m.write 1 (Format.echo dialect args))

/-- Prints a line for each number from one to another. -/
def seq : Program := fun args m =>
  let value := fun (text : Text) => (Format.number text).1
  match args.find? fun arg => (Format.number arg).2.2 ≠ [] ∨ arg = [] with
  | some arg =>
    misuse m ("invalid floating point argument: '".toList ++ arg ++ ['\''])
  | none =>
    let count := fun (first step last : Int) =>
      if step = 0 ∨ (0 < step ∧ last < first) ∨ (step < 0 ∧ first < last) then 0
      else ((last - first) / step).toNat + 1
    let print := fun (first step last : Int) =>
      (Flow.status 0, m.write 1 ((List.range (count first step last)).flatMap fun (i : Nat) =>
        (toString (first + step * i)).toList ++ ['\n']))
    match args with
    | [] => misuse m "missing operand".toList
    | [last] => print 1 1 (value last)
    | [first, last] => print (value first) 1 (value last)
    | first :: step :: last :: _ => print (value first) (value step) (value last)

/-- Reads a duration: a decimal number of seconds, or of what a letter at the end says. -/
def duration? (text : Text) : Option Time :=
  let whole := text.takeWhile Char.isDigit
  let rest := text.drop whole.length
  let (part, rest) := match rest with
    | '.' :: rest => (rest.takeWhile Char.isDigit, rest.dropWhile Char.isDigit)
    | _ => ([], rest)
  let unit := match rest with
    | [] | ['s'] => some 1
    | ['m'] => some 60
    | ['h'] => some 3600
    | ['d'] => some 86400
    | _ => none
  if whole.isEmpty && part.isEmpty then none
  else unit.map fun unit =>
    let digits := (part ++ List.replicate 9 '0').take 9
    unit * ((number? whole).getD 0 * Time.second + (number? digits).getD 0)

/-- Waits. -/
def sleep : Program := fun args m =>
  match args.find? fun arg => (duration? arg).isNone with
  | some arg => misuse m ("invalid time interval '".toList ++ arg ++ ['\''])
  | none =>
    if args.isEmpty then misuse m "missing operand".toList
    else (.status 0, m.wait ((args.filterMap duration?).foldl (· + ·) 0))

/-- Prints its arguments as a format says. -/
def printf : Program := fun args m =>
  let args := if args.head? = some ['-', '-'] then args.tail else args
  match args with
  | [] => misuse m "missing operand".toList
  | format :: args =>
    let output := Format.printf .standalone format args
    (.status output.status, output.faults.foldl complain (m.write 1 output.text))

/-- Prints what it is told of the variables. -/
def environment : Program := fun _ m =>
  (.status 0, m.write 1 ((m.self.bindings.filter Variable.exported).flatMap fun v =>
    v.name ++ '=' :: v.value ++ ['\n']))

/-- The programs, by name. -/
def programs : List (String × Program) :=
  [("cat", cat), ("tee", tee), ("head", head), ("tail", tail), ("wc", wc), ("tr", tr),
    ("echo", echo .standalone), ("seq", seq), ("sleep", sleep), ("printf", printf),
    ("printenv", environment), ("true", fun _ m => (.status 0, m)),
    ("false", fun _ m => (.status 1, m))]

def program? (name : Text) : Option Program :=
  (programs.find? fun entry => entry.1.toList == name).map Prod.snd

end Tools

end Fleet.Shell
