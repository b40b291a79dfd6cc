import Fleet.Shell.Tools

/-!
# Commands that a shell carries out itself

Some commands change the shell, so they cannot be programs of their own; others are built in because
they are short. Each is told the line on which it stands, for its complaints.
-/

namespace Fleet.Shell

/-- A command that a shell carries out itself. -/
abbrev Builtin := Nat → List Text → Machine → Flow × Machine

namespace Builtin

/-- The machine after the shell complained. -/
def complain (m : Machine) (line : Nat) (text : Text) : Machine :=
  m.complain (m.self.name ++ ": ".toList ++ (toString line).toList ++ ": ".toList ++ text)

/-- The machine after the shell complained for a command. -/
def complainFor (name : String) (m : Machine) (line : Nat) (text : Text) : Machine :=
  complain m line (name.toList ++ ": ".toList ++ text)

/-! ## Conditions -/

/-- Reads a whole number. -/
def integer? (text : Text) : Option Int :=
  match Format.number text with
  | (value, true, []) => if text.getLast?.any Char.isDigit then some value else none
  | _ => none

/-- Conditions on one word. None where there is no such condition. -/
def unary? (m : Machine) (name word : Text) : Option Bool :=
  let node := m.world.fs.find word.toBytes
  match name with
  | ['-', 'n'] => some (word ≠ [])
  | ['-', 'z'] => some (word = [])
  | ['-', 'e'] | ['-', 'r'] | ['-', 'w'] => some node.toBool
  | ['-', 'f'] => some (match node with
    | .ok (.file _ _) => true
    | _ => false)
  | ['-', 't'] => some false
  | ['-', 'd'] => some (match node with
    | .ok (.directory _ _) => true
    | _ => false)
  | ['-', 's'] => some (match node with
    | .ok (.file _ data) => data ≠ []
    | .ok _ => true
    | .error _ => false)
  | ['-', 'x'] => some (match node with
    | .ok (.file about _) => about.mode &&& 0o111 ≠ 0
    | .ok (.directory _ _) => true
    | _ => false)
  | _ => none

/-- Conditions on two numbers. -/
def comparison? (name : Text) : Option (Int → Int → Bool) :=
  match name with
  | ['-', 'e', 'q'] => some (· == ·)
  | ['-', 'n', 'e'] => some (· != ·)
  | ['-', 'l', 't'] => some (· < ·)
  | ['-', 'l', 'e'] => some (· ≤ ·)
  | ['-', 'g', 't'] => some (· > ·)
  | ['-', 'g', 'e'] => some (· ≥ ·)
  | _ => none

/-- Conditions on two words: none where there is no such condition, and otherwise whether it holds
or what is wrong with it. -/
def binary? (left name right : Text) : Option (Except Text Bool) :=
  match name with
  | ['='] => some (.ok (left = right))
  | ['!', '='] => some (.ok (left ≠ right))
  | _ =>
    (comparison? name).map fun holds =>
      match integer? left, integer? right with
      | some a, some b => .ok (holds a b)
      | none, _ => .error ("Illegal number: ".toList ++ left)
      | _, none => .error ("Illegal number: ".toList ++ right)

/-- Whether a condition holds, or what is wrong with it. So many conditions may be nested. -/
def holds (m : Machine) : Nat → List Text → Except Text Bool
  | 0, _ => .error "argument expected".toList
  | _ + 1, [] => .ok false
  | _ + 1, [word] => .ok (word ≠ [])
  | depth + 1, ['!'] :: rest => (holds m depth rest).map (!·)
  | _ + 1, [name, word] =>
    match unary? m name word with
    | some b => .ok b
    | none => .error (name ++ ": unexpected operator".toList)
  | depth + 1, left :: name :: right :: rest =>
    let first : Except Text (Bool × List Text) :=
      match binary? left name right with
      | some b => b.map fun b => (b, rest)
      | none =>
        match unary? m left name with
        | some b => .ok (b, right :: rest)
        | none =>
          if name = ['-', 'a'] ∨ name = ['-', 'o'] then .ok (left ≠ [], name :: right :: rest)
          else .error (left ++ ": unexpected operator".toList)
    match first with
    | .error e => .error e
    | .ok (b, []) => .ok b
    | .ok (b, ['-', 'a'] :: rest) => (holds m depth rest).map (b && ·)
    | .ok (b, ['-', 'o'] :: rest) => (holds m depth rest).map (b || ·)
    | .ok (_, other :: _) => .error (other ++ ": unexpected operator".toList)

/-- Tells whether a condition holds. -/
def test (name : String) : Builtin := fun line args m =>
  match holds m (args.length + 1) args with
  | .ok true => (.status 0, m)
  | .ok false => (.status 1, m)
  | .error e => (.status 2, complainFor name m line e)

/-- Tells whether a condition between brackets holds. -/
def bracket : Builtin := fun line args m =>
  if args.getLast? = some [']'] then test "[" line args.dropLast m
  else (.status 2, complainFor "[" m line "missing ]".toList)

/-! ## Signals -/

def signalNames : List (Nat × String) :=
  [(0, "EXIT"), (1, "HUP"), (2, "INT"), (3, "QUIT"), (4, "ILL"), (5, "TRAP"), (6, "ABRT"),
    (7, "BUS"), (8, "FPE"), (9, "KILL"), (10, "USR1"), (11, "SEGV"), (12, "USR2"), (13, "PIPE"),
    (14, "ALRM"), (15, "TERM"), (16, "STKFLT"), (17, "CHLD"), (18, "CONT"), (19, "STOP"),
    (20, "TSTP"), (21, "TTIN"), (22, "TTOU"), (23, "URG"), (24, "XCPU"), (25, "XFSZ"),
    (26, "VTALRM"), (27, "PROF"), (28, "WINCH"), (29, "POLL"), (30, "PWR"), (31, "SYS")]

/-- The number of a signal. -/
def signal? (text : Text) : Option Nat :=
  match Tools.number? text with
  | some n => if n < 32 then some n else none
  | none =>
    (signalNames.find? fun entry => entry.2.toList == text.map Char.toUpper).map Prod.fst

/-- Whether a signal ends a process that does nothing about it. -/
def isFatal (signal : Nat) : Bool :=
  signal ≠ 0 && signal ≠ 17 && signal ≠ 18 && signal ≠ 19 && signal ≠ 20 && signal ≠ 21
    && signal ≠ 22 && signal ≠ 23 && signal ≠ 28

/-- What a shell says of a process that was killed. -/
def killedNotice? (signal : Nat) : Option String :=
  match signal with
  | 1 => some "Hangup"
  | 3 => some "Quit"
  | 4 => some "Illegal instruction"
  | 5 => some "Trace/breakpoint trap"
  | 6 => some "Aborted"
  | 7 => some "Bus error"
  | 8 => some "Floating point exception"
  | 9 => some "Killed"
  | 10 => some "User defined signal 1"
  | 11 => some "Segmentation fault"
  | 12 => some "User defined signal 2"
  | 14 => some "Alarm clock"
  | 15 => some "Terminated"
  | _ => none

/-- Sends a signal to processes. A shell and its parts can be killed; what runs in the background
is stopped. -/
def sendSignal (line signal code : Nat) : List Text → Machine → Flow × Machine
  | [], m => (.status code, m)
  | target :: rest, m =>
    match Tools.number? target with
    | none =>
      (.status 2, complainFor "kill" m line ("Illegal number: ".toList ++ target))
    | some n =>
      if n = m.self.shellNumber ∨ n = m.self.number then
        if isFatal signal then (.killed signal n, m) else sendSignal line signal code rest m
      else if m.self.lastBackground = some n then
        let world := if isFatal signal then { m.world with latest := m.world.now } else m.world
        sendSignal line signal code rest { m with world }
      else sendSignal line signal 1 rest (complainFor "kill" m line "No such process\n".toList)

/-- Sends a signal. -/
def kill : Builtin := fun line args m =>
  let usage := "Usage: kill [-s sigspec | -signum | -sigspec] [pid | job]... or".toList
  let send := fun (name : Text) (targets : List Text) =>
    match signal? name with
    | some signal => sendSignal line signal 0 targets m
    | none => (.status 2, complainFor "kill" m line
        ("invalid signal number or name: ".toList ++ name))
  match args with
  | [] => (.status 2, complainFor "kill" m line usage)
  | ['-', 's'] :: name :: targets => send name targets
  | ['-', '-'] :: targets => sendSignal line 15 0 targets m
  | ('-' :: name) :: targets => send name targets
  | targets => sendSignal line 15 0 targets m

/-! ## The shell itself -/

/-- The status that an argument asks for; that of the last command where there is none. -/
def statusOf (m : Machine) : List Text → Option Nat
  | [] => some m.self.status
  | arg :: _ => Tools.number? arg

/-- Ends the shell. -/
def exit : Builtin := fun line args m =>
  match statusOf m args with
  | some code => (.exit (code % 256), m)
  | none =>
    (.exit 2, complainFor "exit" m line ("Illegal number: ".toList ++ args.head?.getD []))

/-- Leaves loops. -/
def leave (again : Bool) : Builtin := fun line args m =>
  let name := if again then "continue" else "break"
  match args with
  | [] => (.leave 1 again, m)
  | arg :: _ =>
    match Tools.number? arg with
    | some 0 | none => (.exit 2, complainFor name m line ("Illegal number: ".toList ++ arg))
    | some n => (.leave n again, m)

/-- Goes to another directory. -/
def cd : Builtin := fun line args m =>
  match args with
  | [] => (.status 0, m)
  | target :: _ =>
    match m.world.fs.find target.toBytes with
    | .ok (.directory _ _) =>
      let cwd := (m.world.fs.address target.toBytes).foldl (fun names name =>
        if name = FilePath.parent then names.dropLast else names ++ [name]) []
      (.status 0, { m with world := { m.world with fs := { m.world.fs with cwd } } })
    | _ => (.status 2, complainFor "cd" m line ("can't cd to ".toList ++ target))

/-- Prints the directory where relative paths start. -/
def pwd : Builtin := fun _ _ m =>
  let names := m.world.fs.cwd.flatMap fun name => '/' :: Text.ofBytes name
  (.status 0, m.write 1 ((if names.isEmpty then ['/'] else names) ++ ['\n']))

/-- Splits a word at its first equals sign. -/
def splitAssignment (word : Text) : Text × Option Text :=
  match word.dropWhile (· ≠ '=') with
  | _ :: value => (word.takeWhile (· ≠ '='), some value)
  | [] => (word, none)

/-- Lets programs know of variables. -/
def publish : Builtin := fun _ args m =>
  (.status 0, args.foldl (fun m arg =>
    match splitAssignment arg with
    | (name, some value) => m.assign name value true
    | (name, none) =>
      match m.valueOf? name with
      | some value => m.assign name value true
      | none => m) m)

/-- Forgets variables. -/
def unset : Builtin := fun _ args m => (.status 0, args.foldl Machine.unassign m)

/-- Drops parameters. -/
def shift : Builtin := fun line args m =>
  match args with
  | [] | [_] =>
    match (args.head?.map Tools.number?).getD (some 1) with
    | some n =>
      if n ≤ m.self.parameters.length then
        (.status 0, { m with self := { m.self with
          parameters := m.self.parameters.drop n } })
      else (.exit 2, complainFor "shift" m line "can't shift that many".toList)
    | none =>
      (.exit 2, complainFor "shift" m line ("Illegal number: ".toList ++ args.head?.getD []))
  | _ => (.status 0, m)

/-- Gives parameters new values. -/
def set : Builtin := fun _ args m =>
  match args with
  | ['-', '-'] :: rest => (.status 0, { m with self := { m.self with parameters := rest } })
  | ('-' :: _) :: _ | [] => (.status 0, m)
  | _ => (.status 0, { m with self := { m.self with parameters := args } })

/-- Waits for what runs in the background. -/
def wait : Builtin := fun _ _ m =>
  (.status 0, { m with world := { m.world with now := max m.world.now m.world.latest } })

/-- Gives variables the fields of a line: one each, and the last one the rest. -/
def assignFields : List Text → Text → Machine → Machine
  | [], _, m => m
  | [name], text, m =>
    let trimmed := (text.reverse.dropWhile Tools.isBlank).reverse
    m.assign name trimmed false
  | name :: names, text, m =>
    let field := text.takeWhile fun c => !Tools.isBlank c
    assignFields names ((text.drop field.length).dropWhile Tools.isBlank)
      (m.assign name field false)

/-- A line without backslashes that take away the meaning of a character. -/
def unescapeLine : Text → Text
  | [] => []
  | ['\\'] => []
  | '\\' :: c :: rest => c :: unescapeLine rest
  | c :: rest => c :: unescapeLine rest

/-- Reads a line of the input into variables. -/
def read : Builtin := fun line args m =>
  let raw := args.head? = some ['-', 'r']
  let names := if raw then args.tail else args
  match names with
  | [] => (.status 2, complainFor "read" m line "arg count".toList)
  | _ =>
    match m.readLine 0 with
    | (.wait, m) => (.blocked, m)
    | (.line text complete, m) =>
      let text := (if raw then text else unescapeLine text).dropWhile Tools.isBlank
      (.status (if complete then 0 else 1), assignFields names text m)

/-- Prints its arguments as a format says. -/
def printf : Builtin := fun line args m =>
  let args := if args.head? = some ['-', '-'] then args.tail else args
  match args with
  | [] => (.status 2, complainFor "printf" m line "usage: printf format [arg ...]".toList)
  | format :: args =>
    match format with
    | '-' :: c :: _ =>
      (.status 2, complainFor "printf" m line ("Illegal option -".toList ++ [c]))
    | _ =>
      let output := Format.printf .builtin format args
      (.status output.status, output.faults.foldl (fun m fault => complainFor "printf" m line fault)
        (m.write 1 output.text))

/-- The commands, by name. -/
def commands : List (String × Builtin) :=
  [(":", fun _ _ m => (.status 0, m)), ("true", fun _ _ m => (.status 0, m)),
    ("false", fun _ _ m => (.status 1, m)), ("echo", fun _ => Tools.echo .builtin),
    ("printf", printf), ("test", test "test"), ("[", bracket), ("kill", kill), ("exit", exit),
    ("break", leave false), ("continue", leave true), ("cd", cd), ("pwd", pwd),
    ("export", publish), ("unset", unset), ("shift", shift), ("set", set), ("wait", wait),
    ("read", read)]

def command? (name : Text) : Option Builtin :=
  (commands.find? fun entry => entry.1.toList == name).map Prod.snd

/-- Whether a fault of a command's redirections ends the shell. -/
def isSpecial (name : Text) : Bool :=
  [":", "break", "continue", "eval", "exec", "exit", "export", "set", "shift", "unset"].any
    fun special => special.toList == name

end Builtin

end Fleet.Shell
