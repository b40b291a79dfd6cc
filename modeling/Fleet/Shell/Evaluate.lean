import Fleet.Shell.Builtins
import Fleet.Shell.Reader

/-!
# Running commands

The evaluator carries commands out on a machine. It calls itself for commands inside words, for
shells that commands start and for every round of a loop, so it takes a bound on how deep that may
go, and says so when it does not suffice.

A command is in last place when nothing comes after it in a part of a shell that has a process of
its own. A program in last place takes over that process.
-/

namespace Fleet.Shell

namespace Evaluate

/-! ## Words -/

/-- The fields that a word has come to so far: those that are complete, and the one that is going
on if there is one. -/
structure Fields where
  /-- Complete, the latest first. -/
  complete : List Text := []
  /-- Going on. -/
  current : Option Text := none
  deriving Repr, DecidableEq

namespace Fields

/-- Adds to the field that is going on. -/
def extend (fields : Fields) (text : Text) : Fields :=
  { fields with current := some (fields.current.getD [] ++ text) }

/-- Ends the field that is going on. -/
def close (fields : Fields) : Fields :=
  match fields.current with
  | some text => ⟨text :: fields.complete, none⟩
  | none => fields

/-- Adds a text in which blanks separate fields. So many characters are looked at. -/
def addSplit : Nat → Fields → Text → Fields
  | 0, fields, _ => fields
  | _ + 1, fields, [] => fields
  | steps + 1, fields, c :: rest =>
    let isBlank := fun d => d == ' ' || d == '\t' || d == '\n'
    if isBlank c then addSplit steps fields.close (rest.dropWhile isBlank)
    else
      addSplit steps (fields.extend (c :: rest.takeWhile fun d => !isBlank d))
        (rest.dropWhile fun d => !isBlank d)

/-- Adds texts each of which is a field; the first goes on with the field there is. -/
def addAll (fields : Fields) : List Text → Fields
  | [] => fields
  | [text] => fields.extend text
  | text :: rest => addAll (fields.extend text).close rest

def all (fields : Fields) : List Text := fields.close.complete.reverse

end Fields

/-- The value of a parameter or a variable; empty if it has none. -/
def valueOf (m : Machine) (name : Text) : Text :=
  match name with
  | ['?'] => (toString m.self.status).toList
  | ['$'] => (toString m.self.shellNumber).toList
  | ['!'] => (m.self.lastBackground.map fun n => (toString n).toList).getD []
  | ['#'] => (toString m.self.parameters.length).toList
  | ['@'] | ['*'] => Format.spaced m.self.parameters
  | ['0'] => m.self.name
  | ['-'] => []
  | _ =>
    match Tools.number? name with
    | some (n + 1) => m.self.parameters[n]?.getD []
    | _ => (m.valueOf? name).getD []

/-- Adds the value of a parameter or a variable. -/
def addValue (m : Machine) (fields : Fields) (name : Text) (quoted : Bool) : Fields :=
  if quoted then
    if name = ['@'] then fields.addAll m.self.parameters else fields.extend (valueOf m name)
  else
    let text := valueOf m name
    fields.addSplit (text.length + 1) text

/-- Adds what commands said; newlines at the end do not count. -/
def addOutput (fields : Fields) (text : Text) (quoted : Bool) : Fields :=
  let text := (text.reverse.dropWhile (· == '\n')).reverse
  if quoted then fields.extend text else fields.addSplit (text.length + 1) text

/-! ## Descriptors -/

/-- The words for a file that cannot be opened. -/
def openReason (direction : Direction) (e : SystemError) : Text :=
  match e, direction with
  | .notFound, .read | .notDirectory, .read => "No such file".toList
  | .notFound, _ | .notDirectory, _ => "Directory nonexistent".toList
  | e, _ => Tools.reason e

/-- Opens what a redirection names, or says why that is impossible. -/
def redirectToTarget (m : Machine) (descriptor : Nat) (direction : Direction) (target : Text) :
    Except Text Machine :=
  match direction with
  | .duplicate =>
    if target = ['-'] then .ok (m.disconnect descriptor)
    else match Tools.number? target with
      | none => .error "Syntax error: Bad fd number".toList
      | some n =>
        match m.channelNumber? n with
        | some channel => .ok (m.connect descriptor channel)
        | none => .error (target ++ ": Bad file descriptor".toList)
  | .read =>
    match m.openToRead target with
    | .ok channel =>
      let (n, m) := m.newChannel channel
      .ok (m.connect descriptor n)
    | .error e =>
      .error ("cannot open ".toList ++ target ++ ": ".toList ++ openReason direction e)
  | .write | .append =>
    match m.openToWrite target (direction == .append) with
    | .ok (channel, m) =>
      let (n, m) := m.newChannel channel
      .ok (m.connect descriptor n)
    | .error e =>
      .error ("cannot create ".toList ++ target ++ ": ".toList ++ openReason direction e)

/-- Carries out one redirection, or says why that is impossible. -/
def redirectTo (m : Machine) (descriptor : Nat) (direction : Direction) (target : Text) :
    Except Text Machine :=
  match (Machine.descriptorOf? target).bind m.channelNumber? with
  | some channel => .ok (m.connect descriptor channel)
  | none => redirectToTarget m descriptor direction target

/-- The machine with the descriptors that it had before. -/
def restore (before after : Machine) : Machine :=
  { after with self := { after.self with descriptors := before.self.descriptors } }

/-- What was written to a channel that collects it. -/
def collected (m : Machine) (channel : Nat) : Text :=
  match m.world.channels[channel]? with
  | some (.sink written) => (written.reverse.map Prod.snd).flatten
  | _ => []

/-! ## Processes -/

/-- What a shell makes of the end of a process that it started. It says so when the process was
killed, and ends itself if it was the one that was killed. -/
def reaped (process : Nat) (flow : Flow) (m : Machine) : Flow × Machine :=
  match flow with
  | .killed signal n =>
    if n = process then
      (.status (128 + signal), match Builtin.killedNotice? signal with
        | some notice => m.complain notice.toList
        | none => m)
    else (flow, m)
  | .blocked | .exhausted => (flow, m)
  | _ => (.status flow.code, m)

/-- A program in last place ends the process that it took over. -/
def ended (flow : Flow) : Flow :=
  match flow with
  | .status code => .exit code
  | _ => flow

/-- The commands of a standalone program: its first line names who carries them out. -/
def interpreter? (data : Bytes) : Option (Text × List Text) :=
  match Text.ofBytes data with
  | '#' :: '!' :: rest =>
    let line := (rest.takeWhile (· ≠ '\n')).dropWhile Tools.isBlank
    let name := line.takeWhile fun c => !Tools.isBlank c
    let argument := (line.drop name.length).dropWhile Tools.isBlank
    let argument := (argument.reverse.dropWhile Tools.isBlank).reverse
    if name.isEmpty then none else some (name, if argument.isEmpty then [] else [argument])
  | _ => none

/-- The directories that hold the programs. -/
def programDirectories : List String := ["/bin/", "/usr/bin/", "/usr/local/bin/"]

/-- The name of a program without the directory that holds the programs. -/
def bareName (name : Text) : Text :=
  match programDirectories.find? fun directory => directory.toList.isPrefixOf name with
  | some directory => name.drop directory.length
  | none => name

/-- Whether a name is that of a program that can be started. -/
def isProgram (name : Text) : Bool :=
  name == "sh".toList || name == "dash".toList || name == "env".toList
    || name == "test".toList || name == "[".toList || (Tools.program? name).isSome

/-- What a name of a program leads to. -/
inductive Found where
  | program (name : Text)
  /-- A file with commands. -/
  | file (data : Bytes)
  /-- Nothing that can be started. -/
  | missing (e : SystemError)
  deriving Repr, DecidableEq

/-- Looks a program up. -/
def lookUp (fs : FileSystem) (name : Text) : Found :=
  if isProgram (bareName name) then .program (bareName name)
  else if !name.contains '/' then .missing .notFound
  else match fs.find name.toBytes with
    | .ok (.file about data) =>
      if about.mode &&& 0o111 ≠ 0 then .file data else .missing .permissionDenied
    | .ok _ => .missing .permissionDenied
    | .error (.system e) => .missing e
    | .error _ => .missing .notFound

/-- How a shell ends when there is nothing left to carry out. -/
def finish : Flow × Machine → Flow × Machine
  | (.leave _ _, m) => (.exit 0, m)
  | (flow, m) => (ended flow, m)

mutual

/-- Expands the pieces of a word. -/
def pieces : Nat → Fields → Word → Machine → Except Flow Fields × Machine
  | 0, _, _, m => (.error .exhausted, m)
  | _ + 1, fields, [], m => (.ok fields, m)
  | depth + 1, fields, piece :: rest, m =>
    match piece with
    | .literal text _ => pieces depth (fields.extend text) rest m
    | .value name quoted =>
      if Lexer.isParameter name then pieces depth (addValue m fields name quoted) rest m
      else (.error (.exit 2), Builtin.complain m 1 "Bad substitution".toList)
    | .output source quoted =>
      match substitute depth source m with
      | (.ok text, m) => pieces depth (addOutput fields text quoted) rest m
      | (.error flow, m) => (.error flow, m)

/-- Expands words to fields. -/
def words : Nat → List Word → Machine → Except Flow (List Text) × Machine
  | 0, _, m => (.error .exhausted, m)
  | _ + 1, [], m => (.ok [], m)
  | depth + 1, word :: rest, m =>
    match pieces depth {} word m with
    | (.error flow, m) => (.error flow, m)
    | (.ok fields, m) =>
      match words depth rest m with
      | (.error flow, m) => (.error flow, m)
      | (.ok more, m) => (.ok (fields.all ++ more), m)

/-- Expands a word to one text, in which blanks separate nothing. -/
def single : Nat → Word → Machine → Except Flow Text × Machine
  | 0, _, m => (.error .exhausted, m)
  | depth + 1, word, m =>
    match pieces depth {} word.quote m with
    | (.error flow, m) => (.error flow, m)
    | (.ok fields, m) => (.ok (Format.spaced fields.all), m)

/-- What commands say. Their status is noted. -/
def substitute : Nat → Text → Machine → Except Flow Text × Machine
  | 0, _, m => (.error .exhausted, m)
  | depth + 1, source, m =>
    let (channel, forked) := m.fork.newChannel (.sink [])
    let (flow, after) := script depth true (Reader.read source) (forked.connect 1 channel)
    match reaped after.self.number flow (m.resume after) with
    | (.status code, m) => (.ok (collected m channel), m.setSubstituted code)
    | (flow, m) => (.error flow, m)

/-- Carries out redirections. None of the machines is left with half of them undone. -/
def redirect : Nat → Nat → List Redirection → Machine → Except Flow Unit × Machine
  | 0, _, _, m => (.error .exhausted, m)
  | _ + 1, _, [], m => (.ok (), m)
  | depth + 1, line, redirection :: rest, m =>
    match single depth redirection.target m with
    | (.error flow, m) => (.error flow, m)
    | (.ok target, m) =>
      match redirectTo m redirection.descriptor redirection.direction target with
      | .ok m => redirect depth line rest m
      | .error reason => (.error (.status 2), Builtin.complain m line reason)

/-- Carries out assignments. -/
def assign : Nat → Bool → List (Text × Word) → Machine → Except Flow Unit × Machine
  | 0, _, _, m => (.error .exhausted, m)
  | _ + 1, _, [], m => (.ok (), m)
  | depth + 1, exported, (name, word) :: rest, m =>
    match single depth word m with
    | (.error flow, m) => (.error flow, m)
    | (.ok value, m) => assign depth exported rest (m.assign name value exported)

/-- Carries out a text that was read. -/
def script : Nat → Bool → Script → Machine → Flow × Machine
  | 0, _, _, m => (.exhausted, m)
  | depth + 1, last, ⟨commands, fault⟩, m =>
    match commands with
    | [] =>
      match fault with
      | none => (.status m.self.status, m)
      | some fault =>
        (.exit 2, Builtin.complain m fault.line
          ("Syntax error: ".toList ++ fault.reason.toList))
    | first :: rest =>
      match command depth (last && rest.isEmpty && fault.isNone) first m with
      | (.status code, m) =>
        let m := m.setStatus code
        if rest.isEmpty && fault.isNone then (.status code, m)
        else script depth last ⟨rest, fault⟩ m
      | other => other

/-- Carries out a command, in last place or not. -/
def command : Nat → Bool → Command → Machine → Flow × Machine
  | 0, _, _, m => (.exhausted, m)
  | depth + 1, last, c, m =>
    match c with
    | .nothing => (.status 0, m)
    | .simple line assignments found redirections =>
      simple depth last line assignments found redirections m
    | .sequence first second =>
      match command depth false first m with
      | (.status code, m) => command depth last second (m.setStatus code)
      | other => other
    | .both first second =>
      match command depth false first m with
      | (.status code, m) =>
        let m := m.setStatus code
        if code = 0 then command depth last second m else (.status code, m)
      | other => other
    | .either first second =>
      match command depth false first m with
      | (.status code, m) =>
        let m := m.setStatus code
        if code = 0 then (.status code, m) else command depth last second m
      | other => other
    | .negate inner =>
      match command depth false inner m with
      | (.status code, m) => (.status (if code = 0 then 1 else 0), m)
      | other => other
    | .branch condition yes no =>
      match command depth false condition m with
      | (.status code, m) =>
        let m := m.setStatus code
        if code = 0 then command depth last yes m
        else if no = .nothing then (.status 0, m)
        else command depth last no m
      | other => other
    | .loop untilTrue condition body => loop depth untilTrue condition body 0 m
    | .each name items body =>
      match items with
      | none => each depth name m.self.parameters body 0 m
      | some items =>
        match words depth items m with
        | (.error flow, m) => (flow, m)
        | (.ok values, m) => each depth name values body 0 m
    | .redirected line inner redirections =>
      match redirect depth line redirections m with
      | (.error flow, after) => (flow, restore m after)
      | (.ok (), opened) =>
        let (flow, after) := command depth false inner opened
        (flow, restore m after)
    | .subshell inner =>
      if last then
        let (flow, after) := command depth true inner m
        (ended flow, after)
      else
        let forked := m.fork
        let (flow, after) := command depth true inner forked
        reaped forked.self.number flow (m.resume after)
    | .background inner =>
      let (channel, forked) := m.fork.newChannel .null
      let (_, after) := command depth true inner (forked.connect 0 channel)
      let back := m.resume after
      let world := { back.world with
        now := m.world.now, latest := max back.world.latest after.world.now }
      (.status 0, { world, self := { back.self with
        lastBackground := some forked.self.number } })
    | .pipe first second =>
      let (channel, forked) := m.fork.newChannel (.sink [])
      let (flow, after) := command depth true first (forked.connect 1 channel)
      match reaped forked.self.number flow (m.resume after) with
      | (.status _, m) =>
        let (source, piped) := m.fork.newChannel (.source (collected m channel) true)
        let (flow, after) := command depth true second (piped.connect 0 source)
        reaped piped.self.number flow (m.resume after)
      | other => other

/-- Carries out the rounds of a loop with a condition. -/
def loop : Nat → Bool → Command → Command → Nat → Machine → Flow × Machine
  | 0, _, _, _, _, m => (.exhausted, m)
  | depth + 1, untilTrue, condition, body, status, m =>
    match command depth false condition m with
    | (.status code, m) =>
      if (code = 0) = untilTrue then (.status status, m)
      else
        match command depth false body (m.setStatus code) with
        | (.status code, m) => loop depth untilTrue condition body code (m.setStatus code)
        | (.leave (n + 2) again, m) => (.leave (n + 1) again, m)
        | (.leave _ true, m) => loop depth untilTrue condition body 0 (m.setStatus 0)
        | (.leave _ false, m) => (.status 0, m)
        | other => other
    | (.leave (n + 2) again, m) => (.leave (n + 1) again, m)
    | (.leave _ true, m) => loop depth untilTrue condition body 0 (m.setStatus 0)
    | (.leave _ false, m) => (.status 0, m)
    | other => other

/-- Carries out the rounds of a loop over values. -/
def each : Nat → Text → List Text → Command → Nat → Machine → Flow × Machine
  | 0, _, _, _, _, m => (.exhausted, m)
  | _ + 1, _, [], _, status, m => (.status status, m)
  | depth + 1, name, value :: rest, body, _, m =>
    match command depth false body (m.assign name value false) with
    | (.status code, m) => each depth name rest body code (m.setStatus code)
    | (.leave (n + 2) again, m) => (.leave (n + 1) again, m)
    | (.leave _ true, m) => each depth name rest body 0 (m.setStatus 0)
    | (.leave _ false, m) => (.status 0, m)
    | other => other

/-- Carries out a simple command. -/
def simple :
    Nat → Bool → Nat → List (Text × Word) → List Word → List Redirection →
      Machine → Flow × Machine
  | 0, _, _, _, _, _, m => (.exhausted, m)
  | depth + 1, last, line, assignments, found, redirections, m =>
    match words depth found (m.setSubstituted 0) with
    | (.error flow, m) => (flow, m)
    | (.ok fields, expanded) =>
      match redirect depth line redirections expanded with
      | (.error flow, after) =>
        let special := fields.head?.any Builtin.isSpecial
        (match flow with
          | .status code => if special then .exit code else .status code
          | other => other, restore m after)
      | (.ok (), opened) =>
        match fields with
        | [] =>
          match assign depth false assignments opened with
          | (.ok (), after) => (.status after.self.substituted, restore m after)
          | (.error flow, after) => (flow, restore m after)
        | name :: args =>
          if name = "exec".toList then
            match args with
            | [] => (.status 0, opened)
            | program :: args =>
              let (flow, after) := start depth line "exec: " program args opened
              (ended flow, after)
          else if name = "eval".toList then
            let (flow, after) := script depth false (Reader.read (Format.spaced args)) opened
            (flow, restore m after)
          else match Builtin.command? name with
            | some builtin =>
              match assign depth false assignments opened with
              | (.error flow, after) => (flow, restore m after)
              | (.ok (), ready) =>
                let (flow, after) := builtin line args ready
                let after := restore m after
                (flow, if Builtin.isSpecial name || assignments.isEmpty then after
                  else { after with self := { after.self with
                    bindings := opened.self.bindings } })
            | none =>
              match assign depth true assignments opened with
              | (.error flow, after) => (flow, restore m after)
              | (.ok (), ready) =>
                if last then
                  let (flow, after) := start depth line "" name args ready
                  (ended flow, after)
                else
                  let forked := ready.fork
                  let (flow, after) := start depth line "" name args forked
                  reaped forked.self.number flow (expanded.resume after)

/-- Starts a program that a shell was asked for, by a command that complaints name. The process is
the one that it is to run in. -/
def start : Nat → Nat → String → Text → List Text → Machine → Flow × Machine
  | 0, _, _, _, _, m => (.exhausted, m)
  | depth + 1, line, asked, name, args, m =>
    match lookUp m.world.fs name with
    | .missing .notFound | .missing .notDirectory =>
      (.status 127, Builtin.complain m line (asked.toList ++ name
        ++ (if name.isEmpty then ": Permission denied".toList else ": not found".toList)))
    | .missing e =>
      (.status 126, Builtin.complain m line
        (asked.toList ++ name ++ ": ".toList ++ Tools.reason e))
    | found => launch depth found name args m

/-- Runs a program that was found. It knows the exported variables, and has a name and a number of
its own. -/
def launch : Nat → Found → Text → List Text → Machine → Flow × Machine
  | 0, _, _, _, m => (.exhausted, m)
  | depth + 1, found, name, args, m =>
    let fresh := { m with self := { m.self with
      name, parameters := [], status := 0, shellNumber := m.self.number, lastBackground := none,
      bindings := m.self.bindings.filter Variable.exported } }
    match found with
    | .missing _ => (.status 127, m)
    | .file data =>
      match interpreter? data with
      | none => shell depth (name :: args) fresh
      | some (by_, options) =>
        match lookUp m.world.fs by_ with
        | .program program =>
          launch depth (.program program) by_ (options ++ name :: args) fresh
        | _ => (.status 127, fresh)
    | .program program =>
      if program = "sh".toList ∨ program = "dash".toList then shell depth args fresh
      else if program = "env".toList then environment depth args fresh
      else if program = "test".toList then Builtin.test "test" 1 args fresh
      else if program = "[".toList then Builtin.bracket 1 args fresh
      else match Tools.program? program with
        | some run => run args fresh
        | none => (.status 127, fresh)

/-- Runs a program with other variables. -/
def environment : Nat → List Text → Machine → Flow × Machine
  | 0, _, m => (.exhausted, m)
  | depth + 1, args, m =>
    match args with
    | [] => Tools.environment [] m
    | arg :: rest =>
      match Builtin.splitAssignment arg with
      | (name, some value) => environment depth rest (m.assign name value true)
      | (name, none) =>
        if name = ['-', 'i'] then
          environment depth rest { m with self := { m.self with bindings := [] } }
        else match lookUp m.world.fs name with
          | .missing e =>
            (.status (if e = .notFound then 127 else 126), Tools.complain m
              ('\'' :: name ++ "': ".toList ++ Tools.reason e))
          | found => launch depth found name rest m

/-- Runs a shell with its arguments. -/
def shell : Nat → List Text → Machine → Flow × Machine
  | 0, _, m => (.exhausted, m)
  | depth + 1, args, m =>
    match args with
    | ['-', 'c'] :: [] =>
      (.exit 2, Builtin.complain m 0 "-c requires an argument".toList)
    | ['-', 'c'] :: source :: rest =>
      let self := { m.self with
        name := rest.head?.getD m.self.name, parameters := rest.tail }
      finish (script depth false (Reader.read source) { m with self })
    | [] | [['-', 's']] =>
      match m.readAll 0 with
      | (.all source, m) => finish (script depth false (Reader.read source) m)
      | (.open source, m) =>
        match script depth false (Reader.read source) m with
        | (.status _, m) => (.blocked, m)
        | other => finish other
      | (_, m) => (.exit 0, m)
    | file :: rest =>
      match m.openToRead file with
      | .ok (.source unread _) =>
        let self := { m.self with name := file, parameters := rest }
        finish (script depth false (Reader.read unread) { m with self })
      | .ok _ => (.exit 0, m)
      | .error e =>
        (.exit 2, Builtin.complain m 0
          ("cannot open ".toList ++ file ++ ": ".toList ++ openReason .read e))

end

end Evaluate

end Fleet.Shell
