import Fleet.CommandLine.Switch
import Fleet.ExitStatus

/-!
# Reading the command line

Options come first, then the action with what belongs to it. An option may have its value attached
or in the next word; that value is judged only when the next option is taken up, or at the end, so a
fault in what belongs to the action is told before it.

After the action `exec` comes the command. From its first word on everything is a word of it,
whatever it looks like.
-/

namespace Fleet

namespace CommandLine

/-! ## Words -/

/-- What a word looks like. -/
inductive Shape where
  /-- Two dashes alone: what follows is no option. -/
  | divider
  /-- Two dashes and a name, with a value attached if there is an equals sign. -/
  | long (name : String) (value : Option String)
  /-- A dash and letters. -/
  | letters (letters : List Char)
  /-- Anything else, a single dash included. -/
  | plain
  deriving Repr, DecidableEq

/-- A long option without its dashes, split at the first equals sign. -/
def splitValue (cs : List Char) : Shape :=
  match splitFirst ['='] cs with
  | some (name, value) => .long (String.ofList name) (some (String.ofList value))
  | none => .long (String.ofList cs) none

/-- What a word looks like. -/
def shape (word : String) : Shape :=
  match word.toList with
  | ['-', '-'] => .divider
  | '-' :: '-' :: rest => splitValue rest
  | '-' :: c :: rest => .letters (c :: rest)
  | _ => .plain

/-! ## Actions -/

/-- Reads the words of a command. Before the first of them help may be asked for, and a divider is
dropped. -/
def readExec : List String → Except UsageFault Action
  | [] => .error .missingArgument
  | word :: words =>
    match shape word with
    | .divider => if words = [] then .error .missingArgument else .ok (.exec words)
    | .long "help" none => .error .help
    | .long "help" (some _) => .error .unwantedValue
    | .letters letters =>
      if letters.all (· == 'h') then .error .help else .ok (.exec (word :: words))
    | _ => .ok (.exec (word :: words))

/-- What is known so far of files to copy. -/
structure CopyDraft where
  /-- Whether times are sent along. -/
  preserve : Bool := false
  /-- Whether directories are copied. -/
  recursive : Bool := false
  sources : List String := []
  destination : Option String := none
  deriving Repr, DecidableEq

namespace CopyDraft

/-- Takes the option to send times along. -/
def markPreserve (draft : CopyDraft) : Except UsageFault CopyDraft :=
  if draft.preserve then .error .conflict else .ok { draft with preserve := true }

/-- Takes the option to copy directories. -/
def markRecursive (draft : CopyDraft) : Except UsageFault CopyDraft :=
  if draft.recursive then .error .conflict else .ok { draft with recursive := true }

/-- Takes a long option. -/
def long (draft : CopyDraft) (name : String) (value : Option String) :
    Except UsageFault CopyDraft :=
  if !(["preserve", "recursive", "help"].contains name) then .error .unknownArgument
  else if value.isSome then .error .unwantedValue
  else if name = "preserve" then draft.markPreserve
  else if name = "recursive" then draft.markRecursive
  else .error .help

/-- Takes the option of a letter. -/
def letter (draft : CopyDraft) (c : Char) : Except UsageFault CopyDraft :=
  match c with
  | 'p' => draft.markPreserve
  | 'r' => draft.markRecursive
  | 'h' => .error .help
  | _ => .error .unknownArgument

/-- Takes a path. It is a source if another path follows directly; else it is the destination, and
nothing may come after that. No source may be empty. -/
def path (draft : CopyDraft) (word : String) (rest : List String) :
    Except UsageFault CopyDraft :=
  let more : Bool := match rest with
    | next :: _ => shape next == .plain
    | [] => false
  if draft.destination.isSome then .error .unknownArgument
  else if more then .ok { draft with sources := draft.sources ++ [word] }
  else if draft.sources.contains "" then .error .invalidValue
  else .ok { draft with destination := some word }

/-- The files to copy. There have to be a source and a destination. -/
def finish (draft : CopyDraft) : Except UsageFault Action :=
  match draft.sources, draft.destination with
  | source :: sources, some destination =>
    .ok (.copy {
      sources := (source :: sources).map Utf8.encode
      destination
      preserve := draft.preserve
      recursive := draft.recursive })
  | _, _ => .error .missingArgument

end CopyDraft

/-- Reads which files to copy. After a divider nothing is an option. -/
def readCopy (divided : Bool) (draft : CopyDraft) : List String → Except UsageFault Action
  | [] => draft.finish
  | word :: rest => do
    match divided, shape word with
    | false, .divider => readCopy true draft rest
    | false, .long name value => readCopy divided (← draft.long name value) rest
    | false, .letters letters =>
      readCopy divided (← letters.foldlM (fun draft c => draft.letter c) draft) rest
    | _, _ => readCopy divided (← draft.path word rest) rest

/-! ## Options -/

/-- An option whose value is still to come, or to be judged. -/
inductive Pending where
  | none
  /-- The value is to come in the next word. -/
  | awaiting (setting : Setting)
  /-- The value is to be judged. -/
  | unjudged (setting : Setting) (value : String)
  deriving Repr, DecidableEq

/-- Takes up an option whose value was still to be judged. -/
def settle (draft : Draft) : Pending → Except UsageFault Draft
  | .none => .ok draft
  | .awaiting _ => .error .invalidValue
  | .unjudged setting value => draft.set setting value

/-- Takes an option with the value that is attached to it. -/
def take (draft : Draft) (pending : Pending) (switch : Switch) (value : Option String) :
    Except UsageFault (Draft × Pending) :=
  match switch, value with
  | .flag _, some _ => .error .unwantedValue
  | .flag flag, none => do return (← (← settle draft pending).mark flag, .none)
  | .setting setting, some value => do
    return (← (← settle draft pending).set setting value, .none)
  | .setting setting, none => do return (← settle draft pending, .awaiting setting)

/-- Takes the options of letters. What follows the letter of an option with a value is the value;
an equals sign between them does not belong to it. -/
def takeLetters (draft : Draft) (pending : Pending) :
    List Char → Except UsageFault (Draft × Pending)
  | [] => .ok (draft, pending)
  | c :: rest =>
    match Switch.ofLetter? c with
    | none => .error .unknownArgument
    | some (.flag flag) => do
      let (draft, pending) ← take draft pending (.flag flag) none
      takeLetters draft pending rest
    | some switch =>
      match rest with
      | [] => take draft pending switch none
      | '=' :: value => take draft pending switch (some (String.ofList value))
      | value => take draft pending switch (some (String.ofList value))

/-- The names of the actions. -/
def actions : List String := ["exec", "copy", "help"]

/-- Whether help on some action can be asked for by these words. -/
def readHelp : List String → UsageFault
  | [] => .help
  | [word] => if actions.contains word then .help else .unknownAction
  | _ => .unknownAction

/-- Reads an action with what belongs to it. -/
def readAction (name : String) (rest : List String) : Except UsageFault Action :=
  if name = "exec" then readExec rest
  else if name = "copy" then readCopy false {} rest
  else .error (readHelp rest)

/-- What it means that the words end before an action. -/
def readEnd (draft : Draft) (pending : Pending) : Except UsageFault (Config × Action) := do
  let draft ← settle draft pending
  .error (if draft.given = [] then .empty else .missingAction)

/-- What it means that a divider comes before the action. -/
def readDivided (draft : Draft) (pending : Pending) :
    List String → Except UsageFault (Config × Action)
  | [] => readEnd draft pending
  | word :: _ => .error (if actions.contains word then .unknownArgument else .unknownAction)

/-- Reads a command line, with the options so far. -/
def readFrom (draft : Draft) (pending : Pending) :
    List String → Except UsageFault (Config × Action)
  | [] => readEnd draft pending
  | word :: rest =>
    match pending, shape word with
    | _, .divider => readDivided draft pending rest
    | _, .long name value =>
      match Switch.ofName? name with
      | none => .error .unknownArgument
      | some switch => do
        let (draft, pending) ← take draft pending switch value
        readFrom draft pending rest
    | _, .letters letters => do
      let (draft, pending) ← takeLetters draft pending letters
      readFrom draft pending rest
    | .awaiting setting, .plain => readFrom draft (.unjudged setting word) rest
    | pending, .plain =>
      if actions.contains word then do
        let action ← readAction word rest
        let draft ← settle draft pending
        return (draft.config, action)
      else .error .unknownAction

/-- Reads a command line. -/
def read (words : List String) : Except UsageFault (Config × Action) := readFrom {} .none words

end CommandLine

end Fleet
