import Fleet.CommandLine.Config
import Fleet.Numeral

/-!
# Options

An option has a long name, and most have a letter. Some take a value and some do not; most may be
given once. `Draft` is what the options so far have said.
-/

namespace Fleet

/-- The options that take a value. -/
inductive Setting where
  | hosts
  | hostsFile
  | exclude
  | fanout
  | connectTimeout
  | commandTimeout
  | user
  | kind
  | clientTemplate
  | passes
  deriving Repr, DecidableEq

/-- The options that take no value. -/
inductive Flag where
  | lockstep
  | maxStatus
  | noLabels
  | separateStderr
  | color
  | batch
  | dropFailed
  | verbose
  | help
  | version
  deriving Repr, DecidableEq

/-- The options. -/
inductive Switch where
  /-- One with a value. -/
  | setting (setting : Setting)
  /-- One without. -/
  | flag (flag : Flag)
  deriving Repr, DecidableEq

namespace Switch

/-- The options with their long names and letters. -/
def table : List (String × Option Char × Switch) :=
  [("hosts", some 'w', setting .hosts), ("hosts-file", none, setting .hostsFile),
    ("exclude", some 'x', setting .exclude), ("fanout", some 'f', setting .fanout),
    ("connect-timeout", some 't', setting .connectTimeout),
    ("command-timeout", some 'u', setting .commandTimeout), ("user", some 'l', setting .user),
    ("rcmd", some 'R', setting .kind), ("exec-template", none, setting .clientTemplate),
    ("lockstep", none, flag .lockstep), ("max-status", some 'S', flag .maxStatus),
    ("no-labels", some 'N', flag .noLabels), ("separate-stderr", some 's', flag .separateStderr),
    ("color", none, flag .color), ("batch", some 'b', flag .batch),
    ("passes", none, setting .passes), ("drop-failed", none, flag .dropFailed),
    ("verbose", some 'v', flag .verbose), ("help", some 'h', flag .help),
    ("version", some 'V', flag .version)]

/-- The option of a long name. -/
def ofName? (name : String) : Option Switch :=
  (table.find? fun row => row.1 == name).map fun row => row.2.2

def ofLetter? (letter : Char) : Option Switch :=
  (table.find? fun row => row.2.1 == some letter).map fun row => row.2.2

/-- Whether an option may be given more than once. -/
def isRepeatable : Switch → Bool
  | setting .hosts | setting .exclude | flag .verbose => true
  | _ => false

end Switch

/-- What the options so far have said. -/
structure Draft where
  /-- The settings so far. -/
  config : Config := {}
  /-- The options that were given. -/
  given : List Switch := []
  deriving Repr, DecidableEq

namespace Draft

/-- Notes that an option is given. -/
def note (draft : Draft) (switch : Switch) : Except UsageFault Draft :=
  if draft.given.contains switch && !switch.isRepeatable then .error .conflict
  else .ok { draft with given := switch :: draft.given }

/-- Reads a number. -/
def number (text : String) : Except UsageFault Nat :=
  match Numeral.word64? text with
  | some n => .ok n
  | none => .error .malformedValue

/-- Reads the kind of a backend. -/
def connectionKind (text : String) : Except UsageFault ConnectionKind :=
  if text = ConnectionKind.ssh.name then .ok .ssh
  else if text = ConnectionKind.exec.name then .ok .exec
  else .error .invalidValue

/-- The settings with the value of an option. -/
def assign (config : Config) (value : String) : Setting → Except UsageFault Config
  | .hosts => .ok { config with hosts := config.hosts ++ [value] }
  | .hostsFile => .ok { config with hostsFile := some value }
  | .exclude => .ok { config with exclude := config.exclude ++ [value] }
  | .fanout => (number value).map fun n => { config with fanout := n }
  | .connectTimeout => (number value).map fun n => { config with connectTimeout := n }
  | .commandTimeout => (number value).map fun n => { config with commandTimeout := n }
  | .user => .ok { config with user := some value }
  | .kind => (connectionKind value).map fun kind => { config with kind }
  | .clientTemplate => .ok { config with clientTemplate := value }
  | .passes => (number value).map fun n => { config with passes := n }

/-- The greatest level of logging. -/
def verbosityLimit : Nat := 255

/-- The settings with an option that takes no value. -/
def raise (config : Config) : Flag → Except UsageFault Config
  | .lockstep => .ok { config with lockstep := true }
  | .maxStatus => .ok { config with maxStatus := true }
  | .noLabels => .ok { config with noLabels := true }
  | .separateStderr => .ok { config with separateStderr := true }
  | .color => .ok { config with color := true }
  | .batch => .ok { config with batch := true }
  | .dropFailed => .ok { config with dropFailed := true }
  | .verbose => .ok { config with verbosity := min verbosityLimit (config.verbosity + 1) }
  | .help => .error .help
  | .version => .error .version

/-- Takes an option with its value. -/
def set (draft : Draft) (setting : Setting) (value : String) : Except UsageFault Draft := do
  let noted ← draft.note (.setting setting)
  let config ← assign draft.config value setting
  return { noted with config }

/-- Takes an option that has no value. -/
def mark (draft : Draft) (flag : Flag) : Except UsageFault Draft := do
  let noted ← draft.note (.flag flag)
  let config ← raise draft.config flag
  return { noted with config }

end Draft

end Fleet
