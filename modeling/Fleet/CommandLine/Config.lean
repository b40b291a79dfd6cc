import Fleet.Copy.Listing
import Fleet.Options
import Fleet.TargetList

/-!
# What the command line says

A command line names hosts, settings, and one action: a command to run or files to copy. `Config` is
what it says; `Config.options` are the settings of the runs that follow from it.
-/

namespace Fleet

/-- What is to be done on every host. -/
inductive Action where
  /-- Run a command, given as words. -/
  | exec (words : List String)
  /-- Copy files. -/
  | copy (spec : CopySpec)
  deriving Repr, DecidableEq

/-- What a command line says. -/
structure Config where
  hosts : List String := []
  /-- A file that lists hosts. -/
  hostsFile : Option String := none
  /-- Lists of hosts to leave out, in order. -/
  exclude : List String := []
  /-- The most hosts handled at once. Zero means no limit. -/
  fanout : Nat := 32
  /-- Seconds for connecting. Zero means no limit. -/
  connectTimeout : Nat := 10
  /-- Seconds for executing. Zero means no limit. -/
  commandTimeout : Nat := 0
  user : Option String := none
  /-- The kind of backend. -/
  kind : ConnectionKind := .ssh
  /-- The template of a client's command line. -/
  clientTemplate : String := "ssh -oBatchMode=yes -l \x7b\x7buser\x7d\x7d \x7b\x7bhost\x7d\x7d"
  /-- Whether one failed host ends the run for all. -/
  lockstep : Bool := false
  /-- Whether to exit with the largest exit code. -/
  maxStatus : Bool := false
  /-- Whether output is shown without labels. -/
  noLabels : Bool := false
  /-- Whether the second stream of a host goes to the second stream of the console. -/
  separateStderr : Bool := false
  /-- Whether labels are coloured. -/
  color : Bool := false
  /-- Whether the first interrupt ends the run. -/
  batch : Bool := false
  /-- How many runs there are to be. -/
  passes : Nat := 1
  /-- Whether hosts that failed are left out of later runs. -/
  dropFailed : Bool := false
  /-- How much is logged. -/
  verbosity : Nat := 0
  deriving Repr, DecidableEq

namespace Config

/-- The settings of the runs. -/
def options (config : Config) (localUser : String) : Options where
  fanout := config.fanout
  limits := ⟨config.connectTimeout * Time.second, config.commandTimeout * Time.second⟩
  separateStderr := config.separateStderr
  displayLabels := !config.noLabels
  colorLabels := config.color
  batch := config.batch
  maxRemoteStatus := config.maxStatus
  dropFailed := config.dropFailed
  localUser
  remoteUser := config.user

/-- The names of the hosts to leave out. -/
def excluded (config : Config) : List String :=
  (config.exclude.flatMap parseHostList).map Host.hostname

/-- The targets: the hosts of the file, then those of the lists, without the hosts to leave out. -/
def targets (config : Config) (fromFile : List Host) : Except DispatchError TargetList :=
  let listed := fromFile ++ config.hosts.flatMap parseHostList
  match TargetList.exclude listed config.excluded with
  | [] => .error .noHosts
  | targets => .ok targets

end Config

/-- Why a command line cannot be followed, or need not. -/
inductive UsageFault where
  /-- There is nothing on it. -/
  | empty
  /-- No action is given. -/
  | missingAction
  /-- The action does not exist. -/
  | unknownAction
  /-- The action lacks something. -/
  | missingArgument
  /-- An option does not exist, or a word is one too many. -/
  | unknownArgument
  /-- An option lacks its value, or the value is none of those allowed. -/
  | invalidValue
  /-- A value is not a number, or too large. -/
  | malformedValue
  /-- What may be given once was given twice. -/
  | conflict
  /-- An option that takes no value was given one. -/
  | unwantedValue
  /-- Help is asked for. -/
  | help
  /-- The version is asked for. -/
  | version
  deriving Repr, DecidableEq

end Fleet
