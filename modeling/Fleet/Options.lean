import Fleet.Watchdog

/-!
# Settings of a run

What a run can be told besides its hosts and what to send them, and the names by which the
environment knows the user.
-/

namespace Fleet

/-- The settings of a run. -/
structure Options where
  /-- The most hosts handled at once. Zero means no limit. -/
  fanout : Nat := 32
  /-- The limits on connecting and executing. -/
  limits : Timeouts := ⟨10 * Time.second, 0⟩
  /-- Whether the second stream of a host goes to the second stream of the console. -/
  separateStderr : Bool := true
  /-- Whether lines are labelled with their host. -/
  displayLabels : Bool := true
  /-- Whether labels are coloured. -/
  colorLabels : Bool := false
  /-- Whether the first interrupt ends the run. -/
  batch : Bool := false
  /-- Whether the exit codes of the commands are wanted. -/
  maxRemoteStatus : Bool := false
  /-- Whether hosts that failed are dropped from the targets. -/
  dropFailed : Bool := false
  /-- Who we are here. -/
  localUser : String
  /-- Who we are to be on hosts that do not say otherwise. -/
  remoteUser : Option String := none
  deriving Repr, DecidableEq

namespace Options

/-- The most hosts handled at once among so many. -/
def fanoutLimit (options : Options) (targets : Nat) : Nat :=
  max 1 (if options.fanout = 0 then targets else min options.fanout targets)

/-- Who to be on a host: as the host says, else as the run says, else who we are here. -/
def userFor (options : Options) (host : Host) : String :=
  (host.user.or options.remoteUser).getD options.localUser

end Options

/-- The variables of an environment. -/
abbrev Environment := List (String × String)

namespace Environment

/-- The value of a variable. -/
def get? (env : Environment) (name : String) : Option String :=
  (env.find? fun binding => binding.1 == name).map Prod.snd

/-- The name of the user. -/
def localUser (env : Environment) : String :=
  ((env.get? "USER").or (env.get? "LOGNAME")).getD "root"

/-- Which log lines to keep, for a level of verbosity. The environment has the last word. -/
def logFilter (env : Environment) (verbosity : Nat) : String :=
  (env.get? "RUST_LOG").getD <| match verbosity with
    | 0 => "fanout_ssh=warn"
    | 1 => "fanout_ssh=info"
    | 2 => "fanout_ssh=debug"
    | _ => "fanout_ssh=trace,openssh=debug"

end Environment

end Fleet
