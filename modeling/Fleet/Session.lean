import Fleet.Copy.Sender
import Fleet.ExitStatus
import Fleet.Options

/-!
# Sessions and backends

A backend opens one session for each host. What it will do is laid out as a plan: how long opening
takes, and then either a refusal or a session with its streams, its input, its way to be signalled
and its end. A plan may depend on all the requests that came before it.

Backends are given: none is defined here. What is left out: opening may crash its worker, and
nothing else does; the end of a session may be as late as one likes, but it comes; a signal reaches
a session or fails at once.

Plans speak of times that count from the moment they take effect.
-/

namespace Fleet

/-- Everything a backend is told when it is asked for a session. -/
structure OpenRequest where
  /-- The name of the host. -/
  host : String
  /-- Its address, where one was looked up. -/
  address : Option Address
  /-- Who we are here. -/
  localUser : String
  /-- Who we are to be there. -/
  remoteUser : String
  /-- The command to run there. -/
  command : String
  /-- The place of the host in the target list. -/
  nodeIndex : Nat
  /-- How many hosts the run has. -/
  nhosts : Nat
  /-- Whether the two output streams are kept apart. -/
  wantErrorChannel : Bool
  /-- Whether there will be input. -/
  wantInput : Bool
  deriving Repr, DecidableEq

/-- Results can be compared where errors and values can. -/
instance (priority := high) decidableEqExcept {ε α : Type} [DecidableEq ε] [DecidableEq α] :
    DecidableEq (Except ε α)
  | .ok a, .ok b => decidable_of_iff (a = b) ⟨congrArg _, Except.ok.inj⟩
  | .error e, .error e' => decidable_of_iff (e = e') ⟨congrArg _, Except.error.inj⟩
  | .ok _, .error _ => isFalse nofun
  | .error _, .ok _ => isFalse nofun

/-- How a session ends once its streams have. -/
structure SessionEnd where
  /-- How long that takes. -/
  delay : Time := 0
  /-- What is then known. -/
  outcome : Except HostError Termination := .ok .unknown
  deriving DecidableEq

/-- A session to come. -/
structure SessionPlan where
  /-- What it says. -/
  stdout : Source
  /-- What it says besides, where that is kept apart. -/
  stderr : Option Source := none
  /-- Whether it takes input, and how much of it where there is a limit. -/
  stdin : Option (Option Nat) := none
  /-- How to signal it. -/
  backchannel : Option Backchannel := none
  /-- How it ends. -/
  reap : SessionEnd := {}
  deriving DecidableEq

/-- What opening a session comes to. -/
inductive Opening where
  /-- There is none. -/
  | refused (e : HostError)
  /-- The worker that asked for it crashes. -/
  | crash
  | session (plan : SessionPlan)

/-- How opening a session goes: how long it takes, if it ever ends, and what comes of it. -/
structure Attempt where
  /-- How long it takes; none if it never ends. -/
  delay : Option Time
  /-- What comes of it. -/
  opening : Opening

/-- What opens the sessions of a run. -/
structure Backend where
  kind : ConnectionKind
  /-- Whether one failed host ends the run for all. -/
  lockstep : Bool := false
  /-- What has to be done before any host is contacted. -/
  init : Options → Except DispatchError Unit := fun _ => .ok ()
  /-- The address of a host, where the backend needs it. -/
  resolve : String → Except DispatchError (Option Address) := fun _ => .ok none
  /-- What it does when it is asked for a session, after the requests that came before. -/
  attempt : List OpenRequest → OpenRequest → Attempt

/-- What is sent to every host. -/
inductive Payload where
  /-- A command, as a template that is rendered for each host. -/
  | command (source : String)
  /-- Files. -/
  | copy (spec : CopySpec)
  deriving Repr, DecidableEq

/-- The copy that is to be made, where files are sent. -/
def Payload.copySpec? : Payload → Option CopySpec
  | command _ => none
  | copy spec => some spec

end Fleet
