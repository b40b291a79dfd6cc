import Fleet.CommandTemplate
import Fleet.Dispatch.Lane
import Fleet.TargetList

/-!
# Preparing a run

Everything that can fail before a host is contacted is done first: the backend is made ready, the
template is read or the files to copy are listed, and then each host in turn gets its address and
its command. The first fault ends the preparation, so a run that begins has a lane for each target.

All this is done before there is any other task, so it is not taken apart into steps, and no time
passes. What an address lookup comes to is given by the backend. The colours of the labels are not
drawn here; they are given as well (`Dispatch.palettes`).
-/

namespace Fleet

/-- The files of a copy. -/
structure Shipment where
  /-- What is sent, in order. -/
  entries : List CopyEntry
  /-- Whether times are sent. -/
  preserve : Bool
  deriving Repr

/-- Where the commands of a run come from. -/
inductive CommandSource where
  | rendered (template : CommandTemplate)
  /-- All hosts get the same. -/
  | fixed (command : String)

namespace CommandSource

/-- The command for a host. A run that wants exit statuses has it followed by the report of one. -/
def command (source : CommandSource) (wantStatus : Bool) (params : TemplateParams) :
    Except DispatchError String :=
  match source with
  | fixed command => .ok command
  | rendered template =>
    match template.render params with
    | .error fault => .error (.template template.source fault)
    | .ok text => .ok (if wantStatus then ExitStatus.withProbe text else text)

end CommandSource

/-- A run that can begin. -/
structure Preparation where
  /-- One lane for each target, in order. -/
  lanes : List Lane
  /-- The files, where some are copied. -/
  shipment : Option Shipment

namespace Preparation

/-- What a command template is told about a target. -/
def params (options : Options) (nhosts rank : Nat) (host : Host) (address : Option Address) :
    TemplateParams where
  host := host.hostname
  label := host.label
  user := options.userFor host
  rank
  nhosts
  address := address.map Address.display

/-- The lane of a target. -/
def lane (backend : Backend) (options : Options) (source : CommandSource) (nhosts rank : Nat)
    (host : Host) : Except DispatchError Lane := do
  let address ← backend.resolve host.hostname
  let command ← source.command options.maxRemoteStatus (params options nhosts rank host address)
  return {
    record := {
      host
      address
      localUser := options.localUser
      remoteUser := options.userFor host
      kind := backend.kind
      nodeIndex := rank
      displayLabels := options.displayLabels }
    command }

/-- The lanes of the targets from a rank on. -/
def lanesFrom (backend : Backend) (options : Options) (source : CommandSource) (nhosts : Nat) :
    Nat → TargetList → Except DispatchError (List Lane)
  | _, [] => .ok []
  | rank, host :: rest => do
    let first ← lane backend options source nhosts rank host
    let later ← lanesFrom backend options source nhosts (rank + 1) rest
    return first :: later

/-- Where the commands come from and which files are sent. -/
def contents (fs : FileSystem) : Payload → Except DispatchError (CommandSource × Option Shipment)
  | .command source => do
    let template ← CommandTemplate.parse source
    return (.rendered template, none)
  | .copy spec => do
    let entries ← CopySpec.enumerate fs spec
    return (.fixed spec.sinkCommand, some ⟨entries, spec.preserve⟩)

/-- Prepares a run. -/
def make (backend : Backend) (options : Options) (fs : FileSystem) (payload : Payload)
    (targets : TargetList) : Except DispatchError Preparation := do
  if targets.isEmpty then throw .noHosts
  backend.init options
  let (source, shipment) ← contents fs payload
  let lanes ← lanesFrom backend options source targets.length 0 targets
  return ⟨lanes, shipment⟩

end Preparation

end Fleet
