import Fleet.Dispatch.Preparation

/-!
# Client programs

Instead of speaking to a host itself a run may start a local program for each, which does. Its
command line comes from a template: the words of the rendered template are the program and its first
arguments, and the command for the host is the last argument, as it stands.

A template that does not read the address of the host spares the run to look it up.
-/

namespace Fleet

namespace Address

/-- The address of a name. Here only numeric addresses are known. -/
def lookup (name : String) : Except DispatchError Address :=
  match parse? name with
  | some address => .ok address
  | none => .error (.resolution name (.reported
      "failed to lookup address information: Name or service not known"))

end Address

/-- A way to start a client program for a host. -/
structure Client where
  /-- The template of its command line. -/
  template : CommandTemplate
  /-- Whether one failed host ends the run for all. -/
  lockstep : Bool := false

namespace Client

/-- Reads the template of a client's command line. -/
def parse (source : String) (lockstep : Bool) : Except DispatchError Client := do
  let template ← CommandTemplate.parse source
  return { template, lockstep }

/-- What the template is told about a host. -/
def params (request : OpenRequest) : TemplateParams where
  host := request.host
  label := Host.label ⟨request.host, none⟩
  user := request.remoteUser
  rank := request.nodeIndex
  nhosts := request.nhosts
  address := request.address.map Address.display

/-- The command line for a host: the program, and its arguments with the command for the host as the
last one. A template that gives no words leaves the command itself as the program. -/
def commandLine (client : Client) (request : OpenRequest) :
    Except SpawnFault (String × List String) :=
  match client.template.render (params request) with
  | .error fault => .error (.template client.template.source fault)
  | .ok text =>
    match ShellWords.split? text with
    | none => .error .unclosedQuote
    | some [] => .ok (request.command, [])
    | some (program :: words) => .ok (program, words ++ [request.command])

/-- What the template is told to see whether it gives a command line at all. -/
def probe (options : Options) : TemplateParams where
  host := "localhost"
  label := "localhost"
  user := options.localUser
  rank := 0
  nhosts := 1
  address := some "127.0.0.1"

/-- Checks that the template gives a command line. -/
def init (client : Client) (options : Options) : Except DispatchError Unit :=
  let source := client.template.source
  match client.template.render (probe options) with
  | .error fault => .error (.template source fault)
  | .ok text =>
    match ShellWords.split? text with
    | none => .error (.init (.unclosedQuote source))
    | some [] => .error (.init (.emptyCommand source))
    | some _ => .ok ()

/-- The address of a host, where the template reads it. -/
def resolve (client : Client) (name : String) : Except DispatchError (Option Address) :=
  if client.template.usesAddress then (Address.lookup name).map some else .ok none

/-- The backend that starts a client for each host. What programs do is given: for what was asked
before, what is asked now, and the command line. -/
def backend (client : Client)
    (start : List OpenRequest → OpenRequest → String → List String → Attempt) : Backend where
  kind := .exec
  lockstep := client.lockstep
  init := client.init
  resolve := client.resolve
  attempt earlier request :=
    match client.commandLine request with
    | .error fault => { delay := some 0, opening := .refused (.spawn fault) }
    | .ok (program, words) => start earlier request program words

end Client

end Fleet
