import Fleet.Proofs.Isolation
import Fleet.Proofs.Launching

/-!
# What templates are told of a host

A template is told about a host in two places. The command of a run is rendered when the run is
prepared, from the targets, the settings and the address that was looked up. The command line of a
client program is rendered when a worker asks for a session, from what the backend is told then;
that comes from the record of the host, and the label is made once more, from the bare name.

**The law** (`Run.told_alike`): both are told the same. So a template gives the same text, or the
same fault, in both places, for every host and in every order of events.
-/

namespace Fleet

namespace Preparation

variable {backend : Backend} {options : Options} {source : CommandSource} {nhosts rank : Nat}
  {host : Host} {lane : Lane}

/-- What a client is told of a lane is what the command in it was made with. -/
theorem lane_params (made : Preparation.lane backend options source nhosts rank host = .ok lane)
    (setup : Setup) : ∃ address, backend.resolve host.hostname = .ok address ∧
      Client.params (setup.request nhosts lane) = params options nhosts rank host address ∧
      source.command options.maxRemoteStatus (params options nhosts rank host address)
        = .ok lane.command := by
  obtain ⟨address, resolved, made⟩ := andThen_eq_ok.mp made
  obtain ⟨command, rendered, made⟩ := andThen_eq_ok.mp made
  have made := Except.ok.inj made
  subst made
  exact ⟨address, resolved, rfl, rendered⟩

/-- A run with a command takes its commands from the template of that command. -/
theorem contents_command {fs : FileSystem} {text : String} {template : CommandTemplate}
    {shipment : Option Shipment} (taken : contents fs (.command text) = .ok (source, shipment))
    (parsed : CommandTemplate.parse text = .ok template) : source = .rendered template := by
  obtain ⟨other, reads, taken⟩ := andThen_eq_ok.mp taken
  obtain rfl := Except.ok.inj (reads.symm.trans parsed)
  exact (congrArg Prod.fst (Except.ok.inj taken)).symm

end Preparation

/-- The command of a run is what its template gives, followed by the report of a status where one is
wanted. -/
theorem CommandSource.command_rendered (template : CommandTemplate) (wantStatus : Bool)
    (params : TemplateParams) : (CommandSource.rendered template).command wantStatus params
      = ((template.render params).mapError (.template template.source)).map fun text =>
        if wantStatus then ExitStatus.withProbe text else text := by
  rw [command]
  cases template.render params <;> rfl

namespace Setup

variable {setup : Setup} {s s₀ : State} {past : List Moment} {dispatch : Dispatch}

/-- What the backend would be told of a host is the same all through a run. -/
theorem Run.request_kept (run : setup.Run s₀ past s) (starts : dispatch.Starts setup s₀) {i : Nat}
    {lane : Lane} (found : s.lanes[i]? = some lane) :
    ∃ first, s₀.lanes[i]? = some first ∧
      ∀ nhosts, setup.request nhosts lane = setup.request nhosts first := by
  induction run generalizing lane with
  | nil => exact ⟨lane, found, fun _ => rfl⟩
  | snoc run step ih =>
    obtain ⟨before, old, passage⟩ := (step?_step step).lane_before (run.orderly starts) found
    obtain ⟨first, there, same⟩ := ih old
    exact ⟨first, there, fun nhosts => (passage.request nhosts).trans (same nhosts)⟩

/-- **Both templates are told the same of a host**, in every state of every run: its name and its
label; the user, which is the host's own, else that of the run, else the one here; its place among
the targets, duplicates counted, and their number; and the address that was looked up for it. So a
template in the place of the command gives the text, or the fault, that it gives in the place of the
client's command line; and the command that is asked for is what the client's template would give if
it were the same, with the report of a status behind it where one is wanted. Whatever the backend
was told of the host is this. -/
theorem Run.told_alike (starts : dispatch.Starts setup s₀) (run : setup.Run s₀ past s) {i : Nat}
    {lane : Lane} (found : s.lanes[i]? = some lane) :
    ∃ host address, dispatch.targets[i]? = some host ∧
      dispatch.backend.resolve host.hostname = .ok address ∧
      let request := setup.request s.lanes.length lane
      Client.params request =
        { host := host.hostname
          label := host.label
          user := (host.user.or dispatch.options.remoteUser).getD dispatch.options.localUser
          rank := i
          nhosts := dispatch.targets.length
          address := address.map Address.display } ∧
      (∀ template : CommandTemplate,
        (CommandSource.rendered template).command false
          (Preparation.params dispatch.options dispatch.targets.length i host address)
            = (template.render (Client.params request)).mapError (.template template.source)) ∧
      (∀ source lockstep client, dispatch.payload = .command source →
        Client.parse source lockstep = .ok client →
          ∃ text, client.template.render (Client.params request) = .ok text ∧
            request.command
              = if dispatch.options.maxRemoteStatus then ExitStatus.withProbe text else text) ∧
      ∀ opened ∈ s.opens, opened.request.nodeIndex = i → opened.request = request := by
  obtain ⟨first, there, same⟩ := run.request_kept starts found
  have request : setup.request s.lanes.length lane
      = setup.request dispatch.targets.length first := by
    rw [same, run.length, starts.length]
  obtain ⟨preparation, prepared⟩ : ∃ preparation : Preparation,
      Preparation.make dispatch.backend dispatch.options dispatch.fs dispatch.payload
        dispatch.targets = .ok preparation ∧ preparation.lanes = s₀.lanes := by
    obtain ⟨prepared⟩ := starts
    exact ⟨_, prepared, rfl⟩
  obtain ⟨-, source, taken, listed⟩ := Preparation.make_lanes prepared.1
  obtain ⟨host, target, made⟩ := Preparation.lanesFrom_getElem? listed (prepared.2 ▸ there)
  rw [Nat.zero_add] at made
  obtain ⟨address, resolved, told, rendered⟩ := Preparation.lane_params made setup
  refine ⟨host, address, target, resolved, ?_⟩
  rw [request]
  refine ⟨told, fun template => ?_, fun text lockstep client sends parsed => ?_, ?_⟩
  · rw [CommandSource.command_rendered, ← told]
    cases template.render _ <;> rfl
  · obtain ⟨template, reads, parsed⟩ := andThen_eq_ok.mp parsed
    obtain rfl := Except.ok.inj parsed
    rw [sends] at taken
    rw [Preparation.contents_command taken reads, CommandSource.command_rendered, ← told]
      at rendered
    cases outcome : template.render (Client.params (setup.request dispatch.targets.length first))
    with
    | error fault =>
      rw [outcome] at rendered
      cases rendered
    | ok text =>
      rw [outcome] at rendered
      exact ⟨text, rfl, (Except.ok.inj rendered).symm⟩
  · intro opened among place
    obtain ⟨other, here, asked⟩ := run.opened starts among
    rw [place, found] at here
    obtain rfl := Option.some.inj here
    rw [← asked, request]

/-- A template that shows who is told to be where. -/
def whoWhere : String :=
  "\x7b\x7buser\x7d\x7d@\x7b\x7blabel\x7d\x7d "
    ++ "\x7b\x7brank\x7d\x7d/\x7b\x7bnhosts\x7d\x7d \x7b\x7baddress\x7d\x7d"

/-- Three hosts, two of them with one name, the first of these with a user of its own; addresses are
looked up, and there is a user of the run. -/
def threeUsers : Dispatch where
  backend := {
    kind := .exec
    resolve := fun name => .ok (if name = "n1.x" then some (.v4 [10, 0, 0, 5]) else none)
    attempt := fun _ _ => ⟨some 0, .crash⟩ }
  options := { localUser := "me", remoteUser := some "ops" }
  fs := ⟨.special, []⟩
  targets := [⟨"n1.x", some "alice"⟩, ⟨"10.0.0.7", none⟩, ⟨"n1.x", none⟩]
  payload := .command whoWhere

/-- The third host is asked for with the user of the run, in its own place, and with its address. -/
theorem Run.told_alike_threeUsers : ∃ setup s₀ lane client, threeUsers.Starts setup s₀ ∧
    s₀.lanes[2]? = some lane ∧ Client.parse whoWhere false = .ok client ∧
    client.template.render (Client.params (setup.request s₀.lanes.length lane))
      = .ok "ops@n1 2/3 10.0.0.5" ∧
    (setup.request s₀.lanes.length lane).command = "ops@n1 2/3 10.0.0.5" := by
  have eq_ok {ε α : Type} {outcome : Except ε α} (good : outcome.toOption.isSome = true) :
      ∃ a, outcome = .ok a := by
    cases outcome with
    | error => cases good
    | ok a => exact ⟨a, rfl⟩
  obtain ⟨preparation, prepared⟩ : ∃ preparation,
      Preparation.make threeUsers.backend threeUsers.options threeUsers.fs threeUsers.payload
        threeUsers.targets = .ok preparation := eq_ok (by decide +kernel)
  have starts := Dispatch.Starts.intro prepared
  have parsed := @Client.parse_of_isSome whoWhere false (by decide +kernel)
  obtain ⟨lane, found⟩ : ∃ lane, preparation.lanes[2]? = some lane := by
    refine ⟨_, List.getElem?_eq_getElem ?_⟩
    rw [show preparation.lanes.length = 3 from starts.length]
    decide
  obtain ⟨host, address, target, resolved, told, -, commanded, -⟩ :=
    told_alike starts starts.run found
  obtain rfl := Option.some.inj target
  obtain rfl := Except.ok.inj resolved
  obtain ⟨text, rendered, command⟩ := commanded whoWhere false _ rfl parsed
  obtain rfl : text = "ops@n1 2/3 10.0.0.5" := by
    rw [told] at rendered
    exact Option.some.inj ((congrArg Except.toOption rendered).symm.trans (by decide +kernel))
  exact ⟨_, _, lane, _, starts, found, parsed, rendered, command⟩

end Setup

end Fleet
