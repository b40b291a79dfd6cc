import Fleet.Address
import Fleet.Template.Nesting
import Fleet.Template.Render

/-!
# Command templates

A command is a template over six parameters of the host it is for. A template that reads the address
makes it necessary to look the address up; whether it does is found out by rendering it with two
different addresses and without one.
-/

namespace Fleet

/-- What a template can refer to. -/
structure TemplateParams where
  /-- The name of the host. -/
  host : String
  label : String
  user : String
  /-- The place of the host among the targets. -/
  rank : Nat
  /-- The number of targets. -/
  nhosts : Nat
  /-- The address of the host, where it is known. -/
  address : Option String
  deriving Repr, DecidableEq

/-- The parameters as a record, in the order of their names. -/
def TemplateParams.toValue (params : TemplateParams) : Template.Value :=
  .fields
    [("address", (params.address.map .text).getD .null), ("host", .text params.host),
     ("label", .text params.label), ("nhosts", .int params.nhosts), ("rank", .int params.rank),
     ("user", .text params.user)]

structure CommandTemplate where
  source : String
  elements : List Template.Element

namespace CommandTemplate

/-- Reads a template. -/
def parse (source : String) : Except DispatchError CommandTemplate :=
  match Template.elements? source.toList with
  | some elements => .ok ⟨source, elements⟩
  | none => .error (.template source .malformed)

theorem parse_of_isSome {source : String}
    (read : (Template.elements? source.toList).isSome = true) :
    parse source = .ok ⟨source, (Template.elements? source.toList).get read⟩ := by
  unfold parse
  split
  · next elements found => simp only [found, Option.get_some]
  · next missing => rw [missing] at read; cases read

/-- The command for given parameters. -/
def render (template : CommandTemplate) (params : TemplateParams) :
    Except TemplateFault String :=
  (Template.renderAll (.ofRoot params.toValue) template.elements).map String.ofList

/-- The command for some host with an address or without one; none if there is no command. -/
def probe (template : CommandTemplate) (address : Option String) : Option String :=
  (template.render
    { host := "host", label := "host", user := "user", rank := 0, nhosts := 1, address }).toOption

/-- Whether the command depends on the address, as far as three probes show. -/
def usesAddress (template : CommandTemplate) : Bool :=
  template.probe (some "192.0.2.1") != template.probe (some "2001:db8::1")
    || template.probe (some "192.0.2.1") != template.probe none

end CommandTemplate

end Fleet
