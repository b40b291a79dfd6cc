import Fleet.Client

/-!
# What a template makes of the address

Whether a template needs the address of a host is found out by samples: it is rendered for one
made-up host with two addresses and without one. The samples see what this one rendering comes to,
and no part of the template that is rendered for other hosts only.

**The law** (`CommandTemplate.usesAddress_sound`): a template that nowhere reads the address is not
taken to use it, and is rendered the same with every address and without one. Where the address is
printed at most, and decides nothing, a rendering is a text with places in it for the address
(`Element.outlined`); so two addresses of different lengths show whether there is such a place for
the host at hand, and for no other.
-/

namespace Fleet

namespace Template

/-! ## Reading the address -/

/-- Whether a path may lead to the address: to the record that holds it, or further by its name. -/
def Path.readsAddress (way : Path) : Bool :=
  !way.isVariable && way.names.head?.all (· == "address")

mutual

/-- Whether the value of an expression may depend on the address. What a call is told under names
has no part in it. -/
def Expr.readsAddress : Expr → Bool
  | .literal _ => false
  | .path way => way.readsAddress
  | .call _ arguments _ => Expr.anyReadsAddress arguments

def Expr.anyReadsAddress : List Expr → Bool
  | [] => false
  | e :: es => e.readsAddress || Expr.anyReadsAddress es

end

/-- Whether what a block does may depend on the address. -/
def Head.readsAddress (head : Head) : Bool :=
  Expr.anyReadsAddress head.arguments || head.named.any fun entry => entry.2.readsAddress

mutual

/-- Whether an element reads the address, wherever in it. -/
def Element.readsAddress : Element → Bool
  | .text _ | .inclusion _ => false
  | .print e => e.readsAddress
  | .block head body inverse =>
    head.readsAddress || anyReadsAddress body || inverseReadsAddress inverse

def anyReadsAddress : List Element → Bool
  | [] => false
  | e :: es => e.readsAddress || anyReadsAddress es

def inverseReadsAddress : Option (List Element) → Bool
  | none => false
  | some es => anyReadsAddress es

end

/-! ## Two renderings that differ in the address -/

variable {params : TemplateParams} {inner : List Level} {a b : Option String}

/-- The parameters of a host, with some address or none. -/
def recordOf (params : TemplateParams) (address : Option String) : Value :=
  { params with address }.toValue

/-- Inside so many levels of a template for a host with some address or none. -/
def scopeOf (params : TemplateParams) (inner : List Level) (address : Option String) : Scope :=
  ⟨recordOf params address, inner ++ [{ value := recordOf params address }]⟩

theorem get?_recordOf {name : String} (other : (name == "address") = false) :
    (recordOf params a).get? name = (recordOf params b).get? name := by
  have passed (value : Value) (rest : List (String × Value)) :
      (("address", value) :: rest).find? (fun entry => entry.1 == name)
        = rest.find? fun entry => entry.1 == name := by
    refine List.find?_cons_of_neg ?_
    rw [Bool.beq_comm] at other
    rw [other]
    exact Bool.false_ne_true
  simp only [recordOf, TemplateParams.toValue, Value.get?, passed]

theorem follow?_recordOf {names : List String} (other : names.head?.all (· == "address") = false) :
    (recordOf params a).follow? names = (recordOf params b).follow? names := by
  cases names with
  | nil => cases other
  | cons name names => rw [Value.follow?, Value.follow?, get?_recordOf other]

theorem follow?_here {names : List String} (other : names.head?.all (· == "address") = false) :
    (scopeOf params inner a).here.follow? names = (scopeOf params inner b).here.follow? names := by
  cases inner with
  | nil => exact follow?_recordOf other
  | cons level _ => rfl

/-- What stands on the level of a block is the same for all addresses; the record of the host stands
around all blocks. -/
theorem follow?_level {names : List String} (other : names.head?.all (· == "address") = false)
    (up : Nat) :
    (((scopeOf params inner a).levels[up]?.map Level.value).getD
        (scopeOf params inner a).here).follow? names
      = (((scopeOf params inner b).levels[up]?.map Level.value).getD
        (scopeOf params inner b).here).follow? names := by
  rcases Nat.lt_trichotomy up inner.length with inside | rfl | beyond
  · simp only [scopeOf, List.getElem?_append_left inside, List.getElem?_eq_getElem inside,
      Option.map_some, Option.getD_some]
  · simp only [scopeOf, List.getElem?_concat_length, Option.map_some, Option.getD_some]
    exact follow?_recordOf other
  · have none_there (address : Option String) : (scopeOf params inner address).levels[up]? = none :=
      List.getElem?_eq_none (by rw [scopeOf, List.length_append, List.length_singleton]; omega)
    rw [none_there, none_there]
    exact follow?_here other

theorem given?_scopeOf (name : String) :
    (scopeOf params inner a).given? name = (scopeOf params inner b).given? name := by
  simp only [Scope.given?, scopeOf, List.findSome?_append]
  rfl

theorem find?_scopeOf {way : Path} (blind : way.readsAddress = false) :
    (scopeOf params inner a).find? way = (scopeOf params inner b).find? way := by
  unfold Scope.find?
  split
  · cases inner <;> rfl
  · next named =>
    have other : way.names.head?.all (· == "address") = false := by
      simpa [Path.readsAddress, named] using blind
    split
    · exact follow?_recordOf other
    · split
      · exact follow?_level other way.up
      · cases names : way.names with
        | nil => rw [names] at other; cases other
        | cons name rest =>
          rw [names] at other
          simp only [given?_scopeOf (a := a) (b := b) name, follow?_here (a := a) (b := b) other]

mutual

theorem Expr.value_scopeOf : (e : Expr) → e.readsAddress = false →
    e.value (scopeOf params inner a) = e.value (scopeOf params inner b)
  | .literal _, _ => rfl
  | .path way, blind => by
    rw [Expr.value, Expr.value, find?_scopeOf blind]
  | .call helper arguments named, blind => by
    rw [Expr.value, Expr.value, Expr.values_scopeOf arguments blind]

theorem Expr.values_scopeOf : (es : List Expr) → Expr.anyReadsAddress es = false →
    Expr.values (scopeOf params inner a) es = Expr.values (scopeOf params inner b) es
  | [], _ => rfl
  | e :: es, blind => by
    obtain ⟨first, rest⟩ := Bool.or_eq_false_iff.mp blind
    rw [Expr.values, Expr.values, Expr.value_scopeOf e first, Expr.values_scopeOf es rest]

end

theorem Expr.print_scopeOf {e : Expr} (blind : e.readsAddress = false) :
    e.print (scopeOf params inner a) = e.print (scopeOf params inner b) := by
  cases e with
  | path way =>
    simp only [Expr.print, find?_scopeOf (a := a) (b := b) blind]
    rfl
  | _ => simp only [Expr.print, Expr.value_scopeOf (a := a) (b := b) _ blind]

theorem zeroIsTrue_scopeOf {head : Head} (blind : head.readsAddress = false) :
    zeroIsTrue (scopeOf params inner a) head = zeroIsTrue (scopeOf params inner b) head := by
  unfold zeroIsTrue
  cases found : head.named.find? fun entry => entry.1 == "includeZero" with
  | none => rfl
  | some entry =>
    have unread := List.any_eq_false.mp (Bool.or_eq_false_iff.mp blind).2 entry
      (List.mem_of_find?_eq_some found)
    simp only [Expr.value_scopeOf (a := a) (b := b) entry.2 (Bool.eq_false_iff.mpr unread)]

mutual

theorem Element.render_scopeOf : (e : Element) → (inner : List Level) → e.readsAddress = false →
    e.render (scopeOf params inner a) = e.render (scopeOf params inner b)
  | .text _, _, _ | .inclusion _, _, _ => by rw [Element.render, Element.render]
  | .print e, _, blind => by
    rw [Element.render, Element.render, Expr.print_scopeOf blind]
  | .block head body inverse, inner, blind => by
    obtain ⟨blind, second⟩ := Bool.or_eq_false_iff.mp blind
    obtain ⟨heading, first⟩ := Bool.or_eq_false_iff.mp blind
    have arguments := (Bool.or_eq_false_iff.mp heading).1
    have call : (Expr.call head.helper head.arguments head.named).readsAddress = false := arguments
    have here : renderAll (scopeOf params inner a) body = renderAll (scopeOf params inner b) body :=
      renderAll_scopeOf body inner first
    have otherwise : renderInverse (scopeOf params inner a) inverse
        = renderInverse (scopeOf params inner b) inverse :=
      renderInverse_scopeOf inverse inner second
    have within (level : Level) :
        renderAll ((scopeOf params inner a).enter level) body
          = renderAll ((scopeOf params inner b).enter level) body :=
      renderAll_scopeOf body (level :: inner) first
    rw [Element.render, Element.render]
    simp only [Expr.values_scopeOf (a := a) (b := b) _ arguments,
      Expr.value_scopeOf (a := a) (b := b) _ call, zeroIsTrue_scopeOf (a := a) (b := b) heading,
      here, otherwise, within]

theorem renderAll_scopeOf : (es : List Element) → (inner : List Level) →
    anyReadsAddress es = false →
      renderAll (scopeOf params inner a) es = renderAll (scopeOf params inner b) es
  | [], _, _ => by rw [renderAll, renderAll]
  | e :: es, inner, blind => by
    obtain ⟨first, rest⟩ := Bool.or_eq_false_iff.mp blind
    rw [renderAll, renderAll, Element.render_scopeOf e inner first,
      renderAll_scopeOf es inner rest]

theorem renderInverse_scopeOf : (inverse : Option (List Element)) → (inner : List Level) →
    inverseReadsAddress inverse = false →
      renderInverse (scopeOf params inner a) inverse
        = renderInverse (scopeOf params inner b) inverse
  | none, _, _ => by rw [renderInverse, renderInverse]
  | some es, inner, blind => by
    rw [renderInverse, renderInverse, renderAll_scopeOf es inner blind]

end

/-! ## Where the address is printed at most -/

mutual

/-- Whether the address is printed at most: no condition reads it and nothing is computed from it,
and no other levels are opened around the places where it is printed. -/
def Element.onlyPrints : Element → Bool
  | .text _ | .inclusion _ | .print (.path _) => true
  | .print e => !e.readsAddress
  | .block head body inverse =>
    match Chooser.ofName? head.helper with
    | some .ifTrue | some .unlessTrue | some .verbatim =>
      !head.readsAddress && onlyPrintAll body && onlyPrintInverse inverse
    | _ => !(Element.block head body inverse).readsAddress

def onlyPrintAll : List Element → Bool
  | [] => true
  | e :: es => e.onlyPrints && onlyPrintAll es

def onlyPrintInverse : Option (List Element) → Bool
  | none => true
  | some es => onlyPrintAll es

end

/-- The text with the address in each place that is left for it. -/
def fill (address : Option String) (outline : List (Option Char)) : List Char :=
  outline.flatMap fun place => place.elim (address.getD "").toList fun c => [c]

/-- What is written is a text with places for the address, or fails; which one of them and where the
places are is the same for all addresses. -/
def Outlined (write : Option String → Except TemplateFault (List Char)) : Prop :=
  ∃ outline : Except TemplateFault (List (Option Char)),
    ∀ address, write address = outline.map (fill address)

theorem fill_append (address : Option String) (xs ys : List (Option Char)) :
    fill address (xs ++ ys) = fill address xs ++ fill address ys := List.flatMap_append

theorem fill_map_some (address : Option String) (cs : List Char) :
    fill address (cs.map some) = cs := by
  rw [fill, List.flatMap_map]
  exact List.flatMap_singleton' cs

namespace Outlined

variable {f g : Option String → Except TemplateFault (List Char)}

theorem congr (outlined : Outlined g) (same : ∀ address, f address = g address) : Outlined f :=
  outlined.imp fun _ written address => (same address).trans (written address)

theorem const (outcome : Except TemplateFault (List Char)) : Outlined fun _ => outcome := by
  refine ⟨outcome.map (List.map some), fun address => ?_⟩
  cases outcome with
  | error e => rfl
  | ok cs => exact congrArg Except.ok (fill_map_some address cs).symm

theorem of_eq (same : ∀ a b, f a = f b) : Outlined f := (const (f none)).congr fun a => same a none

theorem address : Outlined fun address => .ok (address.getD "").toList :=
  ⟨.ok [none], fun _ => congrArg Except.ok (List.append_nil _).symm⟩

theorem append (first : Outlined f) (rest : Outlined g) :
    Outlined fun address => (do
      let x ← f address
      let y ← g address
      .ok (x ++ y)) := by
  obtain ⟨xs, first⟩ := first
  obtain ⟨ys, rest⟩ := rest
  refine ⟨do let x ← xs; let y ← ys; .ok (x ++ y), fun address => ?_⟩
  simp only [first, rest]
  cases xs with
  | error e => rfl
  | ok x =>
    cases ys with
    | error e => rfl
    | ok y => exact congrArg Except.ok (fill_append address x y).symm

theorem ite (first : Outlined f) (second : Outlined g) (holds : Bool) :
    Outlined fun address => if holds = true then f address else g address := by
  cases holds with
  | true => exact first
  | false => exact second

end Outlined

theorem find?_outermost {way : Path} (named : way.isVariable = false) (address : Option String) :
    (scopeOf params [] address).find? way = (recordOf params address).follow? way.names := by
  unfold Scope.find?
  rw [named]
  cases way.fromRoot with
  | true => rfl
  | false =>
    cases way.up with
    | zero => cases way.names <;> rfl
    | succ up => cases up <;> rfl

/-- A value printed outside of all blocks is that of the address, or does not depend on it. -/
theorem Expr.print_outlined (way : Path) :
    Outlined fun address => (Expr.path way).print (scopeOf params [] address) := by
  cases reads : way.readsAddress with
  | false => exact .of_eq fun a b => Expr.print_scopeOf (e := .path way) reads
  | true =>
    obtain ⟨named, whole⟩ := Bool.and_eq_true_iff.mp reads
    have named : way.isVariable = false := by simpa using named
    by_cases calls : isHelper way.source = true
    · have called (a b : Option String) :
          (Expr.path way).print (scopeOf params [] a)
            = (Expr.path way).print (scopeOf params [] b) := by
        rw [Expr.print, Expr.print, if_pos calls, if_pos calls]
        exact congrArg _ (Expr.value_scopeOf _ rfl)
      exact .of_eq called
    · have printed (address : Option String) :
          (Expr.path way).print (scopeOf params [] address) = .ok
            (((recordOf params address).follow? way.names).map Value.write |>.getD "").toList := by
        rw [Expr.print, if_neg calls, find?_outermost named]
      cases names : way.names with
      | nil =>
        refine (Outlined.const (.ok "[object]".toList)).congr fun address => ?_
        rw [printed, names]
        rfl
      | cons name rest =>
        rw [names] at whole
        obtain rfl : name = "address" := beq_iff_eq.mp whole
        cases rest with
        | nil =>
          refine Outlined.address.congr fun address => ?_
          rw [printed, names]
          cases address <;> rfl
        | cons further rest =>
          refine (Outlined.const (.ok [])).congr fun address => ?_
          rw [printed, names]
          cases address <;> rfl

/-- A block that stays on its level and does not read the address chooses the same part for all
addresses. -/
theorem Element.block_outlined {head : Head} {body : List Element} {inverse : Option (List Element)}
    (chosen : Chooser.ofName? head.helper = some .ifTrue ∨
      Chooser.ofName? head.helper = some .unlessTrue ∨ Chooser.ofName? head.helper = some .verbatim)
    (blind : head.readsAddress = false)
    (first : Outlined fun address => renderAll (scopeOf params [] address) body)
    (second : Outlined fun address => renderInverse (scopeOf params [] address) inverse) :
    Outlined fun address =>
      (Element.block head body inverse).render (scopeOf params [] address) := by
  have arguments := (Bool.or_eq_false_iff.mp blind).1
  have zero (address : Option String) : zeroIsTrue (scopeOf params [] address) head
      = zeroIsTrue (scopeOf params [] none) head := zeroIsTrue_scopeOf blind
  have values (address : Option String) : Expr.values (scopeOf params [] address) head.arguments
      = Expr.values (scopeOf params [] none) head.arguments :=
    Expr.values_scopeOf head.arguments arguments
  cases known : Expr.values (scopeOf params [] none) head.arguments with
  | error e =>
    refine (Outlined.const (.error e)).congr fun address => ?_
    rw [Element.render, values, known]
    rfl
  | ok vs =>
    rcases chosen with chosen | chosen | chosen
    · cases vs with
      | nil =>
        refine (Outlined.const (.error (.helper head.helper))).congr fun address => ?_
        rw [Element.render, values, known, chosen]
        rfl
      | cons value _ =>
        refine (first.ite second (value.isTruthy (zeroIsTrue (scopeOf params [] none) head))).congr
          fun address => ?_
        rw [Element.render, values, known, chosen, ← zero address]
        rfl
    · cases vs with
      | nil =>
        refine (Outlined.const (.error (.helper head.helper))).congr fun address => ?_
        rw [Element.render, values, known, chosen]
        rfl
      | cons value _ =>
        refine (second.ite first (value.isTruthy (zeroIsTrue (scopeOf params [] none) head))).congr
          fun address => ?_
        rw [Element.render, values, known, chosen, ← zero address]
        rfl
    · refine first.congr fun address => ?_
      rw [Element.render, values, known, chosen]
      rfl

mutual

/-- **Where the address is printed at most, a rendering is a text with places for it.** -/
theorem Element.outlined : (e : Element) → e.onlyPrints = true →
    Outlined fun address => e.render (scopeOf params [] address)
  | .text cs, _ => (Outlined.const (.ok cs)).congr fun _ => by rw [Element.render]
  | .inclusion name, _ =>
    .of_eq fun _ _ => Element.render_scopeOf (.inclusion name) [] rfl
  | .print (.path way), _ => (Expr.print_outlined way).congr fun _ => by rw [Element.render]
  | .print (.literal value), _ =>
    .of_eq fun _ _ => Element.render_scopeOf (.print (.literal value)) [] rfl
  | .print (.call helper arguments named), only =>
    .of_eq fun _ _ => Element.render_scopeOf (.print (.call helper arguments named)) []
      (Bool.not_eq_true' _ ▸ only)
  | .block head body inverse, only => by
    have stays (chosen : Chooser.ofName? head.helper = some .ifTrue ∨
          Chooser.ofName? head.helper = some .unlessTrue ∨
          Chooser.ofName? head.helper = some .verbatim)
        (only : (!head.readsAddress && onlyPrintAll body && onlyPrintInverse inverse) = true) :
        Outlined fun address =>
          (Element.block head body inverse).render (scopeOf params [] address) := by
      obtain ⟨parts, second⟩ := Bool.and_eq_true_iff.mp only
      obtain ⟨blind, first⟩ := Bool.and_eq_true_iff.mp parts
      exact Element.block_outlined chosen (Bool.not_eq_true' _ ▸ blind)
        (renderAll_outlined body first) (renderInverse_outlined inverse second)
    rw [Element.onlyPrints] at only
    split at only
    · next chosen => exact stays (.inl chosen) only
    · next chosen => exact stays (.inr (.inl chosen)) only
    · next chosen => exact stays (.inr (.inr chosen)) only
    · exact .of_eq fun _ _ => Element.render_scopeOf (.block head body inverse) []
        (Bool.not_eq_true' _ ▸ only)

theorem renderAll_outlined : (es : List Element) → onlyPrintAll es = true →
    Outlined fun address => renderAll (scopeOf params [] address) es
  | [], _ => (Outlined.const (.ok [])).congr fun _ => by rw [renderAll]
  | e :: es, only => by
    obtain ⟨first, rest⟩ := Bool.and_eq_true_iff.mp only
    exact ((Element.outlined e first).append (renderAll_outlined es rest)).congr fun _ => by
      rw [renderAll]

theorem renderInverse_outlined : (inverse : Option (List Element)) →
    onlyPrintInverse inverse = true →
      Outlined fun address => renderInverse (scopeOf params [] address) inverse
  | none, _ => (Outlined.const (.ok [])).congr fun _ => by rw [renderInverse]
  | some es, only => (renderAll_outlined es only).congr fun _ => by rw [renderInverse]

end

/-! ### Two addresses of different lengths -/

theorem length_fill (address : Option String) (outline : List (Option Char)) :
    (fill address outline).length
      = outline.countP Option.isSome + outline.count none * (address.getD "").length := by
  induction outline with
  | nil => simp [fill]
  | cons place outline ih =>
    have cons : fill address (place :: outline)
        = place.elim (address.getD "").toList (fun c => [c]) ++ fill address outline := rfl
    cases place with
    | none =>
      rw [cons, List.length_append, ih, List.countP_cons_of_neg (by simp), List.count_cons_self,
        Option.elim_none, String.length_toList, Nat.succ_mul]
      omega
    | some c =>
      rw [cons, List.length_append, ih, List.countP_cons_of_pos (by simp),
        List.count_cons_of_ne (by simp), Option.elim_some, List.length_singleton]
      omega

theorem fill_of_count_eq_zero {outline : List (Option Char)} (full : outline.count none = 0)
    (a b : Option String) : fill a outline = fill b outline := by
  rw [fill, fill, List.flatMap_def, List.flatMap_def]
  refine congrArg List.flatten (List.map_congr_left fun place among => ?_)
  cases place with
  | none => exact absurd among (List.count_eq_zero.mp full)
  | some c => rfl

namespace Outlined

variable {f : Option String → Except TemplateFault (List Char)} {short long : String}

/-- **Two addresses of different lengths tell**: what is written does not depend on the address, or
it is longer for the longer one. -/
theorem eq_or_lt (outlined : Outlined f) (longer : short.length < long.length) :
    (∀ a b, f a = f b) ∨ ∃ x y, f (some short) = .ok x ∧ f (some long) = .ok y ∧
      x.length < y.length := by
  obtain ⟨outline, written⟩ := outlined
  cases outline with
  | error e => exact .inl fun a b => (written a).trans (written b).symm
  | ok outline =>
    rcases Nat.eq_zero_or_pos (outline.count none) with full | places
    · refine .inl fun a b => (written a).trans (.trans ?_ (written b).symm)
      exact congrArg Except.ok (fill_of_count_eq_zero full a b)
    · refine .inr ⟨_, _, written _, written _, ?_⟩
      rw [length_fill, length_fill]
      exact Nat.add_lt_add_left (Nat.mul_lt_mul_of_pos_left longer places) _

theorem le {x : List Char} (outlined : Outlined f) (longer : short.length < long.length)
    (written : f (some short) = .ok x) : ∃ y, f (some long) = .ok y ∧ x.length ≤ y.length := by
  rcases outlined.eq_or_lt longer with same | ⟨x', y, before, after, more⟩
  · exact ⟨x, (same _ _).trans written, Nat.le_refl _⟩
  · cases written.symm.trans before
    exact ⟨y, after, Nat.le_of_lt more⟩

end Outlined

/-- Whether an element is the address, printed. -/
def Element.isAddress : Element → Bool
  | .print (.path way) => !way.isVariable && way.names == ["address"] && !isHelper way.source
  | _ => false

theorem Element.render_isAddress {e : Element} (shown : e.isAddress = true)
    (address : Option String) :
    e.render (scopeOf params [] address) = .ok (address.getD "").toList := by
  unfold Element.isAddress at shown
  split at shown
  · next way =>
    obtain ⟨⟨named, names⟩, plain⟩ := (Bool.and_eq_true_iff.mp shown).imp_left
      Bool.and_eq_true_iff.mp
    rw [Bool.not_eq_true'] at named plain
    rw [Element.render, Expr.print, if_neg (Bool.eq_false_iff.mp plain), find?_outermost named,
      beq_iff_eq.mp names]
    cases address <;> rfl
  · cases shown

/-- A rendering in which the address is printed outside of all blocks is longer for a longer one. -/
theorem renderAll_lt {es : List Element} {short long : String} {x : List Char}
    (longer : short.length < long.length) (only : onlyPrintAll es = true)
    (shown : es.any Element.isAddress = true)
    (written : renderAll (scopeOf params [] (some short)) es = .ok x) :
    ∃ y, renderAll (scopeOf params [] (some long)) es = .ok y ∧ x.length < y.length := by
  induction es generalizing x with
  | nil => cases shown
  | cons e es ih =>
    obtain ⟨one, others⟩ := Bool.and_eq_true_iff.mp only
    rw [renderAll] at written
    cases first : e.render (scopeOf params [] (some short)) with
    | error fault => rw [first] at written; cases written
    | ok x₁ =>
      cases rest : renderAll (scopeOf params [] (some short)) es with
      | error fault => rw [first, rest] at written; cases written
      | ok x₂ =>
        rw [first, rest] at written
        cases written
        obtain ⟨y₁, first', grown⟩ := (Element.outlined e one).le longer first
        obtain ⟨y₂, rest', grown'⟩ := (renderAll_outlined es others).le longer rest
        have written : renderAll (scopeOf params [] (some long)) (e :: es) = .ok (y₁ ++ y₂) := by
          rw [renderAll, first', rest']
          rfl
        refine ⟨y₁ ++ y₂, written, ?_⟩
        rw [List.length_append, List.length_append]
        rcases Bool.or_eq_true_iff.mp shown with here | later
        · cases first.symm.trans (Element.render_isAddress here (some short))
          cases first'.symm.trans (Element.render_isAddress here (some long))
          rw [Option.getD_some, Option.getD_some, String.length_toList, String.length_toList]
          omega
        · obtain ⟨y, again, more⟩ := ih others later rest
          cases again.symm.trans rest'
          omega

end Template

namespace CommandTemplate

open Template

/-- The made-up host for which the samples are rendered. -/
def sample : TemplateParams :=
  { host := "host", label := "host", user := "user", rank := 0, nhosts := 1, address := none }

/-- Whether the template reads the address, wherever in it. -/
def readsAddress (template : CommandTemplate) : Bool := anyReadsAddress template.elements

/-- Whether the address is printed by the template at most. -/
def onlyPrints (template : CommandTemplate) : Bool := onlyPrintAll template.elements

/-- Whether the template prints the address for every host. -/
def printsAddress (template : CommandTemplate) : Bool := template.elements.any Element.isAddress

variable {template : CommandTemplate} {params : TemplateParams} {a b : Option String}

theorem render_of_blind (blind : template.readsAddress = false) :
    template.render { params with address := a } = template.render { params with address := b } :=
  congrArg (Except.map String.ofList) (renderAll_scopeOf template.elements [] blind)

theorem usesAddress_eq_false_iff : template.usesAddress = false ↔
    template.probe (some "192.0.2.1") = template.probe (some "2001:db8::1") ∧
      template.probe (some "192.0.2.1") = template.probe none := by
  simp [usesAddress]

theorem usesAddress_of_same (same : ∀ a b, template.render { sample with address := a }
    = template.render { sample with address := b }) : template.usesAddress = false :=
  usesAddress_eq_false_iff.mpr
    ⟨congrArg Except.toOption (same _ _), congrArg Except.toOption (same _ _)⟩

/-- **Two addresses show for the host at hand whether a template that prints the address at most
prints it.** -/
theorem render_eq_of_sampled {short long : String} (longer : short.length < long.length)
    (only : template.onlyPrints = true)
    (same : (template.render { params with address := some short }).toOption
      = (template.render { params with address := some long }).toOption) (a b : Option String) :
    template.render { params with address := a }
      = template.render { params with address := b } := by
  have outlined : Outlined fun address => renderAll (scopeOf params [] address) template.elements :=
    renderAll_outlined template.elements only
  rcases outlined.eq_or_lt longer with constant | ⟨x, y, before, after, more⟩
  · exact congrArg (Except.map String.ofList) (constant a b)
  · have before : template.render { params with address := some short } = .ok (.ofList x) :=
      congrArg (Except.map String.ofList) before
    have after : template.render { params with address := some long } = .ok (.ofList y) :=
      congrArg (Except.map String.ofList) after
    rw [before, after] at same
    obtain rfl : x = y := String.ofList_injective (Option.some.inj same)
    exact absurd more (Nat.lt_irrefl _)

theorem usesAddress_of_printsAddress (only : template.onlyPrints = true)
    (shown : template.printsAddress = true) (written : template.probe (some "192.0.2.1") ≠ none) :
    template.usesAddress = true := by
  refine eq_true_of_ne_false fun unused => ?_
  have same := (usesAddress_eq_false_iff.mp unused).1
  have probe {address : Option String} {x : List Char}
      (rendered : renderAll (scopeOf sample [] address) template.elements = .ok x) :
      template.probe address = some (.ofList x) :=
    congrArg (fun outcome => (outcome.map String.ofList).toOption) rendered
  cases before : renderAll (scopeOf sample [] (some "192.0.2.1")) template.elements with
  | error e =>
    exact absurd (congrArg (fun outcome => (outcome.map String.ofList).toOption) before) written
  | ok x =>
    have longer : "192.0.2.1".length < "2001:db8::1".length := by decide
    obtain ⟨y, after, more⟩ := renderAll_lt longer only shown before
    rw [probe before, probe after] at same
    obtain rfl : x = y := String.ofList_injective (Option.some.inj same)
    exact Nat.lt_irrefl _ more

end CommandTemplate

/-- **What the samples tell of the address.** A template that is taken to use the address is
rendered differently for the made-up host. One that nowhere reads the address is not taken to use
it; it is rendered the same for every host with every address and without one, so that the client
needs no address and its command line depends on none. If the address is printed at most, the
template is taken to use it exactly if its rendering for the made-up host depends on it, and
certainly if it is printed outside of all blocks; so for such a template this says all about the
other hosts if and only if the address is printed for the made-up host, or for none. -/
theorem CommandTemplate.usesAddress_sound (template : CommandTemplate) :
    (template.usesAddress = true → ∃ a b,
      template.render { sample with address := a } ≠ template.render { sample with address := b }) ∧
    (template.readsAddress = false → template.usesAddress = false ∧
      (∀ (params : TemplateParams) a b, template.render { params with address := a }
        = template.render { params with address := b }) ∧
      ∀ client : Client, client.template = template → ∀ name (request : OpenRequest) a b,
        client.resolve name = .ok none ∧
        client.commandLine { request with address := a }
          = client.commandLine { request with address := b }) ∧
    (template.onlyPrints = true →
      (template.usesAddress = false ↔ ∀ a b, template.render { sample with address := a }
        = template.render { sample with address := b }) ∧
      (template.printsAddress = true → template.probe (some "192.0.2.1") ≠ none →
        template.usesAddress = true) ∧
      ((template.usesAddress = false → ∀ (params : TemplateParams) a b,
          template.render { params with address := a }
            = template.render { params with address := b }) ↔
        ((∃ params : TemplateParams, template.render { params with address := some "192.0.2.1" }
          ≠ template.render { params with address := some "2001:db8::1" }) →
            template.render { sample with address := some "192.0.2.1" }
              ≠ template.render { sample with address := some "2001:db8::1" }))) := by
  have told {params : TemplateParams} (only : template.onlyPrints = true)
      (same : template.render { params with address := some "192.0.2.1" }
        = template.render { params with address := some "2001:db8::1" }) (a b : Option String) :
      template.render { params with address := a } = template.render { params with address := b } :=
    render_eq_of_sampled (by decide) only (congrArg Except.toOption same) a b
  have unseen (only : template.onlyPrints = true) (unused : template.usesAddress = false)
      (a b : Option String) : template.render { sample with address := a }
        = template.render { sample with address := b } := by
    have same : (template.render { sample with address := some "192.0.2.1" }).toOption
        = (template.render { sample with address := some "2001:db8::1" }).toOption :=
      (usesAddress_eq_false_iff.mp unused).1
    exact render_eq_of_sampled (by decide) only same a b
  refine ⟨fun used => ?_, fun blind => ⟨?_, fun params a b => render_of_blind blind, ?_⟩,
    fun only => ⟨⟨unseen only, usesAddress_of_same⟩, usesAddress_of_printsAddress only,
      fun sound ⟨params, differ⟩ same => ?_, fun shown unused params => told only ?_⟩⟩
  · rcases Bool.or_eq_true_iff.mp used with differ | differ
    · exact ⟨_, _, fun same => bne_iff_ne.mp differ (congrArg Except.toOption same)⟩
    · exact ⟨_, _, fun same => bne_iff_ne.mp differ (congrArg Except.toOption same)⟩
  · exact usesAddress_of_same fun a b => render_of_blind blind
  · rintro client rfl name request a b
    have unused := usesAddress_of_same fun a b => render_of_blind (a := a) (b := b) blind
    have same : client.template.render (Client.params { request with address := a })
        = client.template.render (Client.params { request with address := b }) :=
      @render_of_blind _ (Client.params request) _ _ blind
    refine ⟨?_, ?_⟩
    · rw [Client.resolve, unused]
      rfl
    · rw [Client.commandLine, Client.commandLine, same]
  · exact differ (sound (usesAddress_of_same (told only same)) params _ _)
  · exact Classical.byContradiction fun differ => shown ⟨params, differ⟩ (unseen only unused _ _)

/-- A client that is told the name of the host needs no address, and one that is told the address
does. -/
theorem CommandTemplate.usesAddress_sound_pingAddress :
    (∃ template, CommandTemplate.parse "ssh \x7b\x7bhost\x7d\x7d" = .ok template ∧
      template.usesAddress = false) ∧
    ∃ template, CommandTemplate.parse "ping \x7b\x7baddress\x7d\x7d" = .ok template ∧
      template.usesAddress = true := by
  constructor
  · refine ⟨_, parse_of_isSome (by decide +kernel), ?_⟩
    exact ((usesAddress_sound _).2.1 (by decide +kernel)).1
  · refine ⟨_, parse_of_isSome (by decide +kernel), ?_⟩
    exact ((usesAddress_sound _).2.2 (by decide +kernel)).2.1 (by decide +kernel)
      (by decide +kernel)

/-- A template that prints the address for every host but the first one is not taken to use it. -/
theorem CommandTemplate.usesAddress_sound_fails :
    ¬ ∀ source template, CommandTemplate.parse source = .ok template →
      template.usesAddress = false → ∀ (params : TemplateParams) (a b : Option String),
        template.render { params with address := a }
          = template.render { params with address := b } := by
  intro sound
  have same := sound "\x7b\x7b#if rank\x7d\x7d\x7b\x7baddress\x7d\x7d\x7b\x7b/if\x7d\x7d" _
    (parse_of_isSome (by decide +kernel)) (by decide +kernel) { sample with rank := 1 }
    (some "10.0.0.5") none
  exact absurd (congrArg Except.toOption same) (by decide +kernel)

end Fleet
