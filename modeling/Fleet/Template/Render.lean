import Fleet.Template.Helper

/-!
# Rendering

What a template comes to for given values. Blocks open levels: a name is looked up on the innermost
one, and a path may leave it for those around. A block whose helper chooses between its parts
renders one of them; a helper that computes a value prints it, wherever it stands.

A rendered value is never read again: whatever it holds, it is printed as it is.
-/

namespace Fleet.Template

/-- One level of blocks. -/
structure Level where
  /-- What names are looked up in. -/
  value : Value
  /-- The variables of the block. -/
  bound : List (String × Value) := []
  /-- The names that the block has given. -/
  given : List (String × Value) := []

/-- The levels around a place in a template, the innermost first. -/
structure Scope where
  /-- The outermost value. -/
  root : Value
  levels : List Level

namespace Scope

/-- Outside of all blocks. -/
def ofRoot (root : Value) : Scope := ⟨root, [{ value := root }]⟩

/-- The scope inside one more level. -/
def enter (scope : Scope) (level : Level) : Scope :=
  { scope with levels := level :: scope.levels }

/-- The value of the innermost level. -/
def here (scope : Scope) : Value := (scope.levels.head?.map Level.value).getD scope.root

/-- The value of a name that some block has given. -/
def given? (scope : Scope) (name : String) : Option Value :=
  scope.levels.findSome? fun level =>
    (level.given.find? fun entry => entry.1 == name).map Prod.snd

/-- The value of a variable of the innermost block. -/
def blockVariable? (scope : Scope) (name : String) : Option Value :=
  scope.levels.head?.bind fun level =>
    (level.bound.find? fun entry => entry.1 == name).map Prod.snd

/-- The value that a path leads to. A path that leaves more levels than there are leaves none. -/
def find? (scope : Scope) (path : Path) : Option Value :=
  if path.isVariable then path.names.head?.bind scope.blockVariable?
  else if path.fromRoot then scope.root.follow? path.names
  else if path.up > 0 then
    let value := (scope.levels[path.up]?.map Level.value).getD scope.here
    value.follow? path.names
  else match path.names with
    | name :: names =>
      match scope.given? name with
      | some value => value.follow? names
      | none => scope.here.follow? path.names
    | [] => some scope.here

end Scope

/-- Helpers that choose between the parts of a block. -/
inductive Chooser where
  /-- The first part for a true value. -/
  | ifTrue
  /-- The first part for a false value. -/
  | unlessTrue
  /-- The first part on a level of its own, for a true value. -/
  | within
  /-- The first part for each value in a record. -/
  | forEach
  /-- The first part always. -/
  | verbatim
  deriving Repr, DecidableEq

def Chooser.ofName? : String → Option Chooser
  | "if" => some ifTrue
  | "unless" => some unlessTrue
  | "with" => some within
  | "each" => some forEach
  | "raw" => some verbatim
  | _ => none

/-- Whether a name is that of a helper. -/
def isHelper (name : String) : Bool :=
  (Function.ofName? name).isSome || (Chooser.ofName? name).isSome || name == "log"

/-- The name under which the template being rendered is known to its parts. It must not put itself
in. -/
def ownName : String := "command"

mutual

/-- The value of an expression; nothing where a name means nothing. -/
def Expr.value (scope : Scope) : Expr → Except TemplateFault Value
  | .literal value => .ok value
  | .path way => .ok ((scope.find? way).getD .null)
  | .call helper arguments _ => do
    let values ← Expr.values scope arguments
    match Function.ofName? helper with
    | some f =>
      match f.apply values with
      | some value => .ok value
      | none => .error (.helper helper)
    | none =>
      match Chooser.ofName? helper with
      | some .verbatim => .ok (.text "")
      | some _ => if values.isEmpty then .error (.helper helper) else .ok (.text "")
      | none => if helper = "log" then .ok (.text "") else .error (.helper helper)

/-- The values of expressions. -/
def Expr.values (scope : Scope) : List Expr → Except TemplateFault (List Value)
  | [] => .ok []
  | e :: es => do
    let value ← e.value scope
    let values ← Expr.values scope es
    .ok (value :: values)

end

/-- What an expression prints. A name that a helper has calls the helper. -/
def Expr.print (scope : Scope) (e : Expr) : Except TemplateFault (List Char) :=
  match e with
  | .path way =>
    if isHelper way.source then
      ((Expr.call way.source [] []).value scope).map fun value => value.write.toList
    else .ok ((scope.find? way).map Value.write |>.getD "").toList
  | e => (e.value scope).map fun value => value.write.toList

/-- The level on which a block is rendered that goes into a value. -/
def levelOf (head : Head) (value : Value) : Level :=
  match head.bindings with
  | name :: _ => { value, given := [(name, value)] }
  | [] => { value }

/-- The level for one value of a record, with its name and its place among so many. -/
def entryLevel (head : Head) (count index : Nat) (entry : String × Value) : Level :=
  { value := entry.2
    bound := [("key", .text entry.1), ("index", .int index), ("first", .bool (index == 0)),
      ("last", .bool (index + 1 == count))]
    given := match head.bindings with
      | [] => []
      | [name] => [(name, entry.2)]
      | name :: key :: _ => [(name, entry.2), (key, .text entry.1)] }

/-- Whether zero counts as true in the condition of a block. -/
def zeroIsTrue (scope : Scope) (head : Head) : Bool :=
  match head.named.find? fun entry => entry.1 == "includeZero" with
  | some (_, e) =>
    match e.value scope with
    | .ok (.bool b) => b
    | _ => false
  | none => false

mutual

/-- What an element comes to. -/
def Element.render (scope : Scope) : Element → Except TemplateFault (List Char)
  | .text cs => .ok cs
  | .print e => e.print scope
  | .inclusion name => if name = ownName then .error (.helper name) else .ok []
  | .block head body inverse => do
    let values ← Expr.values scope head.arguments
    match Chooser.ofName? head.helper with
    | none =>
      let value ← (Expr.call head.helper head.arguments head.named).value scope
      .ok value.write.toList
    | some .verbatim => renderAll scope body
    | some chooser =>
      match values with
      | [] => .error (.helper head.helper)
      | value :: _ =>
        match chooser with
        | .ifTrue =>
          if value.isTruthy (zeroIsTrue scope head) then renderAll scope body
          else renderInverse scope inverse
        | .unlessTrue =>
          if value.isTruthy (zeroIsTrue scope head) then renderInverse scope inverse
          else renderAll scope body
        | .within =>
          if value.isTruthy false then renderAll (scope.enter (levelOf head value)) body
          else renderInverse scope inverse
        | .forEach =>
          match value with
          | .fields (entry :: entries) =>
            let count := (entry :: entries).length
            ((entry :: entries).zipIdx.mapM fun (entry, index) =>
              renderAll (scope.enter (entryLevel head count index entry)) body).map List.flatten
          | _ => renderInverse scope inverse
        | .verbatim => .ok []

/-- What elements come to, one after another. -/
def renderAll (scope : Scope) : List Element → Except TemplateFault (List Char)
  | [] => .ok []
  | e :: es => do
    let first ← e.render scope
    let rest ← renderAll scope es
    .ok (first ++ rest)

/-- What the second part of a block comes to, if it has one. -/
def renderInverse (scope : Scope) : Option (List Element) → Except TemplateFault (List Char)
  | none => .ok []
  | some es => renderAll scope es

end

end Fleet.Template
