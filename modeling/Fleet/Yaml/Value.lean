import Fleet.Numeral
import Fleet.Yaml.Node

/-!
# What the nodes of a YAML text mean

A plain scalar may be a null, a truth value or a number; a tag may say so of any scalar. A reference
means the node that it refers to. How deeply collections may be nested is limited, and so is how
often references are followed, because a collection may refer to itself.
-/

namespace Fleet.Yaml

/-- What a node means. Of values that are no text not everything is kept. -/
inductive Value where
  /-- Nothing. -/
  | null
  /-- A truth value. -/
  | truth
  /-- A number that can be an index. -/
  | index (n : Nat)
  /-- Any other number. -/
  | number
  | text (text : String)
  | sequence (items : List Value)
  | mapping (entries : List (Value × Value))
  deriving Repr

namespace Value

/-! ## Numbers -/

/-- Whether a sign may be left off in front of something. -/
def unsigned (cs : List Char) : List Char :=
  match cs with
  | '+' :: rest => rest
  | _ => cs

/-- The value of digits of a base. -/
def digitsOf? (base : Nat) (cs : List Char) : Option Nat :=
  if cs = [] then none
  else cs.foldlM (fun n c => (hexValue? c).bind fun d =>
    if d < base then some (base * n + d) else none) 0

/-- The base that letters after a zero announce. -/
def base? : List Char → Option (Nat × List Char)
  | '0' :: 'x' :: rest => some (16, rest)
  | '0' :: 'o' :: rest => some (8, rest)
  | '0' :: 'b' :: rest => some (2, rest)
  | _ => none

/-- The number of digits with a base announced. -/
def based? (cs : List Char) : Option Value :=
  match cs with
  | '-' :: rest => do
    let (base, digits) ← base? rest
    let n ← digitsOf? base digits
    if n ≤ Nat.pow 2 63 then some .number else none
  | _ => do
    let (base, digits) ← base? (unsigned cs)
    let n ← digitsOf? base (unsigned digits)
    if n < Nat.pow 2 64 then some (.index n) else none

/-- How a whole number can be used. -/
inductive Whole where
  | usable (value : Value)
  /-- Not at all. -/
  | unusable
  /-- It is none, or so large that it is no whole number any more. -/
  | other

/-- The whole number of digits with a sign. -/
def whole (cs : List Char) : Whole :=
  match cs with
  | '-' :: rest =>
    match Numeral.digits? rest with
    | some n =>
      if n ≤ Nat.pow 2 63 then .usable .number
      else if n ≤ Nat.pow 2 127 then .unusable
      else .other
    | none => .other
  | _ =>
    match Numeral.digits? (unsigned cs) with
    | some n =>
      if n < Nat.pow 2 64 then .usable (.index n)
      else if n < Nat.pow 2 128 then .unusable
      else .other
    | none => .other

/-- Whether digits with a point and an exponent are a number, and if so its digits and the power of
ten of the last one. -/
def decimal? (cs : List Char) : Option (List Char × Int) := do
  let body := match cs with
    | '+' :: rest => rest
    | '-' :: rest => rest
    | _ => cs
  let before := body.takeWhile Char.isDigit
  let rest := body.dropWhile Char.isDigit
  let (after, rest) := match rest with
    | '.' :: rest => (rest.takeWhile Char.isDigit, rest.dropWhile Char.isDigit)
    | _ => ([], rest)
  if before = [] && after = [] then none
  else
    let exponent ← match rest with
      | [] => some (0 : Int)
      | c :: rest =>
        if c = 'e' ∨ c = 'E' then
          match rest with
          | '-' :: digits => (Numeral.digits? digits).map fun n => -(n : Int)
          | _ => (Numeral.digits? (unsigned rest)).map fun n => (n : Int)
        else none
    return (before ++ after, exponent - after.length)

/-- The least number that is too large for a double. -/
def tooLarge : Nat := Nat.pow 2 1024 - Nat.pow 2 970

/-- Whether digits at a power of ten are less than what is too large. -/
def isFinite (digits : List Char) (power : Int) : Bool :=
  let digits := digits.dropWhile (· == '0')
  let size := (digits.length : Int) + power
  if digits = [] || size < 300 then true
  else if 320 < size then false
  else
    let n := (Numeral.digits? digits).getD 0
    if 0 ≤ power then decide (n * Nat.pow 10 power.toNat < tooLarge)
    else decide (n < tooLarge * Nat.pow 10 (-power).toNat)

/-- The names of numbers that are not finite. -/
def isSpecial (s : String) : Bool :=
  [".inf", ".Inf", ".INF"].contains (String.ofList (s.toList.dropWhile (· == '+')))
    || ["-.inf", "-.Inf", "-.INF", ".nan", ".NaN", ".NAN"].contains s

/-! ## Scalars -/

/-- Whether there is a zero in front of other digits, so that a text is meant. -/
def isPadded (cs : List Char) : Bool :=
  cs.head? == some '0' && decide (1 < cs.length) && cs.all Char.isDigit

/-- What a plain scalar means; none if it is a number that cannot be used. -/
def ofPlain (s : String) : Option Value :=
  let cs := s.toList
  if s = "~" || s = "null" then some .null
  else if s = "true" || s = "false" then some .truth
  else match based? cs with
  | some value => some value
  | none =>
    if isPadded cs then some (.text s)
    else match whole cs with
    | .usable value => some value
    | .unusable => none
    | .other =>
      if isSpecial s then some .number
      else match decimal? cs with
      | some (digits, power) => some (if isFinite digits power then .number else .text s)
      | none => some (.text s)

/-- Whether a text is a number of any kind, where a tag says so. -/
def isFloat (s : String) : Bool :=
  let letters := (match s.toList with
    | '+' :: rest => rest
    | '-' :: rest => rest
    | cs => cs).map Char.toLower
  (decimal? s.toList).isSome
    || ["inf", "infinity", "nan"].contains (String.ofList letters)

/-- What a scalar means under a standard tag; none if it cannot mean that. -/
def ofTagged (suffix s : String) : Option Value :=
  match suffix with
  | "bool" => if s = "true" || s = "false" then some .truth else none
  | "int" =>
    match whole s.toList with
    | .usable (.index n) => if n < Nat.pow 2 63 then some .number else none
    | .usable _ => some .number
    | _ => none
  | "float" => if isFloat s then some .number else none
  | "null" => if s = "~" || s = "null" then some .null else none
  | _ => some (.text s)

/-- What a scalar means. -/
def ofScalar (plain : Bool) (tag : Option Tag) (s : String) : Option Value :=
  match tag with
  | some tag => if tag.handle = "!!" then ofTagged tag.suffix s else some (.text s)
  | none => if plain then ofPlain s else some (.text s)

/-! ## Nodes -/

/-- How deeply collections may be nested. -/
def depthLimit : Nat := 128

/-- How often references may be followed for each event of a document. -/
def referenceRate : Nat := 100

/-- How many events a node takes: one for a scalar or a reference, two for a collection. -/
def eventCount : Node → Nat
  | .scalar _ _ _ => 1
  | .reference _ => 1
  | .sequence items => 2 + (items.attach.map fun ⟨item, _⟩ => eventCount item).foldl (· + ·) 0
  | .mapping entries =>
    2 + (entries.attach.map fun ⟨entry, _⟩ => eventCount entry.1 + eventCount entry.2).foldl
      (· + ·) 0
decreasing_by
  · have := List.sizeOf_lt_of_mem ‹item ∈ items›
    simp; omega
  · have h := List.sizeOf_lt_of_mem ‹entry ∈ entries›
    cases entry; simp at h ⊢; omega
  · have h := List.sizeOf_lt_of_mem ‹entry ∈ entries›
    cases entry; simp at h ⊢; omega

/-- What a node stands for: itself, or what it refers to, which uses up one reference. -/
def target? (named : List (Nat × Node)) (left : Nat) : Node → Option (Node × Nat)
  | .reference id =>
    match left, named.find? fun row => row.1 == id with
    | left + 1, some row => some (row.2, left)
    | _, _ => none
  | node => some (node, left)

/-- What a node means, with so many levels and references left. -/
def ofNodeWithin (named : List (Nat × Node)) : Nat → Nat → Node → Option (Value × Nat)
  | depth, left, node => do
    let (found, left) ← target? named left node
    match depth, found with
    | _, .scalar plain tag s => return (← ofScalar plain tag s, left)
    | depth + 1, .sequence items =>
      let (values, left) ← items.foldlM (fun (values, left) item => do
        let (value, left) ← ofNodeWithin named depth left item
        return (value :: values, left)) ([], left)
      return (.sequence values.reverse, left)
    | depth + 1, .mapping entries =>
      let (values, left) ← entries.foldlM (fun (values, left) entry => do
        let (key, left) ← ofNodeWithin named depth left entry.1
        let (value, left) ← ofNodeWithin named depth left entry.2
        return ((key, value) :: values, left)) ([], left)
      return (.mapping values.reverse, left)
    | _, _ => none

/-- What a document means; none if it cannot be told. -/
def ofDocument (document : Node.Document) : Option Value :=
  (ofNodeWithin document.named depthLimit (referenceRate * eventCount document.node)
    document.node).map Prod.fst

end Value

end Fleet.Yaml
