/-!
# Values in templates

What a template can compute with: texts and numbers of the host it is rendered for, the literals it
holds, and the record of all the host's parameters. Some values count as false, and nothing is the
value of a name that means nothing.
-/

namespace Fleet.Template

inductive Value where
  /-- Nothing. -/
  | null
  /-- A truth value. -/
  | bool (b : Bool)
  /-- A whole number. -/
  | int (n : Int)
  /-- A number with a decimal part: `mantissa` divided by ten to the power of `places`. -/
  | decimal (mantissa : Int) (places : Nat)
  | text (s : String)
  /-- Values under names. -/
  | fields (entries : List (String × Value))
  deriving Repr, BEq

namespace Value

/-- Whether a value counts as true. Zero is false unless told otherwise. -/
def isTruthy (zeroIsTrue : Bool) : Value → Bool
  | null => false
  | bool b => b
  | int n => zeroIsTrue || n != 0
  | decimal m _ => zeroIsTrue || m != 0
  | text s => s != ""
  | fields entries => !entries.isEmpty

/-- A decimal number as it is written. -/
def writeDecimal (mantissa : Int) (places : Nat) : String :=
  let digits := toString mantissa.natAbs
  let digits := String.ofList (List.replicate (places + 1 - digits.length) '0') ++ digits
  let whole := digits.toList.take (digits.length - places)
  let part := digits.toList.drop (digits.length - places)
  (if mantissa < 0 then "-" else "") ++ String.ofList (whole ++ '.' :: part)

/-- A value as it is printed. -/
def write : Value → String
  | null => ""
  | bool true => "true"
  | bool false => "false"
  | int n => toString n
  | decimal m p => writeDecimal m p
  | text s => s
  | fields _ => "[object]"

/-- The value under a name. -/
def get? (value : Value) (name : String) : Option Value :=
  match value with
  | fields entries => (entries.find? fun entry => entry.1 == name).map Prod.snd
  | _ => none

/-- The value that a chain of names leads to. -/
def follow? : Value → List String → Option Value
  | value, [] => some value
  | value, name :: names => (value.get? name).bind fun inner => inner.follow? names

end Value

end Fleet.Template
