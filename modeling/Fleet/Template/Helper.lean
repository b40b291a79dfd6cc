import Fleet.Blank
import Fleet.Error
import Fleet.LetterCase
import Fleet.Template.Element
import Fleet.Utf8

/-!
# Helpers that compute a value

A helper takes values and gives one back. Those that compare or work on text insist on values of
their kind, and refuse others; an argument that means nothing is refused as well.
-/

namespace Fleet.Template

/-- Helpers that compute a value. -/
inductive Function where
  | eq | ne | gt | gte | lt | lte | and | or | not | len
  | toUpperCase | toLowerCase | trim | trimStart | trimEnd | replace | firstNonEmpty | quote
  | lookup
  deriving Repr, DecidableEq

namespace Function

/-- The names of the helpers. -/
def all : List (String × Function) :=
  [("eq", eq), ("ne", ne), ("gt", gt), ("gte", gte), ("lt", lt), ("lte", lte), ("and", and),
   ("or", or), ("not", not), ("len", len), ("to_upper_case", toUpperCase),
   ("to_lower_case", toLowerCase), ("trim", trim), ("trim_start", trimStart),
   ("trim_end", trimEnd), ("replace", replace), ("first_non_empty", firstNonEmpty),
   ("quote", quote), ("lookup", lookup)]

/-- The helper of a name. -/
def ofName? (name : String) : Option Function :=
  (all.find? fun entry => entry.1 == name).map Prod.snd

/-- Puts `new` in every place where `old` stands, from the left. The number bounds the places. -/
def replaceFrom (old new : List Char) : Nat → List Char → List Char
  | 0, cs => cs
  | _ + 1, [] => []
  | turns + 1, c :: rest =>
    if old.isPrefixOf (c :: rest) then
      new ++ replaceFrom old new turns ((c :: rest).drop old.length)
    else c :: replaceFrom old new turns rest

/-- Puts `new` in every place where `old` stands; an empty `old` stands at every edge. -/
def replaceAll (s old new : String) : String :=
  let cs := s.toList
  if old.isEmpty then String.ofList (new.toList ++ cs.flatMap fun c => c :: new.toList)
  else String.ofList (replaceFrom old.toList new.toList (cs.length + 1) cs)

/-- A text between quotes, with a backslash before each quote and backslash in it. -/
def enquote (q : Char) (s : String) : String :=
  String.ofList (q :: s.toList.flatMap (fun c => if c = q ∨ c = '\\' then ['\\', c] else [c])
    ++ [q])

/-- The length of a value: of a text in bytes, of a record in names. -/
def lengthOf : Value → Nat
  | .text s => (Utf8.encode s).length
  | .fields entries => entries.length
  | _ => 0

/-- Compares two whole numbers. -/
def compare (test : Int → Int → Bool) : List Value → Option Value
  | .int x :: .int y :: _ => some (.bool (test x y))
  | _ => none

/-- Works on one text. -/
def onText (f : String → String) : List Value → Option Value
  | .text s :: _ => some (.text (f s))
  | _ => none

/-- The first text that is not empty. -/
def firstText : List Value → String
  | [] => ""
  | .text s :: rest => if s.isEmpty then firstText rest else s
  | _ :: rest => firstText rest

/-- The value of a helper; none where it cannot work on its arguments. -/
def apply : Function → List Value → Option Value
  | eq, x :: y :: _ => some (.bool (x == y))
  | ne, x :: y :: _ => some (.bool (x != y))
  | gt, arguments => compare (fun x y => decide (x > y)) arguments
  | gte, arguments => compare (fun x y => decide (x ≥ y)) arguments
  | lt, arguments => compare (fun x y => decide (x < y)) arguments
  | lte, arguments => compare (fun x y => decide (x ≤ y)) arguments
  | and, x :: y :: _ => some (.bool (x.isTruthy false && y.isTruthy false))
  | or, x :: y :: _ => some (.bool (x.isTruthy false || y.isTruthy false))
  | not, x :: _ => some (.bool (!x.isTruthy false))
  | len, x :: _ => some (.int (lengthOf x))
  | toUpperCase, arguments => onText LetterCase.upper arguments
  | toLowerCase, arguments => onText LetterCase.lower arguments
  | trim, arguments => onText Fleet.trim arguments
  | trimStart, arguments => onText Fleet.trimStart arguments
  | trimEnd, arguments => onText Fleet.trimEnd arguments
  | replace, .text s :: .text old :: .text new :: _ => some (.text (replaceAll s old new))
  | firstNonEmpty, arguments => some (.text (firstText arguments))
  | quote, .text q :: .text s :: _ => some (.text (enquote (q.toList.headD '"') s))
  | lookup, x :: .text name :: _ => some ((x.get? name).getD .null)
  | lookup, _ :: _ :: _ => some .null
  | _, _ => none

end Function

end Fleet.Template
