/-!
# Numbers as text

Reading decimal numbers that have to fit a machine word, and writing the octal numbers in which file
modes are given. Only ASCII digits count as digits.
-/

namespace Fleet.Numeral

/-- The value of one ASCII digit. -/
def digit? (c : Char) : Option Nat :=
  if c.isDigit then some (c.toNat - '0'.toNat) else none

/-- The value of a string of digits, continuing from `acc`. -/
def digitsFrom (acc : Nat) : List Char → Option Nat
  | [] => some acc
  | c :: rest => (digit? c).bind fun d => digitsFrom (acc * 10 + d) rest

/-- The value of a non-empty string of digits. -/
def digits? : List Char → Option Nat
  | [] => none
  | cs => digitsFrom 0 cs

/-- A signed 32-bit number: digits with at most one minus sign in front. -/
def int32? (cs : List Char) : Option Int32 :=
  match cs with
  | '-' :: rest => (digits? rest).bind fun n =>
      if n ≤ Nat.pow 2 31 then some (Int32.ofInt (-n)) else none
  | _ => (digits? cs).bind fun n => if n < Nat.pow 2 31 then some (Int32.ofInt n) else none

/-- An unsigned 64-bit number: digits with at most one plus sign in front. -/
def word64? (text : String) : Option Nat :=
  let digits := match text.toList with
    | '+' :: rest => rest
    | cs => cs
  (digits? digits).bind fun n => if n < Nat.pow 2 64 then some n else none

/-- A number in octal with at least four digits. -/
def octal4 (n : Nat) : String :=
  let digits := Nat.toDigits 8 n
  String.ofList (List.replicate (4 - digits.length) '0' ++ digits)

end Fleet.Numeral
