import Fleet.Host
import Fleet.Numeral

/-!
# Network addresses

Numeric addresses of both families: reading the usual notations, and writing the canonical one. Of
the sixteen-bit groups of a version 6 address the longest run of zeros, the first of several, is
written as `::` when it has at least two members; an address that embeds one of version 4 ends in
dotted form.
-/

namespace Fleet

/-- A network address. -/
inductive Address where
  /-- Four bytes. -/
  | v4 (bytes : List Nat)
  /-- Eight groups of sixteen bits. -/
  | v6 (groups : List Nat)
  deriving Repr, DecidableEq

namespace Address

/-- One byte in decimal, without a leading zero. -/
def octet? (cs : List Char) : Option Nat :=
  if cs.length > 3 ∨ (cs.length > 1 ∧ cs.head? = some '0') then none
  else (Numeral.digits? cs).bind fun n => if n < 256 then some n else none

/-- Four bytes with dots between. -/
def dotted? (cs : List Char) : Option (List Nat) :=
  let pieces := splitAll '.' cs
  if pieces.length = 4 then pieces.mapM octet? else none

/-- The value of a hexadecimal digit. -/
def hexDigit? (c : Char) : Option Nat :=
  if c.isDigit then some (c.toNat - '0'.toNat)
  else if 'a' ≤ c ∧ c ≤ 'f' then some (c.toNat - 'a'.toNat + 10)
  else if 'A' ≤ c ∧ c ≤ 'F' then some (c.toNat - 'A'.toNat + 10)
  else none

/-- One group: one to four hexadecimal digits. -/
def group? (cs : List Char) : Option Nat :=
  if cs.isEmpty ∨ cs.length > 4 then none
  else (cs.mapM hexDigit?).map fun ds => ds.foldl (fun acc d => acc * 16 + d) 0

/-- Groups from the pieces between colons. The last piece may be in dotted form and then makes two
groups, where `dottedEnd` allows it. -/
def groups? (dottedEnd : Bool) : List (List Char) → Option (List Nat)
  | [] => some []
  | [piece] =>
    match dottedEnd, dotted? piece with
    | true, some [a, b, c, d] => some [a * 256 + b, c * 256 + d]
    | _, _ => (group? piece).map fun g => [g]
  | piece :: rest => do
    let g ← group? piece
    let gs ← groups? dottedEnd rest
    return g :: gs

/-- Splits at the first `::`. -/
def splitGap : List Char → Option (List Char × List Char)
  | ':' :: ':' :: rest => some ([], rest)
  | c :: rest => (splitGap rest).map fun (before, after) => (c :: before, after)
  | [] => none

/-- The groups of one side of a gap. -/
def side? (dottedEnd : Bool) (cs : List Char) : Option (List Nat) :=
  if cs.isEmpty then some [] else groups? dottedEnd (splitAll ':' cs)

/-- Eight groups, some of which a gap may stand for. -/
def colons? (cs : List Char) : Option (List Nat) :=
  match splitGap cs with
  | none => (groups? true (splitAll ':' cs)).bind fun gs => if gs.length = 8 then some gs else none
  | some (before, after) => do
    let left ← side? false before
    let right ← side? true after
    if left.length + right.length ≤ 7 then
      some (left ++ List.replicate (8 - left.length - right.length) 0 ++ right)
    else none

/-- Reads an address in numeric notation. -/
def parse? (text : String) : Option Address :=
  match dotted? text.toList with
  | some bytes => some (v4 bytes)
  | none => (colons? text.toList).map v6

/-- Four bytes with dots between. -/
def writeDotted (bytes : List Nat) : String := ".".intercalate (bytes.map toString)

/-- Groups in hexadecimal with colons between. -/
def writeGroups (groups : List Nat) : String :=
  ":".intercalate (groups.map fun g => String.ofList (Nat.toDigits 16 g))

/-- The number of zeros at the front. -/
def zeroRun (groups : List Nat) : Nat := (groups.takeWhile (· == 0)).length

/-- Where the longest run of zeros starts, and its length; the first of several. -/
def longestGap (groups : List Nat) : Nat × Nat :=
  (List.range groups.length).foldl (fun best i =>
    let run := zeroRun (groups.drop i)
    if run > best.2 then (i, run) else best) (0, 0)

/-- Writes an address in canonical notation. -/
def display : Address → String
  | v4 bytes => writeDotted bytes
  | v6 groups =>
    match groups with
    | [0, 0, 0, 0, 0, 0xFFFF, high, low] =>
      "::ffff:" ++ writeDotted [high / 256, high % 256, low / 256, low % 256]
    | _ =>
      let (start, run) := longestGap groups
      if run > 1 then
        writeGroups (groups.take start) ++ "::" ++ writeGroups (groups.drop (start + run))
      else writeGroups groups

end Address

end Fleet
