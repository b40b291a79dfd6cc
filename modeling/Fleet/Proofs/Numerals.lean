import Fleet.Numeral

/-!
# Numbers are read as they were written

Numbers are written in decimal, some of them with a sign, and the modes of files in octal with four
digits. Each way of writing has a reader here that undoes it (`digits?_toDigits`, `int?_toString`,
`octal?_octal4`).
-/

namespace Fleet

namespace Numeral

/-! ## Decimal -/

theorem digitsFrom_eq {cs : List Char} (digits : ∀ c ∈ cs, c.isDigit = true) (acc : Nat) :
    digitsFrom acc cs = some (Nat.ofDigitChars 10 cs acc) := by
  induction cs generalizing acc with
  | nil => rfl
  | cons c cs ih =>
    have first : digit? c = some (c.toNat - '0'.toNat) := if_pos (digits c List.mem_cons_self)
    have others (c : Char) (among : c ∈ cs) := digits c (List.mem_cons_of_mem _ among)
    rw [digitsFrom, first, Option.bind_some, ih others, Nat.ofDigitChars_cons, Nat.mul_comm]

theorem isDigit_of_mem {n : Nat} {c : Char} (among : c ∈ Nat.toDigits 10 n) : c.isDigit = true :=
  Nat.isDigit_of_mem_toDigits (by decide) (by decide) among

theorem range_of_isDigit {c : Char} (digit : c.isDigit = true) :
    48 ≤ c.toNat ∧ c.toNat ≤ 57 := by
  simpa [Char.isDigit, UInt32.le_iff_toNat_le] using digit

/-- **Numbers are read as they were written.** -/
theorem digits?_toDigits (n : Nat) : digits? (Nat.toDigits 10 n) = some n := by
  have value := digitsFrom_eq (fun c => isDigit_of_mem (n := n) (c := c)) 0
  rw [Nat.ofDigitChars_toDigits (by decide) (by decide)] at value
  cases listed : Nat.toDigits 10 n with
  | nil => exact absurd listed Nat.toDigits_ne_nil
  | cons c cs => rwa [listed] at value

/-- A number begins with no sign. -/
theorem toDigits_unsigned (n : Nat) (rest : List Char) : Nat.toDigits 10 n ≠ '-' :: rest := by
  intro listed
  have := isDigit_of_mem (n := n) (c := '-') (by rw [listed]; exact List.mem_cons_self)
  cases this

theorem int32?_toDigits {n : Nat} (small : n < Nat.pow 2 31) :
    int32? (Nat.toDigits 10 n) = some (Int32.ofInt n) := by
  unfold int32?
  split
  · next rest listed => exact absurd listed (toDigits_unsigned n rest)
  · rw [digits?_toDigits, Option.bind_some]
    exact if_pos small

/-- A number of any size: digits with at most one minus sign in front. -/
def int? (cs : List Char) : Option Int :=
  match cs with
  | '-' :: rest => (digits? rest).map Int.negOfNat
  | _ => (digits? cs).map Int.ofNat

theorem toList_toString (n : Nat) : (toString n).toList = Nat.toDigits 10 n := Nat.toList_repr

theorem toList_toString_int (i : Int) :
    (toString i).toList = (if 0 ≤ i then [] else ['-']) ++ Nat.toDigits 10 i.natAbs := by
  rw [Int.toString_eq_repr]
  cases i with
  | ofNat n => exact Nat.toList_repr
  | negSucc n =>
    refine (String.toList_append).trans ?_
    exact congrArg ('-' :: ·) Nat.toList_repr

/-- **Every number of 32 bits with a sign is read as it was written.** -/
theorem int32?_toString (n : Int32) : int32? (toString n.toInt).toList = some n := by
  have least := n.le_toInt
  have most := n.toInt_lt
  rw [toList_toString_int]
  by_cases positive : 0 ≤ n.toInt
  · have small : n.toInt.natAbs < Nat.pow 2 31 := by
      have size : Nat.pow 2 31 = 2147483648 := rfl
      omega
    rw [if_pos positive, List.nil_append, int32?_toDigits small, Int.natAbs_of_nonneg positive,
      Int32.ofInt_toInt]
  · have small : n.toInt.natAbs ≤ Nat.pow 2 31 := by
      have size : Nat.pow 2 31 = 2147483648 := rfl
      omega
    have value : -(n.toInt.natAbs : Int) = n.toInt := by omega
    rw [if_neg positive, List.singleton_append, int32?, digits?_toDigits, Option.bind_some,
      if_pos small, value, Int32.ofInt_toInt]

theorem int?_toString (i : Int) : int? (toString i).toList = some i := by
  rw [toList_toString_int]
  by_cases positive : 0 ≤ i
  · rw [if_pos positive, List.nil_append]
    unfold int?
    split
    · next rest listed => exact absurd listed (toDigits_unsigned _ rest)
    · rw [digits?_toDigits, Option.map_some]
      exact congrArg some (Int.natAbs_of_nonneg positive)
  · rw [if_neg positive]
    change (digits? (Nat.toDigits 10 i.natAbs)).map Int.negOfNat = _
    rw [digits?_toDigits, Option.map_some, Int.negOfNat_eq]
    have value : -(i.natAbs : Int) = i := by omega
    exact congrArg some value

/-- The characters of a number. -/
theorem range_of_mem_toString {i : Int} {c : Char} (among : c ∈ (toString i).toList) :
    c = '-' ∨ 48 ≤ c.toNat ∧ c.toNat ≤ 57 := by
  rw [toList_toString_int, List.mem_append] at among
  rcases among with sign | digit
  · split at sign
    · cases sign
    · exact .inl (List.mem_singleton.mp sign)
  · exact .inr (range_of_isDigit (isDigit_of_mem digit))

/-! ## Octal -/

/-- A digit of an octal number. -/
def isOctal (c : Char) : Bool := '0' ≤ c && c ≤ '7'

/-- A number in octal with four digits. -/
def octal? (cs : List Char) : Option Nat :=
  if cs.length = 4 ∧ cs.all isOctal then some (Nat.ofDigitChars 8 cs 0) else none

theorem isOctal_of_mem {n : Nat} {c : Char} (among : c ∈ Nat.toDigits 8 n) : isOctal c = true := by
  have digit : ∀ d < 8, isOctal (Nat.digitChar d) = true := by decide
  induction n using Nat.strongRecOn with
  | ind n ih =>
    rw [Nat.toDigits_eq_if (by decide)] at among
    split at among
    · next small =>
      rw [List.mem_singleton.mp among]
      exact digit n small
    · next large =>
      rcases List.mem_append.mp among with before | last
      · exact ih (n / 8) (by omega) before
      · rw [List.mem_singleton.mp last]
        exact digit (n % 8) (Nat.mod_lt n (by decide))

theorem toList_octal4 (n : Nat) :
    (octal4 n).toList = List.replicate (4 - (Nat.toDigits 8 n).length) '0' ++ Nat.toDigits 8 n :=
  String.toList_ofList

theorem isOctal_of_mem_octal4 {n : Nat} {c : Char} (among : c ∈ (octal4 n).toList) :
    isOctal c = true := by
  rw [toList_octal4, List.mem_append] at among
  rcases among with zero | digit
  · rw [List.eq_of_mem_replicate zero]
    rfl
  · exact isOctal_of_mem digit

theorem octal?_octal4 {n : Nat} (small : n < Nat.pow 8 4) : octal? (octal4 n).toList = some n := by
  have digits : (Nat.toDigits 8 n).length ≤ 4 :=
    (Nat.length_toDigits_le_iff (by decide) (by decide)).mpr small
  have length : (octal4 n).toList.length = 4 := by
    rw [toList_octal4, List.length_append, List.length_replicate]
    omega
  have all : (octal4 n).toList.all isOctal = true :=
    List.all_eq_true.mpr fun c among => isOctal_of_mem_octal4 among
  rw [octal?, if_pos ⟨length, all⟩, toList_octal4, Nat.ofDigitChars_append,
    Nat.ofDigitChars_replicate_zero, Nat.mul_zero,
    Nat.ofDigitChars_toDigits (by decide) (by decide)]

end Numeral

end Fleet
