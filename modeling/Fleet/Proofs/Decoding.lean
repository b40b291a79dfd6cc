import Fleet.Utf8

/-!
# Plain text in lossy decoding

Lossy decoding makes text of every byte string. ASCII comes through it unchanged, wherever it
stands: an ASCII byte begins a character and ends what was broken off before it, so a string is
decoded on either side of it alone (`lossyChars_append`). And nothing else comes to look like ASCII:
what is found in the decoded text, if it is of ASCII characters other than NUL, stands in the byte
string (`infix_of_infix_lossyChars`). Text that was encoded comes back whole (`lossy_encode`).
-/

namespace Fleet

namespace Utf8

variable {a b low high : UInt8} {n count : Nat} {rest bs : Bytes} {c : Char}

/-! ## In front of an ASCII byte -/

/-- All bytes that begin a longer character are followed by bytes outside ASCII. -/
theorem le_low (opens : opening b = some (count, low, high)) : 0x80 ≤ low := by
  unfold opening at opens
  repeat' split at opens
  all_goals cases opens
  all_goals decide

theorem continuations_append (plain : a < 0x80) (narrow : 0x80 ≤ low) (more : Bytes) :
    continuations n low high (rest ++ a :: more) = continuations n low high rest := by
  induction rest generalizing n low high with
  | nil =>
    have outside : ¬ low ≤ a := fun inside =>
      UInt8.not_le.mpr plain (UInt8.le_trans narrow inside)
    cases n with
    | zero => rfl
    | succ n => simp [continuations, outside]
  | cons c rest ih =>
    cases n with
    | zero => rfl
    | succ n =>
      rw [List.cons_append, continuations, continuations, ih (UInt8.le_refl 0x80)]

/-- What a string starts with, when something follows that cannot continue it. -/
def Lead.closed : Lead → Lead
  | unfinished n => broken n
  | other => other

theorem lead_more_le (b : UInt8) (rest : Bytes) : (lead b rest).more ≤ rest.length := by
  unfold lead
  split
  · exact Nat.zero_le _
  split
  · exact Nat.zero_le _
  · next count low high _ =>
    have found := continuations_le count low high rest
    dsimp only
    split
    · next same => exact same ▸ found
    · split <;> exact found

theorem more_le_of_lead {found : Lead} (start : lead b rest = found) : found.more ≤ rest.length :=
  start ▸ lead_more_le b rest

theorem lead_append (plain : a < 0x80) (b : UInt8) (rest more : Bytes) :
    lead b (rest ++ a :: more) = (lead b rest).closed := by
  unfold lead
  split
  · rfl
  cases opens : opening b with
  | none => rfl
  | some bounds =>
    obtain ⟨count, low, high⟩ := bounds
    have found := continuations_le count low high rest
    simp only [continuations_append plain (le_low opens)]
    split
    · next same =>
      have taken : (rest ++ a :: more).take count = rest.take count :=
        List.take_append_of_le_length (same ▸ found)
      simp only [combine, taken, Lead.closed]
    · have short : continuations count low high rest ≠ (rest ++ a :: more).length := by
        rw [List.length_append, List.length_cons]
        omega
      rw [if_neg short]
      split <;> rfl

/-- **A string is decoded on either side of an ASCII byte alone.** -/
theorem lossyChars_append (plain : a < 0x80) (bs more : Bytes) :
    lossyChars (bs ++ a :: more) = lossyChars bs ++ lossyChars (a :: more) := by
  fun_induction lossyChars bs with
  | case1 => rfl
  | case2 b rest c n start ih | case3 b rest n start ih | case4 b rest n start ih =>
    have inside : n ≤ rest.length := more_le_of_lead start
    rw [List.cons_append, lossyChars, lead_append plain, start]
    simp only [Lead.closed, List.drop_append_of_le_length inside, ih, List.cons_append]

/-- **Whether the front of a string is UTF-8 is told up to an ASCII byte alone**, and what its text
is. -/
theorem decodeFrom_append {index : Nat} {cs : List Char} (plain : a < 0x80)
    (decoded : decodeFrom index bs = .ok cs) (more : Bytes) :
    decodeFrom index (bs ++ a :: more)
      = (decodeFrom (index + bs.length) (a :: more)).map (cs ++ ·) := by
  fun_induction decodeFrom index bs generalizing cs with
  | case1 index =>
    cases decoded
    rw [List.nil_append, List.length_nil, Nat.add_zero]
    cases decodeFrom index (a :: more) <;> rfl
  | case2 index b rest c n start ih =>
    have inside : n ≤ rest.length := more_le_of_lead start
    have place : index + n + 1 + (rest.drop n).length = index + (b :: rest).length := by
      rw [List.length_drop, List.length_cons]
      omega
    cases later : decodeFrom (index + n + 1) (rest.drop n) with
    | error bad => rw [later] at decoded; cases decoded
    | ok cs' =>
      rw [later] at decoded
      cases decoded
      rw [List.cons_append, decodeFrom, lead_append plain, start]
      simp only [Lead.closed, List.drop_append_of_le_length inside, ih later, place]
      cases decodeFrom (index + (b :: rest).length) (a :: more) <;> rfl
  | case3 | case4 => cases decoded

/-- What follows does not change where a string stops being UTF-8. -/
theorem decodeFrom_append_error {index : Nat} {bad : Malformed} (plain : a < 0x80)
    (refused : decodeFrom index bs = .error bad) (more : Bytes) :
    ∃ length, decodeFrom index (bs ++ a :: more) = .error ⟨bad.index, some length⟩ := by
  fun_induction decodeFrom index bs generalizing bad with
  | case1 => cases refused
  | case2 index b rest c n start ih =>
    have inside : n ≤ rest.length := more_le_of_lead start
    cases later : decodeFrom (index + n + 1) (rest.drop n) with
    | ok cs' => rw [later] at refused; cases refused
    | error bad' =>
      rw [later] at refused
      cases refused
      obtain ⟨length, refused⟩ := ih later
      refine ⟨length, ?_⟩
      rw [List.cons_append, decodeFrom, lead_append plain, start]
      simp only [Lead.closed, List.drop_append_of_le_length inside, refused]
      rfl
  | case3 index b rest n start =>
    cases refused
    refine ⟨n + 1, ?_⟩
    rw [List.cons_append, decodeFrom, lead_append plain, start]
    rfl
  | case4 index b rest n start =>
    cases refused
    refine ⟨n + 1, ?_⟩
    rw [List.cons_append, decodeFrom, lead_append plain, start]
    rfl

/-! ## ASCII characters -/

theorem lossyChars_ascii (plain : b < 0x80) (rest : Bytes) :
    lossyChars (b :: rest) = Char.ofNat b.toNat :: lossyChars rest := by
  rw [lossyChars, lead, if_pos plain]
  rfl

/-- The ASCII characters but for NUL. -/
def IsPlain (c : Char) : Prop := 0 < c.toNat ∧ c.toNat < 0x80

/-- The byte of an ASCII character. -/
def byte (c : Char) : UInt8 := UInt8.ofNat c.toNat

theorem toNat_ofNat_valid (valid : n.isValidChar) : (Char.ofNat n).toNat = n := by
  rw [Char.ofNat, dif_pos valid]
  rfl

theorem toNat_ofNat (n : Nat) : (Char.ofNat n).toNat = n ∨ (Char.ofNat n).toNat = 0 := by
  by_cases valid : n.isValidChar
  · exact .inl (toNat_ofNat_valid valid)
  · exact .inr (by rw [Char.ofNat, dif_neg valid]; rfl)

theorem toNat_ofNat_ascii (small : n < 0x80) : (Char.ofNat n).toNat = n :=
  toNat_ofNat_valid (.inl (by omega))

theorem toNat_byte (small : c.toNat < 0x80) : (byte c).toNat = c.toNat :=
  UInt8.toNat_ofNat_of_lt' (Nat.lt_trans small (by decide))

theorem byte_lt (small : c.toNat < 0x80) : byte c < 0x80 := by
  rw [UInt8.lt_iff_toNat_lt, toNat_byte small]
  exact small

/-- **ASCII text comes through as it is**, and what stands before it is decoded alone. -/
theorem lossyChars_append_word {word : List Char} (plain : ∀ c ∈ word, c.toNat < 0x80)
    (bs : Bytes) : lossyChars (bs ++ word.map byte) = lossyChars bs ++ word := by
  induction word generalizing bs with
  | nil => rw [List.map_nil, List.append_nil, List.append_nil]
  | cons c word ih =>
    have small := plain c List.mem_cons_self
    have rest := ih (fun c among => plain c (List.mem_cons_of_mem _ among)) []
    rw [List.nil_append, lossyChars, List.nil_append] at rest
    rw [List.map_cons, lossyChars_append (byte_lt small), lossyChars_ascii (byte_lt small),
      toNat_byte small, Char.ofNat_toNat, rest]

theorem encode_eq {text : String} (plain : ∀ c ∈ text.toList, c.toNat < 0x80) :
    encode text = text.toList.map byte := by
  unfold encode
  generalize text.toList = word at plain
  induction word with
  | nil => rfl
  | cons c word ih =>
    have small := Nat.le_of_lt_succ (plain c List.mem_cons_self)
    have one : String.utf8EncodeChar c = [byte c] := if_pos small
    rw [List.flatMap_cons, one, ih fun c among => plain c (List.mem_cons_of_mem _ among)]
    rfl

/-- The bits of the first byte of a longer character that count for its value. -/
def payload (first : UInt8) (count : Nat) : UInt8 :=
  if count = 1 then first &&& 0x1F else if count = 2 then first &&& 0x0F else first &&& 0x07

/-- The value of a character so far, and what the next byte adds to it. -/
def shift (value : Nat) (b : UInt8) : Nat := value * 64 + (b &&& 0x3F).toNat

theorem le_foldl_shift (value : Nat) (bs : Bytes) : value ≤ bs.foldl shift value := by
  induction bs generalizing value with
  | nil => exact Nat.le_refl _
  | cons b bs ih =>
    have more : value ≤ shift value b := by
      unfold shift
      omega
    exact Nat.le_trans more (ih _)

theorem toNat_and_mask (b mask : UInt8) (bits : Nat) (same : mask.toNat = Nat.pow 2 bits - 1) :
    (b &&& mask).toNat = b.toNat % Nat.pow 2 bits := by
  rw [UInt8.toNat_and, same]
  exact Nat.and_two_pow_sub_one_eq_mod ..

/-- The bytes of a longer character outweigh ASCII: if not the first one alone, then the first two,
since the range of the second one is narrowed where the first one has little to say. -/
theorem heavy (opens : opening b = some (count, low, high)) :
    count = 1 ∧ 2 ≤ (payload b count).toNat ∨ 2 ≤ count ∧ ∀ second : UInt8,
      low ≤ second → second ≤ high → 2 ≤ shift (payload b count).toNat second := by
  have five : (b &&& 0x1F).toNat = b.toNat % 32 := toNat_and_mask b 0x1F 5 rfl
  have four : (b &&& 0x0F).toNat = b.toNat % 16 := toNat_and_mask b 0x0F 4 rfl
  have three : (b &&& 0x07).toNat = b.toNat % 8 := toNat_and_mask b 0x07 3 rfl
  have six (second : UInt8) : (second &&& 0x3F).toNat = second.toNat % 64 :=
    toNat_and_mask second 0x3F 6 rfl
  unfold opening at opens
  unfold shift payload
  simp only [UInt8.lt_iff_toNat_lt, UInt8.le_iff_toNat_le, beq_iff_eq, ← UInt8.toNat_inj,
    UInt8.reduceToNat] at opens ⊢
  repeat' split at opens
  all_goals cases opens
  · -- two bytes in all
    exact .inl ⟨rfl, by rw [if_pos rfl]; omega⟩
  all_goals
    refine .inr ⟨by decide, fun second narrow wide => ?_⟩
    have := six second
    simp only [UInt8.reduceToNat] at narrow wide
    simp only [Nat.reduceEqDiff, if_false, if_true]
    omega

/-- The value of a longer character lies outside ASCII. -/
theorem le_value (opens : opening b = some (count, low, high))
    (whole : continuations count low high rest = count) :
    0x80 ≤ (rest.take count).foldl shift (payload b count).toNat := by
  rcases heavy opens with ⟨rfl, large⟩ | ⟨several, large⟩
  · cases rest with
    | nil => cases whole
    | cons second rest =>
      rw [List.take_succ_cons, List.foldl_cons]
      have value : 0x80 ≤ shift (payload b 1).toNat second := by
        unfold shift
        omega
      exact Nat.le_trans value (le_foldl_shift _ _)
  · obtain ⟨count, rfl⟩ : ∃ k, count = k + 2 := ⟨count - 2, by omega⟩
    cases rest with
    | nil => cases whole
    | cons second rest =>
      unfold continuations at whole
      split at whole
      · next inside =>
        have least := large second inside.1 inside.2
        cases rest with
        | nil => cases whole
        | cons third rest =>
          rw [List.take_succ_cons, List.take_succ_cons, List.foldl_cons, List.foldl_cons]
          generalize shift (payload b (count + 2)).toNat second = first at least
          have value : 0x80 ≤ shift first third := by
            unfold shift
            omega
          exact Nat.le_trans value (le_foldl_shift _ _)
      · cases whole

/-- What several bytes are combined into is not ASCII. -/
theorem combine_not_plain (opens : opening b = some (count, low, high))
    (whole : continuations count low high rest = count) : ¬ IsPlain (combine b count rest) := by
  have value := le_value opens whole
  rintro ⟨positive, small⟩
  have same : combine b count rest
    = Char.ofNat ((rest.take count).foldl shift (payload b count).toNat) := rfl
  rw [same] at positive small
  rcases toNat_ofNat ((rest.take count).foldl shift (payload b count).toNat) with here | none
  · rw [here] at small
    exact Nat.not_lt_of_le value small
  · exact Nat.ne_of_gt positive none

/-- **What a plain character was made of is its byte.** -/
theorem lead_plain (plain : IsPlain c) (start : lead b rest = .character c n) :
    b = byte c ∧ n = 0 := by
  unfold lead at start
  split at start
  · next small =>
    obtain ⟨rfl, rfl⟩ := Lead.character.inj start
    refine ⟨?_, rfl⟩
    rw [byte, toNat_ofNat_ascii (UInt8.lt_iff_toNat_lt.mp small), UInt8.ofNat_toNat]
  split at start
  · cases start
  · next count low high opens =>
    dsimp only at start
    split at start
    · next whole =>
      obtain ⟨rfl, -⟩ := Lead.character.inj start
      exact absurd plain (combine_not_plain opens whole)
    · split at start <;> cases start

theorem replacement_not_plain : ¬ IsPlain replacement := by
  unfold IsPlain
  decide

/-- Plain characters at the front of the text are bytes at the front of the string. -/
theorem prefix_of_prefix_lossyChars {word : List Char} (plain : ∀ c ∈ word, IsPlain c)
    (front : word <+: lossyChars bs) : word.map byte <+: bs := by
  induction word generalizing bs with
  | nil => exact List.nil_prefix
  | cons c word ih =>
    have first := plain c List.mem_cons_self
    have others : ∀ c ∈ word, IsPlain c := fun c among => plain c (List.mem_cons_of_mem _ among)
    cases bs with
    | nil =>
      rw [lossyChars] at front
      cases List.prefix_nil.mp front
    | cons b rest =>
      rw [lossyChars] at front
      split at front
      · next d n start =>
        obtain ⟨rfl, later⟩ := List.cons_prefix_cons.mp front
        obtain ⟨rfl, rfl⟩ := lead_plain first start
        exact List.cons_prefix_cons.mpr ⟨rfl, ih others later⟩
      · obtain ⟨rfl, -⟩ := List.cons_prefix_cons.mp front
        exact absurd first replacement_not_plain
      · obtain ⟨rfl, -⟩ := List.cons_prefix_cons.mp front
        exact absurd first replacement_not_plain

/-- **Plain characters in the text are bytes in the string.** -/
theorem infix_of_infix_lossyChars {word : List Char} (plain : ∀ c ∈ word, IsPlain c)
    (inside : word <:+: lossyChars bs) : word.map byte <:+: bs := by
  fun_induction lossyChars bs with
  | case1 =>
    rw [List.infix_nil.mp inside]
    exact List.nil_infix
  | case2 b rest c n start ih | case3 b rest n start ih | case4 b rest n start ih =>
    rcases List.infix_cons_iff.mp inside with front | later
    · refine (prefix_of_prefix_lossyChars plain ?_).isInfix
      rw [lossyChars, start]
      exact front
    · exact (ih later).trans ((List.drop_suffix n rest).trans (List.suffix_cons b rest)).isInfix

/-- Where there is no plain byte, there is no such character. -/
theorem not_mem_lossyChars (plain : IsPlain c) (free : byte c ∉ bs) : c ∉ lossyChars bs := by
  intro among
  obtain ⟨before, after, same⟩ := List.append_of_mem among
  have inside : [c] <:+: lossyChars bs := ⟨before, after, by rw [same, List.append_assoc]; rfl⟩
  have found := infix_of_infix_lossyChars (fun d here => List.mem_singleton.mp here ▸ plain) inside
  exact free (found.subset List.mem_cons_self)

/-! ## Encoded text -/

section Encode

variable {v : Nat}

/-- A character is as many bytes as its first one says, where they are there. -/
theorem lead_of_opening (large : ¬ b < 0x80) (opens : opening b = some (count, low, high))
    (whole : continuations count low high rest = count) :
    lead b rest = .character (combine b count rest) count := by
  rw [lead, if_neg large, opens]
  exact if_pos whole

theorem combine_eq (b : UInt8) (count : Nat) (rest : Bytes) :
    combine b count rest = Char.ofNat ((rest.take count).foldl shift (payload b count).toNat) := rfl

theorem toNat_ofNat_byte (small : n < 256) : (UInt8.ofNat n).toNat = n :=
  UInt8.toNat_ofNat_of_lt' small

/-- A byte after the first one, with six bits of the value. -/
def trailing (v : Nat) : UInt8 := .ofNat (v % 64 + 0x80)

theorem toNat_trailing (v : Nat) : (trailing v).toNat = v % 64 + 0x80 :=
  toNat_ofNat_byte (by omega)

theorem continuations_trailing (n v : Nat) (rest : Bytes) :
    continuations (n + 1) 0x80 0xBF (trailing v :: rest) = continuations n 0x80 0xBF rest + 1 := by
  have inside : 0x80 ≤ trailing v ∧ trailing v ≤ 0xBF := by
    simp only [UInt8.le_iff_toNat_le, toNat_trailing, UInt8.reduceToNat]
    omega
  exact if_pos inside

theorem shift_trailing (high v : Nat) : shift high (trailing v) = high * 64 + v % 64 := by
  have six : (trailing v &&& 0x3F).toNat = (trailing v).toNat % 64 := toNat_and_mask _ 0x3F 6 rfl
  rw [shift, six, toNat_trailing]
  omega

private theorem lead_two (least : 0x7F < v) (most : v ≤ 0x7FF) (rest : Bytes) :
    lead (.ofNat (v / 64 % 32 + 0xC0)) (trailing v :: rest) = .character (Char.ofNat v) 1 := by
  have first := toNat_ofNat_byte (n := v / 64 % 32 + 0xC0) (by omega)
  generalize UInt8.ofNat (v / 64 % 32 + 0xC0) = b at first
  have large : ¬ b < 0x80 := by
    simp only [UInt8.lt_iff_toNat_lt, first, UInt8.reduceToNat]
    omega
  have opens : opening b = some (1, 0x80, 0xBF) := by
    unfold opening
    simp only [UInt8.lt_iff_toNat_lt, first, UInt8.reduceToNat]
    rw [if_neg (by omega), if_pos (by omega)]
  have bits : (payload b 1).toNat = v / 64 := by
    have kept : (b &&& 0x1F).toNat = b.toNat % 32 := toNat_and_mask b 0x1F 5 rfl
    refine kept.trans ?_
    rw [first]
    omega
  rw [lead_of_opening large opens (continuations_trailing 0 v rest), combine_eq, bits,
    List.take_succ_cons, List.foldl_cons, shift_trailing, List.take_zero, List.foldl_nil]
  congr 2
  omega

/-- The range of the byte after the first one is narrowed so far that the value is large enough and
no surrogate. -/
private theorem lead_three (least : 0x7FF < v) (most : v ≤ 0xFFFF)
    (valid : v < 0xD800 ∨ 0xDFFF < v) (rest : Bytes) :
    lead (.ofNat (v / 4096 % 16 + 0xE0)) (trailing (v / 64) :: trailing v :: rest)
      = .character (Char.ofNat v) 2 := by
  have first := toNat_ofNat_byte (n := v / 4096 % 16 + 0xE0) (by omega)
  generalize UInt8.ofNat (v / 4096 % 16 + 0xE0) = b at first
  have large : ¬ b < 0x80 := by
    simp only [UInt8.lt_iff_toNat_lt, first, UInt8.reduceToNat]
    omega
  obtain ⟨low, high, opens, inside⟩ : ∃ low high : UInt8, opening b = some (2, low, high) ∧
      low ≤ trailing (v / 64) ∧ trailing (v / 64) ≤ high := by
    unfold opening
    simp only [UInt8.lt_iff_toNat_lt, UInt8.le_iff_toNat_le, beq_iff_eq, ← UInt8.toNat_inj, first,
      toNat_trailing, UInt8.reduceToNat]
    rw [if_neg (by omega), if_neg (by omega)]
    repeat' split
    all_goals first
      | exact ⟨_, _, rfl, by simp only [UInt8.reduceToNat]; omega⟩
      | omega
  have bits : (payload b 2).toNat = v / 4096 := by
    have kept : (b &&& 0x0F).toNat = b.toNat % 16 := toNat_and_mask b 0x0F 4 rfl
    refine kept.trans ?_
    rw [first]
    omega
  have whole : continuations 2 low high (trailing (v / 64) :: trailing v :: rest) = 2 := by
    rw [continuations, if_pos inside, continuations_trailing]
    rfl
  rw [lead_of_opening large opens whole, combine_eq, bits]
  simp only [List.take_succ_cons, List.foldl_cons, shift_trailing, List.take_zero, List.foldl_nil]
  congr 2
  omega

private theorem lead_four (least : 0xFFFF < v) (most : v < 0x110000) (rest : Bytes) :
    lead (.ofNat (v / 262144 % 8 + 0xF0))
        (trailing (v / 4096) :: trailing (v / 64) :: trailing v :: rest)
      = .character (Char.ofNat v) 3 := by
  have first := toNat_ofNat_byte (n := v / 262144 % 8 + 0xF0) (by omega)
  generalize UInt8.ofNat (v / 262144 % 8 + 0xF0) = b at first
  have large : ¬ b < 0x80 := by
    simp only [UInt8.lt_iff_toNat_lt, first, UInt8.reduceToNat]
    omega
  obtain ⟨low, high, opens, inside⟩ : ∃ low high : UInt8, opening b = some (3, low, high) ∧
      low ≤ trailing (v / 4096) ∧ trailing (v / 4096) ≤ high := by
    unfold opening
    simp only [UInt8.lt_iff_toNat_lt, UInt8.le_iff_toNat_le, beq_iff_eq, ← UInt8.toNat_inj, first,
      toNat_trailing, UInt8.reduceToNat]
    rw [if_neg (by omega), if_neg (by omega), if_neg (by omega), if_neg (by omega),
      if_neg (by omega)]
    repeat' split
    all_goals first
      | exact ⟨_, _, rfl, by simp only [UInt8.reduceToNat]; omega⟩
      | omega
  have bits : (payload b 3).toNat = v / 262144 := by
    have kept : (b &&& 0x07).toNat = b.toNat % 8 := toNat_and_mask b 0x07 3 rfl
    refine kept.trans ?_
    rw [first]
    omega
  have whole : continuations 3 low high
      (trailing (v / 4096) :: trailing (v / 64) :: trailing v :: rest) = 3 := by
    rw [continuations, if_pos inside, continuations_trailing, continuations_trailing]
    rfl
  rw [lead_of_opening large opens whole, combine_eq, bits]
  simp only [List.take_succ_cons, List.foldl_cons, shift_trailing, List.take_zero, List.foldl_nil]
  congr 2
  omega

/-- **What a character is written as reads as this character**, whatever comes after it. -/
theorem lead_encodeChar (c : Char) (rest : Bytes) :
    ∃ first more n, String.utf8EncodeChar c ++ rest = first :: more ∧
      lead first more = .character c n ∧ more.drop n = rest := by
  have valid : c.val.toNat < 0xD800 ∨ 0xDFFF < c.val.toNat ∧ c.val.toNat < 0x110000 := c.valid
  have back : Char.ofNat c.val.toNat = c := Char.ofNat_toNat c
  unfold String.utf8EncodeChar
  dsimp only
  generalize c.val.toNat = v at valid back ⊢
  subst back
  by_cases one : v ≤ 0x7F
  · have small := toNat_ofNat_byte (n := v) (by omega)
    have plain : UInt8.ofNat v < 0x80 := by
      rw [UInt8.lt_iff_toNat_lt, small]
      exact Nat.lt_succ_of_le one
    rw [if_pos one]
    refine ⟨.ofNat v, rest, 0, rfl, ?_, rfl⟩
    rw [lead, if_pos plain, small]
  by_cases two : v ≤ 0x7FF
  · rw [if_neg one, if_pos two]
    exact ⟨_, _, 1, rfl, lead_two (by omega) two rest, rfl⟩
  by_cases three : v ≤ 0xFFFF
  · rw [if_neg one, if_neg two, if_pos three]
    exact ⟨_, _, 2, rfl, lead_three (by omega) three (by omega) rest, rfl⟩
  · rw [if_neg one, if_neg two, if_neg three]
    exact ⟨_, _, 3, rfl, lead_four (by omega) (by omega) rest, rfl⟩

/-- **Text is decoded as it was encoded.** -/
theorem lossy_encode (text : String) : lossy (encode text) = text := by
  have chars (cs : List Char) : lossyChars (cs.flatMap String.utf8EncodeChar) = cs := by
    induction cs with
    | nil => rw [List.flatMap_nil, lossyChars]
    | cons c cs ih =>
      obtain ⟨first, more, n, same, start, rest⟩ :=
        lead_encodeChar c (cs.flatMap String.utf8EncodeChar)
      rw [List.flatMap_cons, same, lossyChars, start]
      simp only [rest, ih]
  rw [lossy, encode, chars, String.ofList_toList]

theorem decode?_encode (text : String) : decode? (encode text) = .ok text := by
  have chars (cs : List Char) (index : Nat) :
      decodeFrom index (cs.flatMap String.utf8EncodeChar) = .ok cs := by
    induction cs generalizing index with
    | nil => rw [List.flatMap_nil, decodeFrom]
    | cons c cs ih =>
      obtain ⟨first, more, n, same, start, rest⟩ :=
        lead_encodeChar c (cs.flatMap String.utf8EncodeChar)
      rw [List.flatMap_cons, same, decodeFrom, start]
      simp only [rest, ih]
      rfl
  rw [decode?, encode, chars]
  exact congrArg Except.ok (String.ofList_toList)

/-- An ASCII byte among the bytes is a character of the text. -/
theorem mem_lossyChars (plain : a < 0x80) (among : a ∈ bs) :
    Char.ofNat a.toNat ∈ lossyChars bs := by
  obtain ⟨before, after, rfl⟩ := List.append_of_mem among
  rw [lossyChars_append plain, lossyChars_ascii plain]
  exact List.mem_append_right _ List.mem_cons_self

theorem mem_of_mem_encode {text : String} (plain : a < 0x80) (among : a ∈ encode text) :
    Char.ofNat a.toNat ∈ text.toList := by
  have chars : lossyChars (encode text) = text.toList := by
    rw [← String.toList_ofList (l := lossyChars (encode text))]
    exact congrArg String.toList (lossy_encode text)
  exact chars ▸ mem_lossyChars plain among

end Encode

end Utf8

end Fleet
