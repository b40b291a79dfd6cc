import Fleet.ExitStatus
import Fleet.Proofs.Numerals

/-!
# What a marker announces

A line may carry an exit status: a marker, blank characters, and a number. `ExitStatus.extract`
looks for the first marker and finds it where it was put, whatever text stands in front of it, even
text that breaks off in the middle of another marker (`splitFirst_eq_some`). The number is read to
its end and no further, whatever comes after it (`numberChars_toString`), and every number that a
status can be is read as it was written (`int32?_toString`).

**The law** (`ExitStatus.announced_extracted`): the text in front of the marker is shown, less one
newline at its end, and the status is the number that was written. A line without a marker is shown
as it is, and of no line is a marker shown.
-/

namespace Fleet

/-! ## The first place -/

section SplitFirst

variable {pattern cs before after : List Char}

/-- No proper part of the pattern is both its beginning and its end. -/
def IsUnbordered (pattern : List Char) : Prop :=
  ∀ k < pattern.length, 0 < k → pattern.take k ≠ pattern.drop (pattern.length - k)

instance (pattern : List Char) : Decidable (IsUnbordered pattern) :=
  inferInstanceAs (Decidable (∀ k < pattern.length, _))

theorem splitFirst_eq_none {cs : List Char} (free : ¬ pattern <:+: cs) :
    splitFirst pattern cs = none := by
  induction cs with
  | nil =>
    refine if_neg fun none => free ?_
    exact List.isEmpty_iff.mp none ▸ List.nil_infix
  | cons c cs ih =>
    have here : ¬ pattern.isPrefixOf (c :: cs) = true := fun front =>
      free (List.isPrefixOf_iff_prefix.mp front).isInfix
    have later : ¬ pattern <:+: cs := fun inside => free (List.infix_cons inside)
    rw [splitFirst, if_neg here, ih later, Option.map_none]

/-- The pattern does not stand earlier, half in what is before it and half in itself. -/
theorem not_prefix_of_unbordered (unbordered : IsUnbordered pattern) (some : before ≠ [])
    (free : ¬ pattern <:+: before) (after : List Char) :
    ¬ pattern <+: before ++ (pattern ++ after) := by
  intro front
  by_cases long : pattern.length ≤ before.length
  · exact free (List.prefix_of_prefix_length_le front (List.prefix_append ..) long).isInfix
  -- the pattern begins with all of `before`, and what is left of it begins the pattern
  have short := Nat.lt_of_not_le long
  obtain ⟨rest, same⟩ := List.prefix_of_prefix_length_le (List.prefix_append ..) front
    (Nat.le_of_lt short)
  have begins : rest <+: pattern ++ after := by
    rw [← same] at front
    have := (List.prefix_append_right_inj before).mp front
    rwa [same] at this
  have size : before.length + rest.length = pattern.length := by
    rw [← List.length_append, same]
  have proper : rest.length < pattern.length := by
    have := List.length_pos_iff.mpr some
    omega
  have left : pattern.take rest.length = rest := by
    have := List.prefix_of_prefix_length_le begins (List.prefix_append ..) (Nat.le_of_lt proper)
    exact (List.prefix_iff_eq_take.mp this).symm
  have right : pattern.drop (pattern.length - rest.length) = rest := by
    have length : pattern.length - rest.length = before.length := by omega
    rw [length, ← same, List.drop_left]
  exact unbordered rest.length proper (by omega) (left.trans right.symm)

/-- **The first place of an unbordered pattern is where it was put.** -/
theorem splitFirst_eq_some (unbordered : IsUnbordered pattern) (free : ¬ pattern <:+: before)
    (after : List Char) :
    splitFirst pattern (before ++ (pattern ++ after)) = some (before, after) := by
  induction before with
  | nil =>
    cases pattern with
    | nil => exact absurd List.nil_infix free
    | cons p pattern =>
      have front : (p :: pattern).isPrefixOf (p :: pattern ++ after) = true :=
        List.isPrefixOf_iff_prefix.mpr (List.prefix_append ..)
      have rest : (p :: pattern ++ after).drop (p :: pattern).length = after := List.drop_left
      exact (if_pos front).trans (congrArg (fun after => some ([], after)) rest)
  | cons c before ih =>
    have here : ¬ pattern.isPrefixOf (c :: (before ++ (pattern ++ after))) = true := fun front =>
      not_prefix_of_unbordered unbordered (List.cons_ne_nil c before) free after
        (List.isPrefixOf_iff_prefix.mp front)
    have later : ¬ pattern <:+: before := fun inside => free (List.infix_cons inside)
    rw [List.cons_append, splitFirst, if_neg here, ih later, Option.map_some]

/-- Where a pattern is found, the text is split around it, and it does not stand earlier. -/
theorem splitFirst_splits (visible : pattern ≠ [])
    (found : splitFirst pattern cs = some (before, after)) :
    cs = before ++ (pattern ++ after) ∧ ¬ pattern <:+: before := by
  induction cs generalizing before with
  | nil =>
    unfold splitFirst at found
    rw [if_neg (mt List.isEmpty_iff.mp visible)] at found
    cases found
  | cons c cs ih =>
    unfold splitFirst at found
    split at found
    · next front =>
      cases found
      obtain ⟨rest, whole⟩ := List.isPrefixOf_iff_prefix.mp front
      refine ⟨?_, fun inside => visible (List.infix_nil.mp inside)⟩
      rw [← whole, List.drop_left, List.nil_append]
    · next front =>
      obtain ⟨⟨before', after'⟩, later, same⟩ := Option.map_eq_some_iff.mp found
      cases same
      obtain ⟨rfl, free⟩ := ih later
      refine ⟨rfl, fun inside => ?_⟩
      rcases List.infix_cons_iff.mp inside with here | within
      · have part : c :: before' <+: c :: (before' ++ (pattern ++ after)) :=
          List.prefix_append (c :: before') _
        exact front (List.isPrefixOf_iff_prefix.mpr (here.trans part))
      · exact free within

/-- Where it is not found, it does not stand at all. -/
theorem not_infix_of_splitFirst (none : splitFirst pattern cs = none) : ¬ pattern <:+: cs := by
  induction cs with
  | nil =>
    intro inside
    rw [List.infix_nil.mp inside] at none
    cases none
  | cons c cs ih =>
    unfold splitFirst at none
    split at none
    · cases none
    · next front =>
      intro inside
      rcases List.infix_cons_iff.mp inside with here | within
      · exact front (List.isPrefixOf_iff_prefix.mpr here)
      · exact ih (Option.map_eq_none_iff.mp none) within

end SplitFirst

/-! ## Reading the number -/

namespace ExitStatus

variable {rest blanks : List Char}

theorem not_isBlank_of_isDigit {c : Char} (digit : c.isDigit = true) : isBlank c = false := by
  have range := Numeral.range_of_isDigit digit
  simp only [isBlank, blankRanges, List.any_cons, List.any_nil, Bool.or_false, Bool.or_eq_false_iff,
    Bool.and_eq_false_iff, decide_eq_false_iff_not]
  omega

/-- A number begins with a sign or a digit. -/
theorem exists_toString (i : Int) :
    ∃ c cs, (toString i).toList = c :: cs ∧ (c = '-' ∨ c.isDigit = true) := by
  rw [Numeral.toList_toString_int]
  by_cases positive : 0 ≤ i
  · cases listed : Nat.toDigits 10 i.natAbs with
    | nil => exact absurd listed Nat.toDigits_ne_nil
    | cons c cs =>
      have digit := Numeral.isDigit_of_mem (listed ▸ List.mem_cons_self : c ∈ _)
      exact ⟨c, cs, by rw [if_pos positive, List.nil_append], .inr digit⟩
  · exact ⟨'-', _, by rw [if_neg positive]; rfl, .inl rfl⟩

/-- The digits of a number end where something else begins. -/
theorem takeWhile_toDigits (ends : ∀ c, rest.head? = some c → c.isDigit = false) (n : Nat) :
    (Nat.toDigits 10 n ++ rest).takeWhile Char.isDigit = Nat.toDigits 10 n := by
  rw [List.takeWhile_append_of_pos fun c among => Numeral.isDigit_of_mem among]
  cases rest with
  | nil => exact List.append_nil _
  | cons c rest =>
    rw [List.takeWhile_cons_of_neg (by simp [ends c rfl]), List.append_nil]

/-- **A number is read to its end and no further.** -/
theorem numberChars_toString (ends : ∀ c, rest.head? = some c → c.isDigit = false) (i : Int) :
    numberChars ((toString i).toList ++ rest) = (toString i).toList := by
  rw [Numeral.toList_toString_int]
  by_cases positive : 0 ≤ i
  · rw [if_pos positive, List.nil_append]
    have digits := takeWhile_toDigits ends i.natAbs
    unfold numberChars
    split
    · next rest' listed =>
      -- the first character is a digit and no sign
      cases digitsOf : Nat.toDigits 10 i.natAbs with
      | nil => exact absurd digitsOf Nat.toDigits_ne_nil
      | cons c cs =>
        rw [digitsOf] at listed
        cases listed
        exact absurd digitsOf (Numeral.toDigits_unsigned _ _)
    · exact digits
  · rw [if_neg positive, List.singleton_append, List.cons_append, numberChars,
      takeWhile_toDigits ends]

/-- Blank characters in front of a number are passed over, and nothing else is. -/
theorem dropBlanks_toString (blank : ∀ c ∈ blanks, isBlank c = true) (i : Int)
    (rest : List Char) :
    dropBlanks (blanks ++ ((toString i).toList ++ rest)) = (toString i).toList ++ rest := by
  obtain ⟨c, cs, same, first⟩ := exists_toString i
  have visible : isBlank c = false := by
    rcases first with rfl | digit
    · decide
    · exact not_isBlank_of_isDigit digit
  rw [dropBlanks, List.dropWhile_append_of_pos blank, same, List.cons_append,
    List.dropWhile_cons_of_neg (by simp [visible])]

/-- The first marker of a text is followed by this number, with blank characters between them. -/
def Announces (text : List Char) (n : Int32) : Prop :=
  ∃ before blanks after, ¬ marker.toList <:+: before ∧ (∀ c ∈ blanks, isBlank c = true) ∧
    (∀ c, after.head? = some c → c.isDigit = false) ∧
    text = before ++ (marker.toList ++ (blanks ++ ((toString n.toInt).toList ++ after)))

/-! ## Of a line -/

theorem marker_unbordered : IsUnbordered marker.toList := by decide

/-- One newline is taken off the end, where there is one. -/
theorem chomp_splits (cs : List Char) :
    cs = chomp cs ++ ['\n'] ∨ cs = chomp cs ∧ cs.getLast? ≠ some '\n' := by
  unfold chomp
  split
  · next last =>
    obtain ⟨front, rfl⟩ := List.getLast?_eq_some_iff.mp last
    exact .inl (by rw [List.dropLast_concat])
  · next other => exact .inr ⟨rfl, fun last => other last⟩

theorem chomp_prefix (cs : List Char) : chomp cs <+: cs := by
  rcases chomp_splits cs with whole | ⟨same, -⟩
  · exact ⟨['\n'], whole.symm⟩
  · exact ⟨[], by rw [List.append_nil, ← same]⟩

/-- A line without the marker is shown as it is. -/
theorem extract_unmarked {line : String} (free : ¬ marker.toList <:+: line.toList) :
    extract line = (line, none) := by
  rw [extract, splitFirst_eq_none free]

/-- The text in front of the first marker is shown, and what follows the marker is read. -/
theorem extract_split {line : String} {before after : List Char}
    (split : line.toList = before ++ (marker.toList ++ after))
    (free : ¬ marker.toList <:+: before) :
    extract line = (String.ofList (chomp before),
      Numeral.int32? (numberChars (dropBlanks after))) := by
  rw [extract, split, splitFirst_eq_some marker_unbordered free]

/-- **What is announced is read.** -/
theorem extract_announced {line : String} {n : Int32} (announced : Announces line.toList n) :
    (extract line).2 = some n := by
  obtain ⟨before, blanks, after, free, blank, ends, split⟩ := announced
  rw [extract_split split free, dropBlanks_toString blank, numberChars_toString ends,
    Numeral.int32?_toString]

/-- A part of the line in front of all markers is shown. -/
theorem extract_shown (line : String) :
    (extract line).1.toList <+: line.toList ∧
      ¬ marker.toList <:+: (extract line).1.toList := by
  unfold extract
  cases found : splitFirst marker.toList line.toList with
  | none => exact ⟨List.prefix_rfl, not_infix_of_splitFirst found⟩
  | some pair =>
    obtain ⟨before, after⟩ := pair
    obtain ⟨whole, free⟩ := splitFirst_splits (by decide) found
    have front : chomp before <+: before := chomp_prefix before
    rw [String.toList_ofList, whole]
    refine ⟨front.trans (List.prefix_append ..), fun inside => free ?_⟩
    exact inside.trans front.isInfix

/-- What is shown of a line was in it. -/
theorem extract_subset (line : String) : (extract line).1.toList ⊆ line.toList :=
  (extract_shown line).1.subset

/-- **The status that a line announces is extracted.** What is shown of a line is a front part of
it without a marker, and all of it, with no status, where it has none. And let any text without a
marker, a marker, blank characters, a number of 32 bits in decimal, and a text that does not begin
with a digit stand in a line one after the other: then the text in front is shown, less one newline
if it ends with one, and the status is the number. -/
theorem announced_extracted :
    (∀ line : String, (extract line).1.toList <+: line.toList ∧
      ¬ marker.toList <:+: (extract line).1.toList ∧
      (¬ marker.toList <:+: line.toList → extract line = (line, none))) ∧
    ∀ (before blanks : String) (n : Int32) (after : String), ¬ marker.toList <:+: before.toList →
      (∀ c ∈ blanks.toList, isBlank c = true) →
      (∀ c, after.toList.head? = some c → c.isDigit = false) →
      ∃ shown, extract (before ++ marker ++ blanks ++ toString n.toInt ++ after)
          = (shown, some n) ∧
        (before = shown ++ "\n" ∨ before = shown ∧ before.toList.getLast? ≠ some '\n') := by
  constructor
  · intro line
    obtain ⟨front, unmarked⟩ := extract_shown line
    exact ⟨front, unmarked, extract_unmarked⟩
  · intro before blanks n after free blank ends
    have split : (before ++ marker ++ blanks ++ toString n.toInt ++ after).toList
        = before.toList ++ (marker.toList
          ++ (blanks.toList ++ ((toString n.toInt).toList ++ after.toList))) := by
      simp only [String.toList_append, List.append_assoc]
    have status := extract_announced ⟨_, _, _, free, blank, ends, split⟩
    refine ⟨String.ofList (chomp before.toList), ?_, ?_⟩
    · rw [← status, extract_split split free]
    · rcases chomp_splits before.toList with whole | ⟨same, last⟩
      · refine .inl (String.toList_inj.mp ?_)
        rw [String.toList_append, String.toList_ofList]
        exact whole
      · refine .inr ⟨String.toList_inj.mp ?_, last⟩
        rw [String.toList_ofList]
        exact same

/-- The text in front of the marker breaks off in another one, the number is the least there is,
and a sign and more markers follow it. -/
theorem announced_extracted_least :
    ¬ marker.toList <:+: "x\n__FANOUT_".toList ∧
      (∀ c ∈ "\u00a0 \t".toList, isBlank c = true) ∧
      (∀ c, "-7__FANOUT_RC__:3".toList.head? = some c → c.isDigit = false) ∧
      extract ("x\n__FANOUT_" ++ marker ++ "\u00a0 \t" ++ toString Int32.minValue.toInt
          ++ "-7__FANOUT_RC__:3") = ("x\n__FANOUT_", some Int32.minValue) := by
  have free : ¬ marker.toList <:+: "x\n__FANOUT_".toList := by decide +kernel
  have blank : ∀ c ∈ "\u00a0 \t".toList, isBlank c = true :=
    List.all_eq_true.mp (by decide)
  have ends : ∀ c, "-7__FANOUT_RC__:3".toList.head? = some c → c.isDigit = false := by
    intro c first
    cases first
    rfl
  obtain ⟨shown, extracted, whole⟩ := announced_extracted.2 _ _ Int32.minValue _ free blank ends
  refine ⟨free, blank, ends, ?_⟩
  rcases whole with cut | ⟨rfl, -⟩
  · -- the text does not end with a newline
    have last := congrArg (fun text => text.toList.getLast?) cut
    simp only [String.toList_append, List.getLast?_append] at last
    cases last
  · exact extracted

end ExitStatus

end Fleet
