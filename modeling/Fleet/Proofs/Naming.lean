import Fleet.Proofs.Wire

/-!
# Names on the wire

The line that announces a file or a directory ends with its name. A name is a byte string with few
rules, and the line is text that ends with a newline, so not every name comes through: the name is
decoded first, with a replacement character for what is not UTF-8, and then written as it is.

**The law** (`CopyEntry.names_survive`): the line is one line that ends with the object's own name
if and only if that name is UTF-8 and has no newline. `CopyEntry.names_survive_fails` shows what
becomes of others: two objects get one name, or one object's name is read as several entries.
-/

namespace Fleet

namespace FilePath

variable {name : Bytes}

theorem piecesOf_ne_nil (path : Bytes) : piecesOf path ≠ [] := by
  unfold piecesOf
  repeat' split
  all_goals exact List.cons_ne_nil _ _

/-- A slash separates the pieces before it from those after it. -/
theorem piecesOf_append (path rest : Bytes) :
    piecesOf (path ++ slash :: rest) = piecesOf path ++ piecesOf rest := by
  induction path with
  | nil => exact if_pos rfl
  | cons b path ih =>
    rw [List.cons_append, piecesOf, piecesOf, ih]
    by_cases separates : b = slash
    · rw [if_pos separates, if_pos separates]
      rfl
    · rw [if_neg separates, if_neg separates]
      cases pieces : piecesOf path with
      | nil => exact absurd pieces (piecesOf_ne_nil path)
      | cons piece pieces => rfl

theorem piecesOf_name (free : slash ∉ name) : piecesOf name = [name] := by
  induction name with
  | nil => rfl
  | cons b name ih =>
    have other : b ≠ slash := fun same => free (same ▸ List.mem_cons_self)
    rw [piecesOf, if_neg other, ih fun among => free (List.mem_cons_of_mem b among)]

/-- The pieces of the path of something in a directory: those of the path of the directory, but for
an empty one after a slash at its end, and the name. -/
theorem piecesOf_child (path : Bytes) (isName : IsName name) :
    ∃ before after : List Bytes, before ≠ [] ∧ (∀ piece ∈ after, piece = []) ∧
      piecesOf path = before ++ after ∧ piecesOf (child path name) = before ++ [name] := by
  unfold child
  split
  · next ends =>
    obtain ⟨front, rfl⟩ := List.getLast?_eq_some_iff.mp (beq_iff_eq.mp ends)
    refine ⟨piecesOf front, [[]], piecesOf_ne_nil front, fun piece => List.mem_singleton.mp,
      piecesOf_append front [], ?_⟩
    rw [List.append_assoc, List.singleton_append, piecesOf_append, piecesOf_name isName.free]
  · refine ⟨piecesOf path, [], piecesOf_ne_nil path, ?_, (List.append_nil _).symm, ?_⟩
    · exact fun _ among => absurd among List.not_mem_nil
    rw [piecesOf_append, piecesOf_name isName.free]

/-- **The name at the end of a path inside a directory** is the name there. -/
theorem fileName?_child (path : Bytes) (isName : IsName name) :
    fileName? (child path name) = some name := by
  obtain ⟨before, -, -, -, -, pieces⟩ := piecesOf_child path isName
  unfold fileName?
  rw [pieces, List.filter_append, List.filter_cons_of_pos (by simp [isName.some, isName.self]),
    List.filter_nil, List.getLast?_concat]
  exact if_neg isName.parent

end FilePath

namespace Copy

/-- The bytes after the first blank. -/
def afterBlank : Bytes → Option Bytes
  | [] => none
  | b :: rest => if b = 32 then some rest else afterBlank rest

/-- The name in the line of a file or a directory, if there is one line and nothing else. -/
def recordName? (bytes : Bytes) : Option Bytes :=
  match splitLine bytes with
  | some (line, []) => (afterBlank line).bind afterBlank
  | _ => none

theorem afterBlank_append {word : Bytes} (free : 32 ∉ word) (rest : Bytes) :
    afterBlank (word ++ 32 :: rest) = some rest := by
  induction word with
  | nil => exact if_pos rfl
  | cons b word ih =>
    have other : b ≠ 32 := fun same => free (same ▸ List.mem_cons_self)
    rw [List.cons_append, afterBlank, if_neg other,
      ih fun among => free (List.mem_cons_of_mem b among)]

/-- Text without a blank and without a newline is bytes without them. -/
theorem encode_word {word : List Char} (blank : ' ' ∉ word) (line : '\n' ∉ word) :
    32 ∉ Utf8.encode (String.ofList word) ∧ newline ∉ Utf8.encode (String.ofList word) := by
  refine ⟨fun among => ?_, fun among => ?_⟩
  · have inWord := Utf8.mem_of_mem_encode (by decide) among
    rw [String.toList_ofList] at inWord
    exact blank inWord
  · have inWord := Utf8.mem_of_mem_encode (by decide) among
    rw [String.toList_ofList] at inWord
    exact line inWord

/-- The line of a file or a directory is two words and the name. -/
theorem encode_headerLine {entry : CopyEntry} (announces : entry.kind ≠ .leave) :
    ∃ mode length : Bytes, (32 ∉ mode ∧ newline ∉ mode) ∧ (32 ∉ length ∧ newline ∉ length) ∧
      Utf8.encode (headerLine entry)
        = mode ++ 32 :: (length ++ 32 :: (Utf8.encode entry.name ++ [newline])) := by
  have encode (first second : List Char) (name : String) :
      Utf8.encode (String.ofList (first ++ ' ' :: (second ++ ' ' :: name.toList) ++ ['\n']))
        = Utf8.encode (String.ofList first) ++ 32 ::
          (Utf8.encode (String.ofList second) ++ 32 :: (Utf8.encode name ++ [newline])) := by
    simp only [Utf8.encode, String.toList_ofList, List.flatMap_append, List.flatMap_cons,
      List.append_assoc, List.cons_append]
    rfl
  rw [headerLine_eq]
  unfold headerChars
  cases kind : entry.kind with
  | leave => exact absurd kind announces
  | directory =>
    refine ⟨_, _, encode_word ?_ ?_, encode_word ?_ ?_,
      encode ('D' :: (Numeral.octal4 entry.mode).toList) ['0'] entry.name⟩
    · simp [not_mem_octal4 (c := ' ') (by decide) entry.mode]
    · simp [not_mem_octal4 (c := '\n') (by decide) entry.mode]
    · decide
    · decide
  | file length =>
    refine ⟨_, _, encode_word ?_ ?_, encode_word ?_ ?_,
      encode ('C' :: (Numeral.octal4 entry.mode).toList) (toString length).toList entry.name⟩
    · simp [not_mem_octal4 (c := ' ') (by decide) entry.mode]
    · simp [not_mem_octal4 (c := '\n') (by decide) entry.mode]
    · rw [Numeral.toList_toString]
      exact not_mem_toDigits (by decide) length
    · rw [Numeral.toList_toString]
      exact not_mem_toDigits (by decide) length

/-- **The name in a line is the name that was sent**, unless a newline in it breaks the line. -/
theorem recordName?_headerLine {entry : CopyEntry} (announces : entry.kind ≠ .leave) :
    recordName? (Utf8.encode (headerLine entry))
      = if newline ∈ Utf8.encode entry.name then none else some (Utf8.encode entry.name) := by
  obtain ⟨mode, length, ⟨noBlank, noLine⟩, ⟨noBlank', noLine'⟩, bytes⟩ :=
    encode_headerLine announces
  have front : newline ∉ mode ++ 32 :: (length ++ [32]) := by
    simp only [List.mem_append, List.mem_cons, List.not_mem_nil, or_false, not_or]
    exact ⟨noLine, by decide, noLine', by decide⟩
  have split (rest : Bytes) : splitLine (mode ++ 32 :: (length ++ 32 :: rest))
      = (splitLine rest).map fun pair =>
        (mode ++ 32 :: (length ++ 32 :: pair.1), pair.2) := by
    have := splitLine_append front rest
    simpa [List.append_assoc] using this
  rw [bytes, recordName?, split]
  by_cases broken : newline ∈ Utf8.encode entry.name
  · rw [if_pos broken]
    cases first : splitLine (Utf8.encode entry.name) with
    | none => exact absurd broken (splitLine_eq_none first)
    | some pair =>
      obtain ⟨line, after⟩ := pair
      obtain ⟨whole, free⟩ := splitLine_eq_some first
      rw [whole, List.append_assoc, List.cons_append, splitLine_line free]
      cases after <;> rfl
  · rw [if_neg broken, splitLine_line broken]
    simp only [Option.map_some, afterBlank_append noBlank, afterBlank_append noBlank',
      Option.bind_some]

end Copy

namespace CopyEntry

variable {entry other : CopyEntry} {directory name name' : Bytes}

theorem name_child (isName : FilePath.IsName name)
    (place : entry.path = FilePath.child directory name) : entry.name = Utf8.lossy name := by
  unfold CopyEntry.name
  rw [place, FilePath.fileName?_child directory isName]

/-- A newline in the text of a name is one in the name. -/
theorem newline_mem_encode_lossy (name : Bytes) :
    newline ∈ Utf8.encode (Utf8.lossy name) ↔ newline ∈ name := by
  constructor
  · intro among
    have inText := Utf8.mem_of_mem_encode (by decide) among
    rw [Utf8.lossy, String.toList_ofList] at inText
    refine Decidable.by_contra fun free => ?_
    exact Utf8.not_mem_lossyChars ⟨by decide, by decide⟩ free inText
  · intro among
    have inText := Utf8.mem_lossyChars (by decide) among
    have written : newline ∈ String.utf8EncodeChar (Char.ofNat newline.toNat) := by decide
    refine List.mem_flatMap.mpr ⟨_, ?_, written⟩
    rw [Utf8.lossy, String.toList_ofList]
    exact inText

/-- **Which names survive.** The line that announces an object in a directory is one line that ends
with the object's own name, if and only if that name has no newline and is UTF-8. Two objects of
whose names both are UTF-8 are sent under one name only if they have one. -/
theorem names_survive (isName : FilePath.IsName name) (isName' : FilePath.IsName name')
    (place : entry.path = FilePath.child directory name)
    (place' : other.path = FilePath.child directory name') (announces : entry.kind ≠ .leave) :
    (Copy.recordName? (Utf8.encode (Copy.headerLine entry)) = some name ↔
      newline ∉ name ∧ ∃ text, Utf8.encode text = name) ∧
    ((∃ text, Utf8.encode text = name) → (∃ text, Utf8.encode text = name') →
      entry.name = other.name → name = name') := by
  constructor
  · rw [Copy.recordName?_headerLine announces, name_child isName place]
    by_cases broken : newline ∈ name
    · rw [if_pos ((newline_mem_encode_lossy name).mpr broken)]
      constructor
      · intro own
        cases own
      · rintro ⟨free, -⟩
        exact absurd broken free
    · rw [if_neg fun among => broken ((newline_mem_encode_lossy name).mp among)]
      constructor
      · intro own
        exact ⟨broken, Utf8.lossy name, Option.some.inj own⟩
      · rintro ⟨-, text, rfl⟩
        rw [Utf8.lossy_encode]
  · rintro ⟨text, rfl⟩ ⟨text', rfl⟩ same
    rw [name_child isName place, name_child isName' place', Utf8.lossy_encode,
      Utf8.lossy_encode] at same
    rw [same]

/-- A file in a directory, without anything in it. -/
def emptyFile (directory name : Bytes) : CopyEntry :=
  ⟨FilePath.child directory name, .file 0, 0o644, 0, 0⟩

theorem names_survive_plain :
    Copy.recordName? (Utf8.encode (Copy.headerLine
      (emptyFile (Utf8.encode "d") (Utf8.encode "a b")))) = some (Utf8.encode "a b") := by
  have isName : FilePath.IsName (Utf8.encode "a b") :=
    ⟨by decide, by decide, by decide, by decide, by decide⟩
  have place : (emptyFile (Utf8.encode "d") (Utf8.encode "a b")).path
      = FilePath.child (Utf8.encode "d") (Utf8.encode "a b") := rfl
  have announces : (emptyFile (Utf8.encode "d") (Utf8.encode "a b")).kind ≠ .leave := by decide
  obtain ⟨own, -⟩ := names_survive isName isName place place announces
  exact own.mpr ⟨by decide, "a b", rfl⟩

/-- **Some names do not survive.** Two names that are not UTF-8 are sent as one, which is neither of
them; and the line of a name with newlines is read as the entries that the name spells out. -/
theorem names_survive_fails :
    (FilePath.IsName [0xFF] ∧ FilePath.IsName [0xFE] ∧
      ∀ name ∈ [[0xFF], [0xFE]],
        Copy.recordName? (Utf8.encode (Copy.headerLine (emptyFile (Utf8.encode "d") name)))
          = some (Utf8.encode "\uFFFD")) ∧
    FilePath.IsName (Utf8.encode "x\nE\nD0755 0 y") ∧
      Copy.decode (Utf8.encode (Copy.headerLine ⟨FilePath.child (Utf8.encode "d")
        (Utf8.encode "x\nE\nD0755 0 y"), .directory, 0o755, 0, 0⟩))
      = some [⟨none, .directory 0o755 "x"⟩, ⟨none, .leave⟩, ⟨none, .directory 0o755 "y"⟩] := by
  refine ⟨⟨⟨by decide, by decide, by decide, by decide, by decide⟩,
    ⟨by decide, by decide, by decide, by decide, by decide⟩, ?_⟩,
    ⟨by decide, by decide, by decide, by decide, by decide⟩, ?_⟩
  · intro name among
    simp only [List.mem_cons, List.not_mem_nil, or_false] at among
    rcases among with rfl | rfl
    · decide +kernel
    · decide +kernel
  · have first : Copy.item? (Utf8.encode (Copy.headerLine ⟨FilePath.child (Utf8.encode "d")
        (Utf8.encode "x\nE\nD0755 0 y"), .directory, 0o755, 0, 0⟩))
        = some (⟨none, .directory 0o755 "x"⟩, Utf8.encode "E\nD0755 0 y\n") := by decide +kernel
    have second : Copy.item? (Utf8.encode "E\nD0755 0 y\n")
        = some (⟨none, .leave⟩, Utf8.encode "D0755 0 y\n") := by decide +kernel
    have third : Copy.item? (Utf8.encode "D0755 0 y\n")
        = some (⟨none, .directory 0o755 "y"⟩, []) := by decide +kernel
    rw [Copy.decode_item first, Copy.decode_item second, Copy.decode_item third, Copy.decode_nil]
    rfl

end CopyEntry

end Fleet
