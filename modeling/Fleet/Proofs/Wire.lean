import Fleet.Proofs.Exchange
import Fleet.Proofs.Numerals

/-!
# The receiving side

What a copy sends is one string of bytes, in which lines of text and the bytes of files follow one
another without anything between them. `decode` reads it as the receiving side does: a line says
what comes next, and after the line of a file as many bytes are taken as it announced, whatever they
look like, and a zero byte.

**The law** (`item?_groupsOf`): what is sent for an entry is read as this entry, and the bytes after
it are left alone. So reading undoes sending (`decode_groups`).
-/

namespace Fleet

namespace Copy

/-! ## The grammar -/

/-- What a line says. -/
inductive Header where
  | times (mtime atime : Int)
  | directory (mode : Nat) (name : String)
  | file (mode length : Nat) (name : String)
  | leave
  deriving DecidableEq

/-- The word before the first blank, and what comes after the blank. -/
def word? : List Char → Option (List Char × List Char)
  | [] => none
  | c :: rest =>
    if c = ' ' then some ([], rest)
    else (word? rest).map fun (word, after) => (c :: word, after)

/-- What a line says, without the newline. A name goes to the end of its line. -/
def Header.read? : List Char → Option Header
  | ['E'] => some .leave
  | 'T' :: line => do
    let (mtime, line) ← word? line
    let (mfraction, line) ← word? line
    let (atime, afraction) ← word? line
    if mfraction = ['0'] ∧ afraction = ['0'] then
      return .times (← Numeral.int? mtime) (← Numeral.int? atime)
    else none
  | 'D' :: line => do
    let (mode, line) ← word? line
    let (length, name) ← word? line
    if length = ['0'] then return .directory (← Numeral.octal? mode) (String.ofList name)
    else none
  | 'C' :: line => do
    let (mode, line) ← word? line
    let (length, name) ← word? line
    return .file (← Numeral.octal? mode) (← Numeral.digits? length) (String.ofList name)
  | _ => none

/-- What is received for an entry, apart from its times. -/
inductive Body where
  | directory (mode : Nat) (name : String)
  | file (mode length : Nat) (name : String) (data : Bytes)
  | leave
  deriving DecidableEq

/-- What is received for an entry. -/
structure Item where
  times : Option (Int × Int)
  body : Body
  deriving DecidableEq

/-- The line at the front of some bytes, and the bytes after it. -/
def header? (bytes : Bytes) : Option (Header × Bytes) := do
  let (line, rest) ← splitLine bytes
  let text ← (Utf8.decode? line).toOption
  return (← Header.read? text.toList, rest)

/-- What a line announces, with times or without. -/
def announced? (times : Option (Int × Int)) (rest : Bytes) : Header → Option (Item × Bytes)
  | .times .. => none
  | .directory mode name => some (⟨times, .directory mode name⟩, rest)
  | .file mode length name =>
    if rest[length]? = some 0 then
      some (⟨times, .file mode length name (rest.take length)⟩, rest.drop (length + 1))
    else none
  | .leave => if times = none then some (⟨none, .leave⟩, rest) else none

/-- The entry at the front of some bytes, and the bytes after it. Times come before what they are
the times of. -/
def item? (bytes : Bytes) : Option (Item × Bytes) := do
  let (header, rest) ← header? bytes
  match header with
  | .times mtime atime => do
    let (header, rest) ← header? rest
    announced? (some (mtime, atime)) rest header
  | header => announced? none rest header

theorem header?_shortens {bytes rest : Bytes} {header : Header}
    (read : header? bytes = some (header, rest)) : rest.length < bytes.length := by
  obtain ⟨⟨line, after⟩, split, read⟩ := Option.bind_eq_some_iff.mp read
  obtain ⟨text, -, read⟩ := Option.bind_eq_some_iff.mp read
  obtain ⟨header, -, same⟩ := Option.bind_eq_some_iff.mp read
  cases same
  rw [(splitLine_eq_some split).1, List.length_append, List.length_cons]
  omega

theorem announced?_shortens {times : Option (Int × Int)} {bytes rest : Bytes} {header : Header}
    {item : Item} (read : announced? times bytes header = some (item, rest)) :
    rest.length ≤ bytes.length := by
  unfold announced? at read
  repeat' split at read
  all_goals cases read
  · exact Nat.le_refl _
  · rw [List.length_drop]
    exact Nat.sub_le ..
  · exact Nat.le_refl _

theorem item?_shortens {bytes rest : Bytes} {item : Item}
    (read : item? bytes = some (item, rest)) : rest.length < bytes.length := by
  obtain ⟨⟨header, after⟩, first, read⟩ := Option.bind_eq_some_iff.mp read
  have shorter := header?_shortens first
  cases header with
  | times mtime atime =>
    obtain ⟨⟨header, after'⟩, second, read⟩ := Option.bind_eq_some_iff.mp read
    exact Nat.lt_of_le_of_lt (announced?_shortens read)
      (Nat.lt_trans (header?_shortens second) shorter)
  | directory | file | leave => exact Nat.lt_of_le_of_lt (announced?_shortens read) shorter

/-- All entries, if there is nothing else. -/
def decode (bytes : Bytes) : Option (List Item) :=
  if bytes = [] then some []
  else match _read : item? bytes with
    | none => none
    | some (item, rest) => (decode rest).map (item :: ·)
termination_by bytes.length
decreasing_by exact item?_shortens ‹_›

theorem decode_nil : decode [] = some [] := by
  rw [decode]
  rfl

theorem decode_item {bytes rest : Bytes} {item : Item}
    (read : item? bytes = some (item, rest)) : decode bytes = (decode rest).map (item :: ·) := by
  have some : bytes ≠ [] := by
    rintro rfl
    exact Nat.not_lt_zero _ (item?_shortens read)
  rw [decode, if_neg some]
  split
  · next none => cases none.symm.trans read
  · next same => cases same.symm.trans read; rfl

/-! ## Lines -/

theorem word?_append {word : List Char} (free : ' ' ∉ word) (rest : List Char) :
    word? (word ++ ' ' :: rest) = some (word, rest) := by
  induction word with
  | nil => exact if_pos rfl
  | cons c word ih =>
    have other : c ≠ ' ' := fun same => free (same ▸ List.mem_cons_self)
    rw [List.cons_append, word?, if_neg other, ih fun among => free (List.mem_cons_of_mem c among)]
    rfl

theorem word?_zero (rest : List Char) : word? ('0' :: ' ' :: rest) = some (['0'], rest) := rfl

/-- **A line is what stands before its newline**, whatever comes after it. -/
theorem header?_encode {line : List Char} (free : '\n' ∉ line) (rest : Bytes) :
    header? (Utf8.encode (String.ofList (line ++ ['\n'])) ++ rest)
      = (Header.read? line).map (·, rest) := by
  have whole : Utf8.encode (String.ofList (line ++ ['\n']))
      = Utf8.encode (String.ofList line) ++ [newline] := by
    rw [Utf8.encode, Utf8.encode, String.toList_ofList, String.toList_ofList, List.flatMap_append]
    rfl
  have free : newline ∉ Utf8.encode (String.ofList line) := fun among => by
    have inLine := Utf8.mem_of_mem_encode (by decide) among
    rw [String.toList_ofList] at inLine
    exact free inLine
  rw [whole, List.append_assoc, List.singleton_append, header?, splitLine_line free]
  simp only [Option.bind_eq_bind, Option.bind_some, Utf8.decode?_encode, Except.toOption,
    String.toList_ofList]
  cases Header.read? line <;> rfl

section Low

variable {c : Char}

/-- Neither a blank nor a newline stands in a number. -/
theorem not_mem_toString (low : c.toNat < 45) (i : Int) : c ∉ (toString i).toList := fun among => by
  rcases Numeral.range_of_mem_toString among with rfl | range
  · exact absurd low (by decide)
  · omega

theorem not_mem_toDigits (low : c.toNat < 45) (n : Nat) : c ∉ Nat.toDigits 10 n := fun among => by
  have range := Numeral.range_of_isDigit (Numeral.isDigit_of_mem among)
  omega

theorem not_mem_octal4 (low : c.toNat < 45) (n : Nat) : c ∉ (Numeral.octal4 n).toList :=
  fun among => by
    have octal := Numeral.isOctal_of_mem_octal4 among
    have least : 48 ≤ c.toNat := by
      simp only [Numeral.isOctal, Bool.and_eq_true, decide_eq_true_eq, Char.le_def,
        UInt32.le_iff_toNat_le] at octal
      exact octal.1
    omega

end Low

/-- The line with an entry's times, without the newline. -/
def timesChars (entry : CopyEntry) : List Char :=
  'T' :: ((toString entry.mtime).toList ++ ' ' :: '0' :: ' ' ::
    ((toString entry.atime).toList ++ [' ', '0']))

theorem timesLine_eq (entry : CopyEntry) :
    timesLine entry = String.ofList (timesChars entry ++ ['\n']) := by
  apply String.toList_inj.mp
  simp [timesLine, timesChars]

theorem read?_timesChars (entry : CopyEntry) :
    Header.read? (timesChars entry) = some (.times entry.mtime entry.atime) := by
  unfold timesChars Header.read?
  simp only [Option.bind_eq_bind, word?_append (not_mem_toString (by decide) _), word?_zero,
    Option.bind_some, and_self, if_true, Numeral.int?_toString]
  rfl

/-- The line that announces an entry, without the newline. -/
def headerChars (entry : CopyEntry) : List Char :=
  match entry.kind with
  | .directory =>
    'D' :: ((Numeral.octal4 entry.mode).toList ++ ' ' :: '0' :: ' ' :: entry.name.toList)
  | .file length =>
    'C' :: ((Numeral.octal4 entry.mode).toList ++ ' ' ::
      ((toString length).toList ++ ' ' :: entry.name.toList))
  | .leave => ['E']

theorem headerLine_eq (entry : CopyEntry) :
    headerLine entry = String.ofList (headerChars entry ++ ['\n']) := by
  apply String.toList_inj.mp
  unfold headerLine headerChars
  cases entry.kind <;> simp

/-- What the line of an entry says. -/
def headerOf (entry : CopyEntry) : Header :=
  match entry.kind with
  | .directory => .directory entry.mode entry.name
  | .file length => .file entry.mode length entry.name
  | .leave => .leave

theorem read?_headerChars {entry : CopyEntry} (small : entry.mode < Nat.pow 8 4) :
    Header.read? (headerChars entry) = some (headerOf entry) := by
  unfold headerChars headerOf
  cases entry.kind with
  | directory =>
    simp only [Header.read?, Option.bind_eq_bind, word?_append (not_mem_octal4 (by decide) _),
      word?_zero, Option.bind_some, if_true, Numeral.octal?_octal4 small, String.ofList_toList]
    rfl
  | file length =>
    simp only [Header.read?, Option.bind_eq_bind, word?_append (not_mem_octal4 (by decide) _),
      Numeral.toList_toString, word?_append (not_mem_toDigits (by decide) length), Option.bind_some,
      Numeral.octal?_octal4 small, Numeral.digits?_toDigits, String.ofList_toList]
    rfl
  | leave => rfl

end Copy

/-! ## Entries -/

namespace CopyEntry

/-- What can be said in a line: a name without a newline, and a mode of four octal digits. -/
structure IsPlain (entry : CopyEntry) : Prop where
  name : '\n' ∉ entry.name.toList
  mode : entry.mode < Nat.pow 8 4

/-- Whether the times of an entry are sent. -/
def hasTimes (preserve : Bool) (entry : CopyEntry) : Bool := preserve && entry.kind != .leave

/-- What is received for an entry, as the files are now. -/
def item (fs : FileSystem) (preserve : Bool) (entry : CopyEntry) : Copy.Item where
  times := if entry.hasTimes preserve then some (entry.mtime, entry.atime) else none
  body :=
    match entry.kind with
    | .directory => .directory entry.mode entry.name
    | .file length =>
      .file entry.mode length entry.name (((fs.read entry.path).toOption.getD []).take length)
    | .leave => .leave

end CopyEntry

namespace Copy

variable {fs : FileSystem} {preserve : Bool} {entry : CopyEntry}

theorem newline_not_mem_timesChars (entry : CopyEntry) : '\n' ∉ timesChars entry := by
  have modified := not_mem_toString (c := '\n') (by decide) entry.mtime
  have accessed := not_mem_toString (c := '\n') (by decide) entry.atime
  simp [timesChars, modified, accessed, -Int.toString_eq_repr]

theorem newline_not_mem_headerChars (free : '\n' ∉ entry.name.toList) :
    '\n' ∉ headerChars entry := by
  have mode := not_mem_octal4 (c := '\n') (by decide) entry.mode
  unfold headerChars
  cases entry.kind with
  | directory => simp [mode, free]
  | file length =>
    have digits := not_mem_toDigits (c := '\n') (by decide) length
    simp [mode, free, digits]
  | leave => simp

/-- What is sent after the line that announces an entry. -/
def contentOf (fs : FileSystem) (entry : CopyEntry) : Bytes :=
  match entry.kind with
  | .file length => Group.bytes fs (.content entry.path length)
  | _ => []

/-- The lines that are sent before the content of an entry. -/
def announcement (preserve : Bool) (entry : CopyEntry) : Bytes :=
  (if entry.hasTimes preserve then Utf8.encode (timesLine entry) else [])
    ++ Utf8.encode (headerLine entry)

theorem bytesOf_groupsOf (fs : FileSystem) (preserve : Bool) (entry : CopyEntry) :
    bytesOf fs (groupsOf preserve entry) = announcement preserve entry ++ contentOf fs entry := by
  unfold groupsOf announcement CopyEntry.hasTimes contentOf bytesOf
  rw [List.flatMap_append]
  by_cases times : (preserve && entry.kind != .leave) = true
  · simp only [if_pos times]
    cases entry.kind <;> simp [Group.bytes]
  · simp only [if_neg times]
    cases entry.kind <;> simp [Group.bytes]

/-- After the line, the content is read as it was announced. -/
theorem announced?_contentOf (preserve : Bool) (kept : entry.IsKept fs)
    {times : Option (Int × Int)} (timeless : entry.kind = .leave → times = none) (rest : Bytes) :
    announced? times (contentOf fs entry ++ rest) (headerOf entry)
      = some (⟨times, (entry.item fs preserve).body⟩, rest) := by
  unfold contentOf headerOf CopyEntry.item
  cases kind : entry.kind with
  | directory => rfl
  | leave =>
    rw [timeless kind]
    rfl
  | file length =>
    obtain ⟨data, reads, long⟩ := kept length kind
    have whole : (data.take length).length = length := List.length_take_of_le long
    have bytes : Group.bytes fs (.content entry.path length) ++ rest
        = data.take length ++ 0 :: rest := by
      rw [Group.bytes, reads, List.append_assoc]
      rfl
    have ends : (data.take length ++ 0 :: rest)[length]? = some 0 := by
      rw [List.getElem?_append_right (by omega), whole, Nat.sub_self]
      rfl
    have first : (data.take length ++ 0 :: rest).take length = data.take length := by
      rw [List.take_append_of_le_length (by omega), List.take_of_length_le (by omega)]
    have after : (data.take length ++ 0 :: rest).drop (length + 1) = rest := by
      rw [List.drop_append, whole, List.drop_of_length_le (by omega), Nat.add_sub_cancel_left]
      rfl
    simp only [bytes, announced?, if_pos ends, first, after, reads]
    rfl

/-- **What is sent for an entry is read as this entry**, whatever comes after it. -/
theorem item?_groupsOf (preserve : Bool) (plain : entry.IsPlain) (kept : entry.IsKept fs)
    (rest : Bytes) :
    item? (bytesOf fs (groupsOf preserve entry) ++ rest)
      = some (entry.item fs preserve, rest) := by
  have header (rest : Bytes) : header? (Utf8.encode (headerLine entry) ++ rest)
      = some (headerOf entry, rest) := by
    rw [headerLine_eq, header?_encode (newline_not_mem_headerChars plain.name),
      read?_headerChars plain.mode]
    rfl
  have times (rest : Bytes) : header? (Utf8.encode (timesLine entry) ++ rest)
      = some (.times entry.mtime entry.atime, rest) := by
    rw [timesLine_eq, header?_encode (newline_not_mem_timesChars entry), read?_timesChars]
    rfl
  rw [bytesOf_groupsOf, announcement, List.append_assoc, List.append_assoc]
  cases timed : entry.hasTimes preserve with
  | true =>
    have leaves : entry.kind = .leave → some (entry.mtime, entry.atime) = none := fun leaves => by
      rw [CopyEntry.hasTimes, leaves] at timed
      simp at timed
    have said := announced?_contentOf preserve kept leaves rest
    simp only [item?, if_true, times, header, Option.bind_eq_bind, Option.bind_some, said,
      CopyEntry.item, timed]
  | false =>
    have said := announced?_contentOf preserve kept (fun _ => rfl) rest
    simp only [item?, Bool.false_eq_true, if_false, List.nil_append, header, Option.bind_eq_bind,
      Option.bind_some, CopyEntry.item, timed]
    cases headed : headerOf entry with
    | directory | file | leave => rw [headed] at said; exact said
    | times =>
      unfold headerOf at headed
      split at headed
      all_goals cases headed

/-- **Reading undoes sending.** -/
theorem decode_groups {entries : List CopyEntry} (plain : ∀ entry ∈ entries, entry.IsPlain)
    (kept : ∀ entry ∈ entries, entry.IsKept fs) :
    decode (bytesOf fs (groups preserve entries))
      = some (entries.map (CopyEntry.item fs preserve)) := by
  induction entries with
  | nil => exact decode_nil
  | cons entry entries ih =>
    have whole : bytesOf fs (groups preserve (entry :: entries))
        = bytesOf fs (groupsOf preserve entry) ++ bytesOf fs (groups preserve entries) := by
      rw [groups, List.flatMap_cons, bytesOf, List.flatMap_append]
      rfl
    have first := item?_groupsOf preserve (plain entry List.mem_cons_self)
      (kept entry List.mem_cons_self) (bytesOf fs (groups preserve entries))
    rw [whole, decode_item first, ih (fun e among => plain e (List.mem_cons_of_mem _ among))
      fun e among => kept e (List.mem_cons_of_mem _ among)]
    rfl

end Copy

end Fleet
