import Fleet.Proofs.Wire

/-!
# A copy arrives whole

What is copied is listed before anything is sent: a file is an entry, and a directory is an entry,
what is in it, and an entry that leaves it again (`Listing`). When the listing is sent the files are
read once more, and they may have changed by then.

**The law** (`Sending.round_trip`): if no file has become shorter, the receiving side reads the
listing back entry for entry, with as many bytes of each file as were listed, and is where it began
when all is read. At the first file that has become shorter the copy fails, and the last bytes sent
are those that the file still has.
-/

namespace Fleet

open Acknowledgement (Good Acknowledged)

/-! ## Listings -/

/-- What every one of several lists leaves as it is, all of them leave as it is. -/
theorem flatMap_neutral {α β σ γ : Type} {f : σ → List β → γ} {xs : List α} {inside : α → List β}
    (each : ∀ x ∈ xs, ∀ s rest, f s (inside x ++ rest) = f s rest) (s : σ) (rest : List β) :
    f s (xs.flatMap inside ++ rest) = f s rest := by
  induction xs with
  | nil => rfl
  | cons x xs ih =>
    rw [List.flatMap_cons, List.append_assoc, each x List.mem_cons_self,
      ih fun other among => each other (List.mem_cons_of_mem x among)]

/-- The listing of a path. What stands between a directory and the entry that leaves it are the
listings of what is in it. -/
inductive Listing : Bytes → List CopyEntry → Prop where
  | file {path : Bytes} {length : Nat} {about : Metadata} :
      Listing path [.ofMetadata path (.file length) about]
  | directory {path : Bytes} {about : Metadata} (names : List Bytes)
      (inside : Bytes → List CopyEntry)
      (listed : ∀ name ∈ names, Listing (FilePath.child path name) (inside name)) :
      Listing path (.ofMetadata path .directory about ::
        (names.flatMap inside ++ [.ofMetadata path .leave about]))

namespace Disk

variable {disk : Disk} {recursive : Bool} {path : Bytes}

/-- Where each of several listings can be made, they are made one after another. -/
theorem mapM_eq_ok {ε α β : Type} {f : α → Except ε (List β)} {xs : List α} {ys : List (List β)}
    (made : xs.mapM f = .ok ys) :
    ∃ inside : α → List β, ys.flatten = xs.flatMap inside ∧ ∀ x ∈ xs, f x = .ok (inside x) := by
  refine ⟨fun x => (f x).toOption.getD [], ?_⟩
  induction xs generalizing ys with
  | nil =>
    cases made
    exact ⟨rfl, fun _ among => absurd among List.not_mem_nil⟩
  | cons x xs ih =>
    rw [List.mapM_cons] at made
    cases first : f x with
    | error e =>
      rw [first] at made
      cases made
    | ok y =>
      rw [first] at made
      cases others : xs.mapM f with
      | error e =>
        rw [others] at made
        cases made
      | ok ys' =>
        rw [others] at made
        cases made
        obtain ⟨flat, each⟩ := ih others
        refine ⟨?_, fun z among => ?_⟩
        · rw [List.flatten_cons, List.flatMap_cons, flat, first]
          rfl
        · rcases List.mem_cons.mp among with rfl | later
          · simp only [first]
            rfl
          · exact each z later

/-- **What is listed for a path is its listing.** -/
theorem visit_listing {entries : List CopyEntry}
    (listed : disk.visit recursive path = .ok entries) : Listing path entries := by
  induction path using visit.induct disk recursive generalizing entries with
  | case1 path fault found =>
    rw [visit_eq, found] at listed
    cases listed
  | case2 path about length found =>
    rw [visit_eq, found] at listed
    cases listed
    exact .file
  | case3 path about names found ih =>
    rw [visit_eq, found] at listed
    cases made : names.mapM fun name => disk.visit recursive (FilePath.child path name) with
    | error e =>
      simp only [made] at listed
      cases listed
    | ok listings =>
      simp only [made] at listed
      cases listed
      obtain ⟨inside, flat, each⟩ := mapM_eq_ok made
      rw [flat]
      exact .directory names inside fun name among => ih name among (each name among)

/-- What is listed for a copy are the listings of its sources. -/
theorem enumerate_listing {spec : CopySpec} {entries : List CopyEntry}
    (listed : disk.enumerate spec = .ok entries) :
    ∃ inside : Bytes → List CopyEntry, entries = spec.sources.flatMap inside ∧
      ∀ path ∈ spec.sources, Listing path (inside path) := by
  unfold enumerate at listed
  cases made : spec.sources.mapM (disk.visit spec.recursive) with
  | error e =>
    rw [made] at listed
    cases listed
  | ok listings =>
    rw [made] at listed
    cases listed
    obtain ⟨inside, flat, each⟩ := mapM_eq_ok made
    exact ⟨inside, flat, fun path among => visit_listing (each path among)⟩

end Disk

namespace Copy

/-- How deep the receiving side is in directories after some entries, if it was so deep before them.
None when it would leave the place where it began. -/
def depth? : Nat → List Item → Option Nat
  | depth, [] => some depth
  | depth, item :: items =>
    match item.body with
    | .file .. => depth? depth items
    | .directory .. => depth? (depth + 1) items
    | .leave =>
      match depth with
      | 0 => none
      | depth + 1 => depth? depth items

end Copy

namespace Listing

variable {fs : FileSystem} {preserve : Bool} {path : Bytes} {entries : List CopyEntry}

/-- Of a mode, twelve bits are listed. -/
theorem mode_lt (listing : Listing path entries) : ∀ entry ∈ entries, entry.mode < Nat.pow 8 4 := by
  have bits (n : Nat) : n % 0o10000 < Nat.pow 8 4 := Nat.mod_lt n (by decide)
  induction listing with
  | @file path length about =>
    intro entry among
    rw [List.mem_singleton.mp among]
    exact bits about.mode
  | @directory path about names inside listed ih =>
    intro entry among
    rcases List.mem_cons.mp among with rfl | among
    · exact bits about.mode
    rcases List.mem_append.mp among with within | last
    · obtain ⟨name, here, within⟩ := List.mem_flatMap.mp within
      exact ih name here entry within
    · rw [List.mem_singleton.mp last]
      exact bits about.mode

/-- Where each of several listings leaves the depth as it is, all of them do. -/
theorem depth?_flatMap {names : List Bytes} {inside : Bytes → List CopyEntry}
    (level : ∀ name ∈ names, ∀ depth items,
      Copy.depth? depth ((inside name).map (CopyEntry.item fs preserve) ++ items)
        = Copy.depth? depth items) (depth : Nat) (items : List Copy.Item) :
    Copy.depth? depth ((names.flatMap inside).map (CopyEntry.item fs preserve) ++ items)
      = Copy.depth? depth items := by
  rw [List.map_flatMap]
  exact flatMap_neutral level depth items

/-- **Every directory that is entered is left again**, and nothing else is. -/
theorem depth? (listing : Listing path entries) (depth : Nat) (items : List Copy.Item) :
    Copy.depth? depth (entries.map (CopyEntry.item fs preserve) ++ items)
      = Copy.depth? depth items := by
  induction listing generalizing depth items with
  | file => rfl
  | directory names inside listed ih =>
    rw [List.map_cons, List.map_append, List.cons_append, List.append_assoc]
    exact depth?_flatMap ih (depth + 1) _

end Listing

/-- A name without a newline is sent without one. -/
theorem CopyEntry.newline_not_mem_name {entry : CopyEntry}
    (free : ∀ name, FilePath.fileName? entry.path = some name → newline ∉ name) :
    '\n' ∉ entry.name.toList := by
  unfold name
  cases named : FilePath.fileName? entry.path with
  | none => exact List.not_mem_nil
  | some name =>
    dsimp only
    rw [Utf8.lossy, String.toList_ofList]
    exact Utf8.not_mem_lossyChars ⟨by decide, by decide⟩ (free name named)

/-- Times are received where they are preserved, for all that is not the end of a directory. -/
theorem CopyEntry.item_times (fs : FileSystem) (preserve : Bool) (entry : CopyEntry) :
    (entry.item fs preserve).times.isSome
      = (preserve && (entry.item fs preserve).body != .leave) := by
  unfold item hasTimes
  cases preserve <;> cases entry.kind <;> rfl

/-! ## Files that have become shorter -/

section Shrunk

variable {fs : FileSystem} {preserve : Bool} {entry : CopyEntry} {length : Nat} {data : Bytes}

/-- Of a file that has become shorter, what there is of it is sent, without the zero byte. -/
theorem Copy.sendGroup_shrunk {path : Bytes} (reads : fs.read path = .ok data)
    (short : data.length < length) (written : Bytes) :
    Copy.sendGroup fs ⟨written, none⟩ (.content path length)
      = (.error (.protocol (.shrank (Utf8.lossy path))), ⟨written ++ data, none⟩) := by
  obtain ⟨node, found⟩ := FileSystem.find_of_read reads
  have some : length ≠ 0 := Nat.ne_of_gt (Nat.zero_lt_of_lt short)
  have whole : data.take length = data := List.take_of_length_le (Nat.le_of_lt short)
  unfold sendGroup
  simp only [found, if_neg some, reads, Sink.write, whole, if_pos short]

/-- The lines before the content of a file. -/
theorem Copy.groupsOf_file (fs : FileSystem) (preserve : Bool) (file : entry.kind = .file length) :
    ∃ lines, Copy.groupsOf preserve entry = lines ++ [.content entry.path length] ∧
      (∀ group ∈ lines, group.IsKept fs) ∧
      Copy.bytesOf fs lines = Copy.announcement preserve entry := by
  have timed : entry.hasTimes preserve = preserve := by
    rw [CopyEntry.hasTimes, file]
    exact Bool.and_true preserve
  unfold groupsOf announcement bytesOf
  rw [timed, file]
  cases preserve with
  | true =>
    refine ⟨[.line (timesLine entry), .line (headerLine entry)], rfl, ?_, ?_⟩
    · intro group among
      simp only [List.mem_cons, List.not_mem_nil, or_false] at among
      rcases among with rfl | rfl <;> exact trivial
    · simp [Group.bytes]
  | false =>
    refine ⟨[.line (headerLine entry)], rfl, ?_, ?_⟩
    · intro group among
      rw [List.mem_singleton.mp among]
      exact trivial
    · simp [Group.bytes]

end Shrunk

namespace Sending

variable {listedIn fs : FileSystem} {spec : CopySpec} {preserve : Bool} {entries : List CopyEntry}
  {source : Source} {notes : List (Option String)} {rest : Bytes} {attempts : Nat} {now : Time}

/-- At the first file that has become shorter the exchange is over. -/
theorem settle_shrunk {ending : Ending} {bytes : Bytes} {before after : List CopyEntry}
    {entry : CopyEntry} {length : Nat} {data : Bytes} (kept : ∀ e ∈ before, e.IsKept fs)
    (file : entry.kind = .file length) (reads : fs.read entry.path = .ok data)
    (short : data.length < length) (acks : Acknowledged ending.closes notes bytes rest)
    (many : (Copy.groups preserve (before ++ entry :: after)).length < notes.length) :
    ∃ warnings, settle fs ending {} (Copy.groups preserve (before ++ entry :: after)) bytes
      = ⟨⟨Copy.bytesOf fs (Copy.groups preserve before) ++ Copy.announcement preserve entry ++ data,
        none⟩, warnings, .failed (.protocol (.shrank (Utf8.lossy entry.path)))⟩ := by
  obtain ⟨lines, parts, plain, announced⟩ := Copy.groupsOf_file fs preserve file
  have whole : Copy.groups preserve (before ++ entry :: after)
      = (Copy.groups preserve before ++ lines)
        ++ (.content entry.path length :: Copy.groups preserve after) := by
    rw [Copy.groups, List.flatMap_append, List.flatMap_cons, parts]
    simp [Copy.groups]
  rw [whole] at many ⊢
  generalize front : Copy.groups preserve before ++ lines = groups at many
  have long : ∀ group ∈ groups, group.IsKept fs := by
    intro group among
    rw [← front] at among
    rcases List.mem_append.mp among with earlier | here
    · exact Copy.isKept_of_mem_groups kept group earlier
    · exact plain group here
  rw [List.length_append, List.length_cons] at many
  obtain ⟨between, first, last⟩ := acks.split groups.length
  have count : (notes.take groups.length).length = groups.length :=
    List.length_take_of_le (by omega)
  have sent : settle fs ending {}
      (groups ++ .content entry.path length :: Copy.groups preserve after) bytes = _ :=
    settle_append long first count _
  have broken := Copy.sendGroup_shrunk reads short (Copy.bytesOf fs groups)
  have bytes : Copy.bytesOf fs groups
      = Copy.bytesOf fs (Copy.groups preserve before) ++ Copy.announcement preserve entry := by
    rw [← front, Copy.bytesOf, List.flatMap_append, ← announced]
    rfl
  -- one acknowledgement more is there, for which the file is sent
  cases left : notes.drop groups.length with
  | nil =>
    have := List.drop_eq_nil_iff.mp left
    omega
  | cons note notes' =>
    rw [left] at last
    cases last with
    | cons good more =>
      rw [sent, settle, heard_eq_ok_iff.mpr good]
      simp only [List.nil_append, broken, ← bytes]
      exact ⟨_, rfl⟩

/-- **A copy arrives whole.** Let a listing be sent whose names have no newline, at a time when the
files may be others than when it was made, and let there be enough good acknowledgements. If no file
has become shorter, all is well, and what was sent is read back as the entries of the listing, in
order, with times before all that is not the end of a directory, if they are preserved, and with
every directory left in the end. At the first file that has become shorter the copy fails, and what
was sent ends with what there is of this file. -/
theorem round_trip (listed : CopySpec.enumerate listedIn spec = .ok entries)
    (named : ∀ entry ∈ entries, ∀ name, FilePath.fileName? entry.path = some name →
      newline ∉ name)
    (acks : Acknowledged source.ending.closes notes source.bytes rest)
    (many : (Copy.groups preserve entries).length < notes.length)
    (enough : (Copy.groups preserve entries).length + source.eventsAfter now < attempts) :
    let (written, _, outcome) :=
      (start preserve entries (.ofSource source) {}).run fs attempts now
    ((∀ entry ∈ entries, entry.IsKept fs) →
      outcome = some (.ok ()) ∧
        Copy.decode written = some (entries.map (CopyEntry.item fs preserve)) ∧
        (∀ item ∈ entries.map (CopyEntry.item fs preserve),
          item.times.isSome = (preserve && item.body != .leave)) ∧
        (∃ inside : Bytes → List CopyEntry, entries = spec.sources.flatMap inside ∧
          ∀ path ∈ spec.sources, Listing path (inside path)) ∧
        Copy.depth? 0 (entries.map (CopyEntry.item fs preserve)) = some 0) ∧
      ∀ before entry after length data, entries = before ++ entry :: after →
        (∀ e ∈ before, e.IsKept fs) → entry.kind = .file length →
        fs.read entry.path = .ok data → data.length < length →
          outcome = some (.error (.protocol (.shrank (Utf8.lossy entry.path)))) ∧
            written = Copy.bytesOf fs (Copy.groups preserve before)
              ++ Copy.announcement preserve entry ++ data := by
  have comes : ComesTo ((start preserve entries (.ofSource source) {}).result fs)
      ((start preserve entries (.ofSource source) {}).run fs attempts now) _ :=
    run_comesTo (isSound_start preserve entries source {}) enough
  rw [start_result] at comes
  rw [comes.run]
  refine ⟨fun kept => ?_, ?_⟩
  · obtain ⟨inside, flat, listing⟩ := Disk.enumerate_listing listed
    have plain : ∀ entry ∈ entries, entry.IsPlain := by
      intro entry among
      refine ⟨CopyEntry.newline_not_mem_name (named entry among), ?_⟩
      rw [flat] at among
      obtain ⟨path, here, among⟩ := List.mem_flatMap.mp among
      exact (listing path here).mode_lt entry among
    have closed : Copy.depth? 0 ((spec.sources.flatMap inside).map (CopyEntry.item fs preserve)
        ++ []) = some 0 := Listing.depth?_flatMap (fun path here => (listing path here).depth?) 0 []
    rw [List.append_nil, ← flat] at closed
    obtain ⟨after, used, -⟩ := acks.split ((Copy.groups preserve entries).length + 1)
    have count : (notes.take ((Copy.groups preserve entries).length + 1)).length
        = (Copy.groups preserve entries).length + 1 := List.length_take_of_le many
    have result : settle fs source.ending {} (Copy.groups preserve entries) source.bytes = _ :=
      settle_finished (Copy.isKept_of_mem_groups kept) used count
    rw [result]
    refine ⟨rfl, Copy.decode_groups plain kept, ?_, ⟨inside, flat, listing⟩, closed⟩
    intro item among
    obtain ⟨entry, -, rfl⟩ := List.mem_map.mp among
    exact entry.item_times fs preserve
  · rintro before entry after length data rfl kept file reads short
    obtain ⟨warnings, result⟩ := settle_shrunk kept file reads short acks many
    rw [result]
    exact ⟨rfl, rfl⟩

/-- A directory with a file in it whose name has a blank. -/
def smallTree (data : Bytes) : FileSystem :=
  ⟨.directory ⟨0o755, 0, 0⟩
    [(Utf8.encode "d", .directory ⟨0o750, 11, 12⟩
      [(Utf8.encode "a b", .file ⟨0o644, -5, 7⟩ data)])], []⟩

def copySmallTree : CopySpec :=
  { sources := [Utf8.encode "d"], destination := "t", recursive := true }

def smallListing : List CopyEntry :=
  [⟨Utf8.encode "d", .directory, 0o750, 11, 12⟩, ⟨Utf8.encode "d/a b", .file 2, 0o644, -5, 7⟩,
    ⟨Utf8.encode "d", .leave, 0o750, 11, 12⟩]

/-- Seven good acknowledgements, without a note. -/
def allWell : Source := ⟨[⟨0, [0, 0, 0, 0, 0, 0, 0]⟩], .closed 0⟩

theorem find_smallTree (data : Bytes) :
    (smallTree data).find (Utf8.encode "d") = .ok (.directory ⟨0o750, 11, 12⟩
      [(Utf8.encode "a b", .file ⟨0o644, -5, 7⟩ data)]) ∧
    (smallTree data).find (Utf8.encode "d/a b") = .ok (.file ⟨0o644, -5, 7⟩ data) := by
  have outer : FilePath.steps (Utf8.encode "d") = [Utf8.encode "d"] := by decide
  have inner : FilePath.steps (Utf8.encode "d/a b") = [Utf8.encode "d", Utf8.encode "a b"] := by
    decide
  constructor
  · refine FileSystem.find_relative (by decide) (by decide) (by decide) (by decide) ?_
    rw [outer, FileSystem.walk_name rfl (by decide) (by decide) (by decide) rfl
      (fun _ no => by cases no), FileSystem.walk]
  · refine FileSystem.find_relative (by decide) (by decide) (by decide) (by decide) ?_
    rw [inner, FileSystem.walk_name rfl (by decide) (by decide) (by decide) rfl
      (fun _ no => by cases no), FileSystem.walk_name rfl (by decide) (by decide) (by decide) rfl
      (fun _ no => by cases no), FileSystem.walk]

theorem listing_smallTree :
    CopySpec.enumerate (smallTree (Utf8.encode "hi")) copySmallTree = .ok smallListing := by
  obtain ⟨directory, file⟩ := find_smallTree (Utf8.encode "hi")
  have inner : (smallTree (Utf8.encode "hi")).disk.visit true (Utf8.encode "d/a b")
      = .ok [⟨Utf8.encode "d/a b", .file 2, 0o644, -5, 7⟩] := by
    have found : (smallTree (Utf8.encode "hi")).disk.examine true (Utf8.encode "d/a b")
        = .ok (.file ⟨0o644, -5, 7⟩ 2) := by
      unfold Disk.examine
      simp only [FileSystem.disk, file]
      rfl
    rw [Disk.visit_eq, found]
    rfl
  have outer : (smallTree (Utf8.encode "hi")).disk.visit true (Utf8.encode "d")
      = .ok smallListing := by
    have found : (smallTree (Utf8.encode "hi")).disk.examine true (Utf8.encode "d")
        = .ok (.directory ⟨0o750, 11, 12⟩ [Utf8.encode "a b"]) := by
      have names : Disk.inOrder ((Node.directory ⟨0o750, 11, 12⟩ [(Utf8.encode "a b",
          .file ⟨0o644, -5, 7⟩ (Utf8.encode "hi"))]).names.filter (FilePath.IsName ·))
          = [Utf8.encode "a b"] := by
        decide +kernel
      have named : FilePath.fileName? (Utf8.encode "d") ≠ none := by decide
      unfold Disk.examine
      simp only [FileSystem.disk, directory, Except.map, Node.sight, if_neg named, names]
      rfl
    have path : FilePath.child (Utf8.encode "d") (Utf8.encode "a b") = Utf8.encode "d/a b" := by
      decide
    rw [Disk.visit_eq, found]
    simp only [List.mapM_cons, List.mapM_nil, path, inner]
    rfl
  rw [CopySpec.enumerate, Disk.enumerate, copySmallTree, List.mapM_cons, outer]
  rfl

/-- The file has become longer since it was listed, and what it says looks like lines. -/
theorem round_trip_smallTree :
    CopySpec.enumerate (smallTree (Utf8.encode "hi")) copySmallTree = .ok smallListing ∧
      Copy.decode ((start true smallListing (.ofSource allWell) {}).run
        (smallTree (Utf8.encode "hi\nE\n")) 8 0).1
      = some [⟨some (11, 12), .directory 0o750 "d"⟩,
        ⟨some (-5, 7), .file 0o644 2 "a b" (Utf8.encode "hi")⟩, ⟨none, .leave⟩] := by
  refine ⟨listing_smallTree, ?_⟩
  have named : ∀ entry ∈ smallListing, ∀ name, FilePath.fileName? entry.path = some name →
      newline ∉ name := by decide
  have reads : (smallTree (Utf8.encode "hi\nE\n")).read (Utf8.encode "d/a b")
      = .ok (Utf8.encode "hi\nE\n") := by
    rw [FileSystem.read, (find_smallTree _).2]
  have kept : ∀ entry ∈ smallListing, entry.IsKept (smallTree (Utf8.encode "hi\nE\n")) := by
    intro entry among length file
    simp only [smallListing, List.mem_cons, List.not_mem_nil, or_false] at among
    rcases among with rfl | rfl | rfl
    · cases file
    · cases file
      exact ⟨_, reads, by decide⟩
    · cases file
  have acks : Acknowledged allWell.ending.closes (List.replicate 7 none) allWell.bytes [] :=
    .cons (.ok _) <| .cons (.ok _) <| .cons (.ok _) <| .cons (.ok _) <| .cons (.ok _) <|
      .cons (.ok _) <| .cons (.ok _) <| .nil []
  obtain ⟨whole, -⟩ := @round_trip _ (smallTree (Utf8.encode "hi\nE\n")) _ true _ _ _ _ 8 0
    listing_smallTree named acks (by decide) (by decide)
  obtain ⟨-, decoded, -⟩ := whole kept
  refine decoded.trans ?_
  simp only [smallListing, List.map_cons, List.map_nil, CopyEntry.item, reads]
  decide +kernel

end Sending

end Fleet
