import Fleet.Proofs.Copying
import Fleet.Proofs.PathOrder

/-!
# What is listed for a copy

The sources are expanded before any host is contacted. A system says what a path leads to, whether a
file can be opened and what a directory has in it (`Disk`), the latter in an order of its own. The
listing is depth first: what is in a directory stands between two entries for the directory, in the
order of the paths.

**The law** (`Disk.enumerate_canonical`): if nothing that can be reached from the sources is at fault
the listing is this one; otherwise there is none, and the error tells the first that is at fault, in
the order in which the listing would have come to it. The order in which directories say what is in
them makes no difference.
-/

namespace Fleet

open CopySpec (refuse)

namespace Disk

variable {disk : Disk} {recursive : Bool} {path node name : Bytes} {about : Metadata}
  {names : List Bytes} {entries : List CopyEntry} {fault : SourceFault}

/-! ## What can be said of a path -/

/-- A path at fault, whatever is in it. -/
inductive Faulty (disk : Disk) (recursive : Bool) (path : Bytes) : SourceFault → Prop where
  | missing {e : IoError} (unseen : disk.look path = .error e) : Faulty disk recursive path (.io e)
  | unnamed {sight : Sight} (seen : disk.look path = .ok sight)
      (none : FilePath.fileName? path = none) : Faulty disk recursive path .noFileName
  | closed {about : Metadata} {length : Nat} {e : IoError}
      (seen : disk.look path = .ok (.file about length)) (named : FilePath.fileName? path ≠ none)
      (refused : disk.opens path = .error e) : Faulty disk recursive path (.io e)
  | flat {about : Metadata} (seen : disk.look path = .ok (.directory about))
      (named : FilePath.fileName? path ≠ none) (flat : recursive = false) :
      Faulty disk recursive path .directory
  | hidden {about : Metadata} {e : IoError} (seen : disk.look path = .ok (.directory about))
      (named : FilePath.fileName? path ≠ none) (deep : recursive = true)
      (refused : disk.list path = .error e) : Faulty disk recursive path (.io e)
  | special (seen : disk.look path = .ok .special) (named : FilePath.fileName? path ≠ none) :
      Faulty disk recursive path .special

/-- A file that can be copied. -/
structure HasFile (disk : Disk) (path : Bytes) (about : Metadata) (length : Nat) : Prop where
  seen : disk.look path = .ok (.file about length)
  named : FilePath.fileName? path ≠ none
  opens : disk.opens path = .ok ()

/-- A directory that can be copied, with the names in it in the order of their paths. -/
structure HasChildren (disk : Disk) (recursive : Bool) (path : Bytes) (about : Metadata)
    (names : List Bytes) : Prop where
  seen : disk.look path = .ok (.directory about)
  named : FilePath.fileName? path ≠ none
  deep : recursive = true
  listed : ∃ listed, disk.list path = .ok listed ∧ names.Perm listed
  order : (names.map (FilePath.child path)).Pairwise (FilePath.comesBefore · ·)

private theorem filled_of_named (named : FilePath.fileName? path ≠ none) : path ≠ [] := by
  rintro rfl
  exact named rfl

/-- Sorting the names sorts the paths. -/
theorem inOrder_pairwise (named : FilePath.fileName? path ≠ none)
    (legal : ∀ name ∈ names, FilePath.IsName name) :
    ((inOrder names).map (FilePath.child path)).Pairwise (FilePath.comesBefore · ·) := by
  refine List.pairwise_map.mpr ((FilePath.pairwise_mergeSort names).imp_of_mem ?_)
  intro a b first second below
  rw [FilePath.comesBefore_child (filled_of_named named) (legal a (List.mem_mergeSort.mp first))
    (legal b (List.mem_mergeSort.mp second))]
  exact below

/-- There is only one way to put the names in a directory in order. -/
theorem HasChildren.inOrder_eq (children : disk.HasChildren recursive path about names) :
    ∃ listed, disk.list path = .ok listed ∧ inOrder listed = names := by
  obtain ⟨listed, answer, same⟩ := children.listed
  refine ⟨listed, answer, FilePath.mergeSort_eq_of_sorted ?_ same⟩
  refine (List.pairwise_map.mp children.order).imp_of_mem ?_
  intro a b first second below
  have legal (name : Bytes) (among : name ∈ names) : FilePath.IsName name :=
    disk.named answer name (same.mem_iff.mp among)
  rwa [FilePath.comesBefore_child (filled_of_named children.named) (legal a first)
    (legal b second)] at below

/-- What an examination can come to. -/
inductive Examined (disk : Disk) (recursive : Bool) (path : Bytes) :
    Except SourceFault Copied → Prop where
  | faulty {fault : SourceFault} (faulty : disk.Faulty recursive path fault) :
      Examined disk recursive path (.error fault)
  | file {about : Metadata} {length : Nat} (file : disk.HasFile path about length) :
      Examined disk recursive path (.ok (.file about length))
  | directory {about : Metadata} {names : List Bytes}
      (children : disk.HasChildren recursive path about names) :
      Examined disk recursive path (.ok (.directory about names))

theorem examine_examined (disk : Disk) (recursive : Bool) (path : Bytes) :
    Examined disk recursive path (disk.examine recursive path) := by
  unfold examine
  cases seen : disk.look path with
  | error e => exact .faulty (.missing seen)
  | ok sight =>
    by_cases named : FilePath.fileName? path = none
    · simp only [if_pos named]
      exact .faulty (.unnamed seen named)
    simp only [if_neg named]
    cases sight with
    | file about length =>
      cases opened : disk.opens path with
      | error e => exact .faulty (.closed seen named opened)
      | ok _ => exact .file ⟨seen, named, opened⟩
    | directory about =>
      cases deep : recursive with
      | false => exact .faulty (.flat seen named rfl)
      | true =>
        cases answer : disk.list path with
        | error e => exact .faulty (.hidden seen named rfl answer)
        | ok listed =>
          exact .directory ⟨seen, named, rfl, ⟨listed, answer, List.mergeSort_perm _ _⟩,
            inOrder_pairwise named (disk.named answer)⟩
    | special => exact .faulty (.special seen named)

theorem Examined.eq {result : Except SourceFault Copied}
    (examined : disk.Examined recursive path result) : disk.examine recursive path = result := by
  unfold examine
  cases examined with
  | faulty faulty =>
    cases faulty with
    | missing unseen => simp only [unseen]
    | unnamed seen none => simp only [seen, if_pos none]
    | closed seen named refused => simp only [seen, if_neg named, refused]
    | flat seen named flat =>
      subst flat
      simp only [seen, if_neg named]
      rfl
    | hidden seen named deep refused =>
      subst deep
      simp only [seen, if_neg named, refused]
      rfl
    | special seen named => simp only [seen, if_neg named]
  | file file => simp only [file.seen, if_neg file.named, file.opens]
  | directory children =>
    obtain ⟨listed, answer, rfl⟩ := children.inOrder_eq
    obtain rfl := children.deep
    simp only [children.seen, if_neg children.named, answer]
    rfl

/-! ## Listings -/

/-- The listing of a path: of a file its entry; of a directory its entry, the listings of what is in
it in the order of the paths, and an entry that leaves it. -/
inductive Lists (disk : Disk) (recursive : Bool) : Bytes → List CopyEntry → Prop where
  | file {path : Bytes} {about : Metadata} {length : Nat} (file : disk.HasFile path about length) :
      Lists disk recursive path [.ofMetadata path (.file length) about]
  | directory {path : Bytes} {about : Metadata} {names : List Bytes}
      (inside : Bytes → List CopyEntry) (children : disk.HasChildren recursive path about names)
      (each : ∀ name ∈ names, Lists disk recursive (FilePath.child path name) (inside name)) :
      Lists disk recursive path (.ofMetadata path .directory about ::
        (names.flatMap inside ++ [.ofMetadata path .leave about]))

/-- The first path at fault on the way through what can be reached from a path: the path itself, or
the first in something inside it that is not listed, all before it being listed. -/
inductive Trips (disk : Disk) (recursive : Bool) : Bytes → Bytes → SourceFault → Prop where
  | here {path : Bytes} {fault : SourceFault} (faulty : disk.Faulty recursive path fault) :
      Trips disk recursive path path fault
  | inside {path node name : Bytes} {about : Metadata} {before after : List Bytes}
      {fault : SourceFault}
      (children : disk.HasChildren recursive path about (before ++ name :: after))
      (fine : ∀ earlier ∈ before,
        ∃ entries, Lists disk recursive (FilePath.child path earlier) entries)
      (trips : Trips disk recursive (FilePath.child path name) node fault) :
      Trips disk recursive path node fault

/-- What can be reached from a path: itself, and what can be reached from what is in it. -/
inductive Reaches (disk : Disk) (recursive : Bool) : Bytes → Bytes → Prop where
  | here (path : Bytes) : Reaches disk recursive path path
  | inside {path node name : Bytes} {about : Metadata} {names : List Bytes}
      (children : disk.HasChildren recursive path about names) (among : name ∈ names)
      (further : Reaches disk recursive (FilePath.child path name) node) :
      Reaches disk recursive path node

/-! ## Visits -/

section Attempts

variable {ε α β : Type} {f : α → Except ε (List β)}

private theorem mapM_of_ok {xs : List α} {inside : α → List β}
    (each : ∀ x ∈ xs, f x = .ok (inside x)) : xs.mapM f = .ok (xs.map inside) := by
  induction xs with
  | nil => rfl
  | cons x xs ih =>
    rw [List.mapM_cons, each x List.mem_cons_self,
      ih fun other among => each other (List.mem_cons_of_mem x among)]
    rfl

/-- The first attempt that fails ends them all. -/
private theorem mapM_of_error {before after : List α} {x : α} {e : ε}
    (fine : ∀ earlier ∈ before, ∃ made, f earlier = .ok made) (fails : f x = .error e) :
    (before ++ x :: after).mapM f = .error e := by
  induction before with
  | nil =>
    rw [List.nil_append, List.mapM_cons, fails]
    rfl
  | cons first before ih =>
    obtain ⟨made, success⟩ := fine first List.mem_cons_self
    rw [List.cons_append, List.mapM_cons, success,
      ih fun earlier among => fine earlier (List.mem_cons_of_mem first among)]
    rfl

/-- Of many things that are well or not, all are well, or there is a first one that is not. -/
private theorem all_or_first {Well Ill : α → Prop} {xs : List α}
    (either : ∀ x ∈ xs, Well x ∨ Ill x) :
    (∀ x ∈ xs, Well x) ∨
      ∃ before x after, xs = before ++ x :: after ∧ (∀ earlier ∈ before, Well earlier) ∧ Ill x := by
  induction xs with
  | nil => exact .inl fun _ among => absurd among List.not_mem_nil
  | cons first xs ih =>
    rcases either first List.mem_cons_self with well | ill
    · rcases ih fun x among => either x (List.mem_cons_of_mem first among) with
        all | ⟨before, x, after, rfl, fine, ill⟩
      · refine .inl fun x among => ?_
        rcases List.mem_cons.mp among with rfl | later
        · exact well
        · exact all x later
      · refine .inr ⟨first :: before, x, after, rfl, fun earlier among => ?_, ill⟩
        rcases List.mem_cons.mp among with rfl | later
        · exact well
        · exact fine earlier later
    · exact .inr ⟨[], first, xs, rfl, fun _ among => absurd among List.not_mem_nil, ill⟩

end Attempts

/-- What has a listing is listed. -/
theorem Lists.visit (lists : disk.Lists recursive path entries) :
    disk.visit recursive path = .ok entries := by
  induction lists with
  | file file => rw [visit_eq, (Examined.file file).eq]
  | directory inside children each ih =>
    rw [visit_eq, (Examined.directory children).eq]
    simp only [mapM_of_ok ih]
    rfl

/-- What trips over a path at fault is refused for it. -/
theorem Trips.visit (trips : disk.Trips recursive path node fault) :
    disk.visit recursive path = .error (refuse node fault) := by
  induction trips with
  | here faulty => rw [visit_eq, (Examined.faulty faulty).eq]
  | @inside path node name about before after fault children fine trips ih =>
    have listed (earlier : Bytes) (among : earlier ∈ before) :
        ∃ made, disk.visit recursive (FilePath.child path earlier) = .ok made := by
      obtain ⟨entries, lists⟩ := fine earlier among
      exact ⟨entries, lists.visit⟩
    have fails : (before ++ name :: after).mapM
        (fun name => disk.visit recursive (FilePath.child path name)) = .error (refuse node fault) :=
      mapM_of_error listed ih
    rw [visit_eq, (Examined.directory children).eq]
    simp only [fails]
    rfl

/-- Where there are listings they can be named. -/
private theorem exists_inside {place : Bytes → Bytes} {names : List Bytes}
    (each : ∀ name ∈ names, ∃ entries, disk.Lists recursive (place name) entries) :
    ∃ inside : Bytes → List CopyEntry,
      ∀ name ∈ names, disk.Lists recursive (place name) (inside name) := by
  refine ⟨fun name => (disk.visit recursive (place name)).toOption.getD [], fun name among => ?_⟩
  obtain ⟨entries, lists⟩ := each name among
  dsimp only
  rw [lists.visit]
  exact lists

/-- **A path has a listing, or something is at fault.** -/
theorem lists_or_trips (disk : Disk) (recursive : Bool) (path : Bytes) :
    (∃ entries, disk.Lists recursive path entries) ∨
      ∃ node fault, disk.Trips recursive path node fault := by
  have examined := disk.examine_examined recursive
  induction path using visit.induct disk recursive with
  | case1 path fault found =>
    cases found ▸ examined path with
    | faulty faulty => exact .inr ⟨path, fault, .here faulty⟩
  | case2 path about length found =>
    cases found ▸ examined path with
    | file file => exact .inl ⟨_, .file file⟩
  | case3 path about names found ih =>
    cases found ▸ examined path with
    | directory children =>
      rcases all_or_first ih with all | ⟨before, name, after, rfl, fine, node, fault, trips⟩
      · obtain ⟨inside, each⟩ := exists_inside all
        exact .inl ⟨_, .directory inside children each⟩
      · exact .inr ⟨node, fault, .inside children fine trips⟩

/-! ## What can be reached -/

theorem HasChildren.unique {other : Metadata} {others : List Bytes}
    (children : disk.HasChildren recursive path about names)
    (again : disk.HasChildren recursive path other others) : others = names := by
  have same := (Examined.directory again).eq.symm.trans (Examined.directory children).eq
  cases same
  rfl

/-- What is listed is not at fault, nor is anything that can be reached from it. -/
theorem Lists.not_faulty (lists : disk.Lists recursive path entries)
    (reaches : disk.Reaches recursive path node) : ¬ disk.Faulty recursive node fault := by
  induction reaches generalizing entries with
  | here path =>
    intro faulty
    have refused := (Trips.here faulty).visit
    rw [lists.visit] at refused
    cases refused
  | @inside path node name about names children among further ih =>
    cases lists with
    | file file =>
      have seen := file.seen.symm.trans children.seen
      cases seen
    | directory inside own each => exact ih (each name (children.unique own ▸ among))

/-- What is tripped over can be reached, and is at fault. -/
theorem Trips.reaches (trips : disk.Trips recursive path node fault) :
    disk.Reaches recursive path node ∧ disk.Faulty recursive node fault := by
  induction trips with
  | here faulty => exact ⟨.here _, faulty⟩
  | @inside path node name about before after fault children fine trips ih =>
    obtain ⟨reaches, faulty⟩ := ih
    exact ⟨.inside children (List.mem_append_right before List.mem_cons_self) reaches, faulty⟩

/-! ## Other orders -/

/-- Two systems that differ in nothing but the order in which directories say what is in them. -/
structure Agrees (disk other : Disk) : Prop where
  look : ∀ path, other.look path = disk.look path
  opens : ∀ path, other.opens path = disk.opens path
  list : ∀ path names, disk.list path = .ok names →
    ∃ others, other.list path = .ok others ∧ names.Perm others
  refuse : ∀ path e, disk.list path = .error e → other.list path = .error e

namespace Agrees

variable {other : Disk}

theorem faulty (agrees : disk.Agrees other) (faulty : disk.Faulty recursive path fault) :
    other.Faulty recursive path fault := by
  cases faulty with
  | missing unseen => exact .missing ((agrees.look path).trans unseen)
  | unnamed seen none => exact .unnamed ((agrees.look path).trans seen) none
  | closed seen named refused =>
    exact .closed ((agrees.look path).trans seen) named ((agrees.opens path).trans refused)
  | flat seen named flat => exact .flat ((agrees.look path).trans seen) named flat
  | hidden seen named deep refused =>
    exact .hidden ((agrees.look path).trans seen) named deep (agrees.refuse path _ refused)
  | special seen named => exact .special ((agrees.look path).trans seen) named

theorem hasFile {length : Nat} (agrees : disk.Agrees other)
    (file : disk.HasFile path about length) : other.HasFile path about length :=
  ⟨(agrees.look path).trans file.seen, file.named, (agrees.opens path).trans file.opens⟩

theorem hasChildren (agrees : disk.Agrees other)
    (children : disk.HasChildren recursive path about names) :
    other.HasChildren recursive path about names := by
  obtain ⟨listed, answer, same⟩ := children.listed
  obtain ⟨others, answer', same'⟩ := agrees.list path listed answer
  exact ⟨(agrees.look path).trans children.seen, children.named, children.deep,
    ⟨others, answer', same.trans same'⟩, children.order⟩

theorem lists (agrees : disk.Agrees other) (lists : disk.Lists recursive path entries) :
    other.Lists recursive path entries := by
  induction lists with
  | file file => exact .file (agrees.hasFile file)
  | directory inside children each ih => exact .directory inside (agrees.hasChildren children) ih

theorem trips (agrees : disk.Agrees other) (trips : disk.Trips recursive path node fault) :
    other.Trips recursive path node fault := by
  induction trips with
  | here faulty => exact .here (agrees.faulty faulty)
  | inside children fine _ ih =>
    refine .inside (agrees.hasChildren children) (fun earlier among => ?_) ih
    obtain ⟨entries, lists⟩ := fine earlier among
    exact ⟨entries, agrees.lists lists⟩

end Agrees

/-! ## All sources -/

variable {spec : CopySpec}

/-- The listings of all sources, one after another. -/
def Canonical (disk : Disk) (spec : CopySpec) (entries : List CopyEntry) : Prop :=
  ∃ inside : Bytes → List CopyEntry, entries = spec.sources.flatMap inside ∧
    ∀ source ∈ spec.sources, disk.Lists spec.recursive source (inside source)

/-- The first path at fault: all sources before the one that leads to it are listed. -/
def FirstFault (disk : Disk) (spec : CopySpec) (node : Bytes) (fault : SourceFault) : Prop :=
  ∃ before source after, spec.sources = before ++ source :: after ∧
    (∀ earlier ∈ before, ∃ entries, disk.Lists spec.recursive earlier entries) ∧
    disk.Trips spec.recursive source node fault

theorem Canonical.enumerate (canonical : disk.Canonical spec entries) :
    disk.enumerate spec = .ok entries := by
  obtain ⟨inside, rfl, each⟩ := canonical
  rw [Disk.enumerate, mapM_of_ok fun source among => (each source among).visit]
  rfl

theorem FirstFault.enumerate (first : disk.FirstFault spec node fault) :
    disk.enumerate spec = .error (refuse node fault) := by
  obtain ⟨before, source, after, split, fine, trips⟩ := first
  have listed (earlier : Bytes) (among : earlier ∈ before) :
      ∃ made, disk.visit spec.recursive earlier = .ok made := by
    obtain ⟨entries, lists⟩ := fine earlier among
    exact ⟨entries, lists.visit⟩
  rw [Disk.enumerate, split, mapM_of_error listed trips.visit]
  rfl

theorem canonical_or_firstFault (disk : Disk) (spec : CopySpec) :
    (∃ entries, disk.Canonical spec entries) ∨ ∃ node fault, disk.FirstFault spec node fault := by
  rcases all_or_first fun source (_ : source ∈ spec.sources) =>
      disk.lists_or_trips spec.recursive source with
    all | ⟨before, source, after, split, fine, node, fault, trips⟩
  · obtain ⟨inside, each⟩ := exists_inside all
    exact .inl ⟨_, inside, rfl, each⟩
  · exact .inr ⟨node, fault, before, source, after, split, fine, trips⟩

end Disk

/-! ## The shape of a listing -/

/-- Whether every directory that is entered is left again, the last one first, by an entry that says
the same of it. -/
def CopyEntry.nested (entered : List CopyEntry) : List CopyEntry → Bool
  | [] => entered.isEmpty
  | entry :: rest =>
    match entry.kind with
    | .file _ => nested entered rest
    | .directory => nested (entry :: entered) rest
    | .leave =>
      match entered with
      | [] => false
      | last :: outer => entry = { last with kind := .leave } && nested outer rest

namespace Listing

variable {path : Bytes} {entries : List CopyEntry}

/-- **A listing enters and leaves directories in pairs.** -/
theorem nested (listing : Listing path entries) (entered rest : List CopyEntry) :
    CopyEntry.nested entered (entries ++ rest) = CopyEntry.nested entered rest := by
  induction listing generalizing entered rest with
  | file => rfl
  | @directory path about names inside listed ih =>
    rw [List.cons_append, List.append_assoc]
    exact (flatMap_neutral ih _ _).trans (by simp [CopyEntry.nested, CopyEntry.ofMetadata])

end Listing

/-! ## The law -/

namespace Disk

variable {disk : Disk} {spec : CopySpec} {entries : List CopyEntry}

theorem enumerate_eq_ok_iff : disk.enumerate spec = .ok entries ↔ disk.Canonical spec entries := by
  refine ⟨fun listed => ?_, Canonical.enumerate⟩
  rcases disk.canonical_or_firstFault spec with ⟨others, canonical⟩ | ⟨node, fault, first⟩
  · have same := listed.symm.trans canonical.enumerate
    cases same
    exact canonical
  · have refused := listed.symm.trans first.enumerate
    cases refused

theorem enumerate_eq_error_iff {e : DispatchError} : disk.enumerate spec = .error e ↔
    ∃ node fault, disk.FirstFault spec node fault ∧ e = refuse node fault := by
  constructor
  · intro refused
    rcases disk.canonical_or_firstFault spec with ⟨others, canonical⟩ | ⟨node, fault, first⟩
    · have listed := refused.symm.trans canonical.enumerate
      cases listed
    · have same := refused.symm.trans first.enumerate
      cases same
      exact ⟨node, fault, first, rfl⟩
  · rintro ⟨node, fault, first, rfl⟩
    exact first.enumerate

/-- There is a listing if nothing that can be reached is at fault. -/
theorem exists_enumerate_iff : (∃ entries, disk.enumerate spec = .ok entries) ↔
    ∀ source ∈ spec.sources, ∀ node, disk.Reaches spec.recursive source node →
      ∀ fault, ¬ disk.Faulty spec.recursive node fault := by
  constructor
  · rintro ⟨entries, listed⟩ source among node reaches fault
    obtain ⟨inside, -, each⟩ := enumerate_eq_ok_iff.mp listed
    exact (each source among).not_faulty reaches
  · intro fine
    rcases disk.canonical_or_firstFault spec with ⟨entries, canonical⟩ | ⟨node, fault, first⟩
    · exact ⟨entries, canonical.enumerate⟩
    · obtain ⟨before, source, after, split, -, trips⟩ := first
      obtain ⟨reaches, faulty⟩ := trips.reaches
      have among : source ∈ spec.sources := by
        rw [split]
        exact List.mem_append_right before List.mem_cons_self
      exact absurd faulty (fine source among node reaches fault)

theorem enumerate_shape (listed : disk.enumerate spec = .ok entries) :
    (∀ entry ∈ entries, entry.mode ≤ 0o7777) ∧ CopyEntry.nested [] entries = true := by
  obtain ⟨inside, rfl, each⟩ := enumerate_listing listed
  constructor
  · intro entry among
    obtain ⟨source, here, among⟩ := List.mem_flatMap.mp among
    exact Nat.le_of_lt_succ ((each source here).mode_lt entry among)
  · have closed := flatMap_neutral (fun source here => (each source here).nested) [] []
    rwa [List.append_nil] at closed

/-- The order in which directories say what is in them makes no difference. -/
theorem Agrees.enumerate {other : Disk} (agrees : disk.Agrees other) (spec : CopySpec) :
    other.enumerate spec = disk.enumerate spec := by
  rcases disk.canonical_or_firstFault spec with
    ⟨entries, canonical⟩ | ⟨node, fault, first⟩
  · rw [canonical.enumerate]
    obtain ⟨inside, same, each⟩ := canonical
    exact Canonical.enumerate ⟨inside, same, fun source among => agrees.lists (each source among)⟩
  · rw [first.enumerate]
    obtain ⟨before, source, after, split, fine, trips⟩ := first
    refine FirstFault.enumerate ⟨before, source, after, split, fun earlier among => ?_,
      agrees.trips trips⟩
    obtain ⟨entries, lists⟩ := fine earlier among
    exact ⟨entries, agrees.lists lists⟩

/-- **Sources are listed depth first, or the first path at fault is named.** What is listed are the
listings of the sources, one after another; an error is that of the first path at fault. There is a
listing if and only if nothing is at fault that can be reached; its modes are permission bits, and
its directories are left in the order opposite to that in which they are entered. Systems that
differ only in the order in which directories say what is in them are listed alike. -/
theorem enumerate_canonical (disk : Disk) (spec : CopySpec) :
    (∀ entries, disk.enumerate spec = .ok entries ↔ disk.Canonical spec entries) ∧
      (∀ e, disk.enumerate spec = .error e ↔
        ∃ node fault, disk.FirstFault spec node fault ∧ e = refuse node fault) ∧
      ((∃ entries, disk.enumerate spec = .ok entries) ↔
        ∀ source ∈ spec.sources, ∀ node, disk.Reaches spec.recursive source node →
          ∀ fault, ¬ disk.Faulty spec.recursive node fault) ∧
      (∀ entries, disk.enumerate spec = .ok entries →
        (∀ entry ∈ entries, entry.mode ≤ 0o7777) ∧ CopyEntry.nested [] entries = true) ∧
      ∀ other : Disk, disk.Agrees other → other.enumerate spec = disk.enumerate spec :=
  ⟨fun _ => enumerate_eq_ok_iff, fun _ => enumerate_eq_error_iff, exists_enumerate_iff,
    fun _ listed => enumerate_shape listed, fun _ agrees => agrees.enumerate spec⟩

end Disk

end Fleet
