import Fleet.Proofs.Enumeration
import Fleet.Proofs.Lookups

/-!
# Links that lead back

A listing follows links and does not remember where it has been. A link in a directory that leads
back to the directory, or to one that it is in, is followed again and again. What ends this are the
limits of lookups: the visited path is one name longer each time, and its lookup follows one link
more.

**The law** (`Disk.enumeration_ends`): a listing comes to an end on every file system, at a depth
that the length of the paths bounds, and also the number of links together with the depth of the
tree; and where a way leads back there is no listing, but an error. This is said of every system
whose answers are true of a file system (`Disk.Shows`), whatever else it refuses.
-/

namespace Fleet

open CopySpec (refuse)
open FilePath (IsName child descend)
open FileSystem (linkLimit pathLimit)

namespace Disk

variable {disk : Disk} {fs : FileSystem} {recursive : Bool} {path name : Bytes}
  {way loop : List Bytes} {entries : List CopyEntry} {place goal : Place} {links : Nat}

/-! ## True answers -/

/-- A system says nothing of a file system that is not so. What a path is seen to be is what is
where it leads, over no more links than a lookup may follow; and the names in a directory are those
that can be the names of something. There may be other reasons to refuse an answer. -/
structure Shows (disk : Disk) (fs : FileSystem) : Prop where
  looks : ∀ {path sight}, disk.look path = .ok sight →
    ∃ links place, links ≤ linkLimit ∧ fs.Leads path links place ∧ place.node.sight = sight
  lists : ∀ {path names}, disk.list path = .ok names →
    ∃ links place, fs.Leads path links place ∧
      ∀ name, name ∈ names ↔ IsName name ∧ name ∈ place.node.names

private theorem map_eq_ok {ε α β : Type} {f : α → β} {found : Except ε α} {b : β}
    (mapped : found.map f = .ok b) : ∃ a, found = .ok a ∧ f a = b := by
  cases found with
  | error e => cases mapped
  | ok a => exact ⟨a, rfl, Except.ok.inj mapped⟩

/-- The system of a file system that refuses nothing else says what is so. -/
theorem shows_disk (fs : FileSystem) : fs.disk.Shows fs where
  looks := by
    intro path sight seen
    obtain ⟨node, found, rfl⟩ := map_eq_ok seen
    obtain ⟨links, place, few, leads, rfl⟩ := FileSystem.leads_of_find found
    exact ⟨links, place, few, leads, rfl⟩
  lists := by
    intro path names listed
    obtain ⟨node, found, rfl⟩ := map_eq_ok listed
    obtain ⟨links, place, -, leads, rfl⟩ := FileSystem.leads_of_find found
    refine ⟨links, place, leads, fun name => ?_⟩
    rw [List.mem_filter, decide_eq_true_iff, and_comm]

/-! ## How deep visits are nested -/

/-- The visit of a path visits what is in it under a name. -/
def Calls (disk : Disk) (recursive : Bool) (path name : Bytes) : Prop :=
  ∃ about names, disk.examine recursive path = .ok (.directory about names) ∧ name ∈ names

/-- Visits are nested in the visit of a path, one in another along the names. -/
inductive Nests (disk : Disk) (recursive : Bool) : Bytes → List Bytes → Prop where
  | here (path : Bytes) : Nests disk recursive path []
  | inside {path name : Bytes} {way : List Bytes} (calls : disk.Calls recursive path name)
      (nests : Nests disk recursive (child path name) way) :
      Nests disk recursive path (name :: way)

theorem Calls.length_lt (calls : disk.Calls recursive path name) :
    path.length < pathLimit ∧ path.length < (child path name).length := by
  obtain ⟨about, names, found, among⟩ := calls
  exact length_lt_of_examine found among

/-- What is visited inside a directory has a name that can be one, and the directory was looked
at. -/
theorem Calls.seen (calls : disk.Calls recursive path name) :
    IsName name ∧ ∃ sight, disk.look path = .ok sight := by
  obtain ⟨about, names, found, among⟩ := calls
  cases found ▸ disk.examine_examined recursive path with
  | directory children =>
    obtain ⟨listed, answer, same⟩ := children.listed
    exact ⟨disk.named answer name (same.mem_iff.mp among), _, children.seen⟩

/-- Every visit is of a longer path. -/
theorem wellFounded_calls (disk : Disk) (recursive : Bool) : WellFounded fun inner outer =>
    ∃ name, disk.Calls recursive outer name ∧ inner = child outer name := by
  refine Subrelation.wf ?_ (measure fun path : Bytes => pathLimit - path.length).wf
  rintro inner outer ⟨name, calls, rfl⟩
  obtain ⟨short, longer⟩ := calls.length_lt
  show pathLimit - (child outer name).length < pathLimit - outer.length
  omega

namespace Nests

/-- **Visits are nested no deeper than a path can be long.** -/
theorem length_le_pathLimit (nests : disk.Nests recursive path way) :
    way.length ≤ pathLimit - path.length := by
  induction nests with
  | here path => exact Nat.zero_le _
  | inside calls nests ih =>
    obtain ⟨short, longer⟩ := calls.length_lt
    rw [List.length_cons]
    omega

theorem legal (nests : disk.Nests recursive path way) : ∀ name ∈ way, IsName name := by
  induction nests with
  | here path => exact fun _ among => absurd among List.not_mem_nil
  | inside calls nests ih => exact List.forall_mem_cons.mpr ⟨calls.seen.1, ih⟩

/-- All but the innermost visited path were looked at. -/
theorem seen {last : Bytes} (nests : disk.Nests recursive path (way ++ [last])) :
    (∃ sight, disk.look path = .ok sight) ∧
      ∃ sight, disk.look (descend path way) = .ok sight := by
  induction way generalizing path with
  | nil =>
    cases nests with
    | inside calls => exact ⟨calls.seen.2, calls.seen.2⟩
  | cons name way ih =>
    cases nests with
    | inside calls nests => exact ⟨calls.seen.2, (ih nests).2⟩

/-- **Visits are nested no deeper than links and the tree allow.** Between two links names only lead
down, and the lookup of a path follows all links of the visits around it again. -/
theorem length_le_linkLimit (shows : disk.Shows fs) (nests : disk.Nests recursive path way) :
    way.length ≤ (linkLimit + 1) * (fs.root.height + 1) := by
  rcases List.eq_nil_or_concat way with rfl | ⟨front, last, rfl⟩
  · exact Nat.zero_le _
  rw [List.concat_eq_append] at nests ⊢
  obtain ⟨⟨_, first⟩, ⟨_, seen⟩⟩ := nests.seen
  obtain ⟨_, _, -, start, -⟩ := shows.looks first
  obtain ⟨links, goal, few, there, -⟩ := shows.looks seen
  have legal : ∀ name ∈ front, IsName name := fun name among =>
    nests.legal name (List.mem_append_left [last] among)
  obtain ⟨place, used, more, leads, walks, rfl⟩ :=
    (FileSystem.leads_descend_iff start.filled legal).mp there
  have within := (fs.within_origin path).walks leads.walks
  have bound := walks.length_le legal within
  have shallow := within place.node List.mem_cons_self
  have few : more * (fs.root.height + 1) ≤ linkLimit * (fs.root.height + 1) :=
    Nat.mul_le_mul_right _ (Nat.le_trans (Nat.le_add_left _ _) few)
  rw [List.length_append, List.length_singleton, Nat.succ_mul]
  omega

end Nests

/-! ## No listing of what leads back -/

/-- What has a listing is what the path leads to, and what is in it has one too. -/
theorem Lists.child (shows : disk.Shows fs) (lists : disk.Lists recursive path entries)
    (leads : fs.Leads path links place) (isName : IsName name) {inner : Node}
    (entry : place.node.entry? name = some inner) :
    ∃ entries, disk.Lists recursive (child path name) entries := by
  cases lists with
  | file file =>
    obtain ⟨_, other, -, leads', sight⟩ := shows.looks file.seen
    obtain rfl := leads.unique leads'
    have inside := Node.isDirectory_of_entry entry
    cases object : other.node with
    | directory =>
      rw [object] at sight
      cases sight
    | _ =>
      rw [object] at inside
      cases inside
  | directory inside children each =>
    obtain ⟨listed, answer, same⟩ := children.listed
    obtain ⟨_, other, leads', names⟩ := shows.lists answer
    obtain rfl := leads.unique leads'
    have among := (names name).mpr ⟨isName, Node.mem_names_of_entry isName.some entry⟩
    exact ⟨_, each name (same.mem_iff.mpr among)⟩

/-- **What has a listing is listed all the way**, wherever names lead from it. -/
theorem Lists.descend (shows : disk.Shows fs) (lists : disk.Lists recursive path entries)
    (leads : fs.Leads path links place) (legal : ∀ name ∈ way, IsName name) {more : Nat}
    (walks : Walks fs.root place way more goal) :
    ∃ entries, disk.Lists recursive (descend path way) entries := by
  induction way generalizing path entries links place more with
  | nil => exact ⟨entries, lists⟩
  | cons name way ih =>
    obtain ⟨isName, legal⟩ := List.forall_mem_cons.mp legal
    obtain ⟨middle, used, more, first, further, -⟩ := Walks.cons_iff.mp walks
    obtain ⟨inner, entry⟩ := first.exists_entry isName
    obtain ⟨inside, listed⟩ := lists.child shows leads isName entry
    have there := (FileSystem.leads_child_iff leads.filled isName).mpr
      ⟨place, _, _, leads, first, rfl⟩
    exact ih listed there legal further

theorem Lists.short (lists : disk.Lists recursive path entries) : path.length < pathLimit := by
  cases lists with
  | file file => exact disk.short file.seen
  | directory inside children each => exact disk.short children.seen

end Disk

/-- A way of names leads back to where it began, so that it can be gone again. -/
def Place.Recurs (root : Node) (place : Place) : Prop :=
  ∃ loop links, loop ≠ [] ∧ (∀ name ∈ loop, IsName name) ∧ Walks root place loop links place

/-- There is a link in a directory that leads to the directory itself, or to one that it is in: to
where names lead down to it again, none of them a link. -/
inductive Place.LinksBack (root : Node) (place : Place) : Prop where
  | intro {name target : Bytes} {outer : Place} {links : Nat} {down : List Bytes}
      (isName : IsName name) (entry : place.node.entry? name = some (.link target))
      (leads : Walks root (place.origin root target) (FilePath.steps target) links outer)
      (legal : ∀ name ∈ down, IsName name) (inside : Walks root outer down 0 place)

/-- Something is where names lead to from a path, links followed. -/
def FileSystem.Reaches (fs : FileSystem) (path : Bytes) (goal : Place) : Prop :=
  ∃ links place way more, fs.Leads path links place ∧ (∀ name ∈ way, IsName name) ∧
    Walks fs.root place way more goal

namespace Place

variable {root : Node} {place : Place}

theorem LinksBack.recurs (back : place.LinksBack root) : place.Recurs root := by
  obtain ⟨isName, entry, leads, legal, inside⟩ := back
  exact ⟨_, _, List.cons_ne_nil _ _, List.forall_mem_cons.mpr ⟨isName, legal⟩,
    .link isName.self isName.parent entry (leads.append inside)⟩

/-- A way that leads back can be gone as often as wanted. -/
theorem Recurs.again (recurs : place.Recurs root) (times : Nat) :
    ∃ way links, times ≤ way.length ∧ (∀ name ∈ way, IsName name) ∧
      Walks root place way links place := by
  obtain ⟨loop, links, some, legal, walks⟩ := recurs
  induction times with
  | zero =>
    exact ⟨[], 0, Nat.le_refl _, fun _ among => absurd among List.not_mem_nil, .arrived place⟩
  | succ times ih =>
    obtain ⟨way, used, long, names, before⟩ := ih
    refine ⟨loop ++ way, links + used, ?_, ?_, walks.append before⟩
    · have := List.length_pos_iff.mpr some
      rw [List.length_append]
      omega
    · exact List.forall_mem_append.mpr ⟨legal, names⟩

end Place

namespace Disk

variable {disk : Disk} {fs : FileSystem} {recursive : Bool} {path : Bytes} {place : Place}

/-- **Where a way leads back there is no listing.** -/
theorem Shows.not_lists (shows : disk.Shows fs) (reaches : fs.Reaches path place)
    (recurs : place.Recurs fs.root) (entries : List CopyEntry) :
    ¬ disk.Lists recursive path entries := by
  intro lists
  obtain ⟨_, start, front, _, leads, legal, first⟩ := reaches
  obtain ⟨way, _, long, names, again⟩ := recurs.again pathLimit
  have all : ∀ name ∈ front ++ way, IsName name := List.forall_mem_append.mpr ⟨legal, names⟩
  obtain ⟨_, listed⟩ := lists.descend shows leads all (first.append again)
  have short := listed.short
  have grown := FilePath.length_le_descend all path
  rw [List.length_append] at grown
  omega

/-- **A listing comes to an end, and where a way leads back it ends with an error.** Each visit is
nested in finitely many others, whatever the file system: no more than a path can be long, and no
more than the links of a lookup and the depth of the tree allow. If a source leads to a directory
with a link to itself or to a directory that it is in, or to any place from which names lead back to
it, then what is listed is an error for some path. -/
theorem enumeration_ends (shows : disk.Shows fs) :
    (∀ recursive, WellFounded fun inner outer =>
      ∃ name, disk.Calls recursive outer name ∧ inner = child outer name) ∧
    (∀ recursive path way, disk.Nests recursive path way →
      way.length ≤ pathLimit - path.length ∧
        way.length ≤ (linkLimit + 1) * (fs.root.height + 1)) ∧
    ∀ spec : CopySpec, ∀ source ∈ spec.sources, ∀ place, fs.Reaches source place →
      place.LinksBack fs.root ∨ place.Recurs fs.root →
        ∃ node fault, disk.enumerate spec = .error (refuse node fault) := by
  refine ⟨disk.wellFounded_calls, fun recursive path way nests =>
    ⟨nests.length_le_pathLimit, nests.length_le_linkLimit shows⟩, ?_⟩
  intro spec source among place reaches cyclic
  have recurs : place.Recurs fs.root := cyclic.elim (·.recurs) id
  rcases disk.canonical_or_firstFault spec with ⟨entries, inside, -, each⟩ | ⟨node, fault, first⟩
  · exact absurd (each source among) (shows.not_lists reaches recurs _)
  · exact ⟨node, fault, first.enumerate⟩

/-- A directory with a link to the directory that it is in. -/
def lower : Node := .directory { mode := 0o755 } [(Utf8.encode "up", .link FilePath.parent)]

/-- The directory that it is in. -/
def upper : Node := .directory { mode := 0o755 } [(Utf8.encode "a", lower)]

/-- A file system with nothing else. -/
def upward : FileSystem where
  root := .directory { mode := 0o755 } [(Utf8.encode "t", upper)]

/-- Nothing but the limits of lookups is in the way, and there is no listing. -/
theorem enumeration_ends_upward : upward.disk.Shows upward ∧
    (∃ place, upward.Reaches (Utf8.encode "t") place ∧ place.LinksBack upward.root) ∧
    ∃ node fault, upward.disk.enumerate
      { sources := [Utf8.encode "t"], destination := "x", recursive := true }
        = .error (refuse node fault) := by
  have inner : IsName (Utf8.encode "a") := by decide
  have up : IsName (Utf8.encode "up") := by decide
  have first : upward.Leads (Utf8.encode "t") 0 ⟨upper, [upward.root]⟩ :=
    ⟨by decide, .name (by decide) (by decide) rfl (fun _ same => nomatch same) (.arrived _)⟩
  have second : Walks upward.root ⟨upper, [upward.root]⟩ [Utf8.encode "a"] 0
      ⟨lower, [upper, upward.root]⟩ :=
    .name inner.self inner.parent rfl (fun _ same => nomatch same) (.arrived _)
  have reaches : upward.Reaches (Utf8.encode "t") ⟨lower, [upper, upward.root]⟩ :=
    ⟨_, _, _, _, first, List.forall_mem_singleton.mpr inner, second⟩
  have back : Place.LinksBack upward.root ⟨lower, [upper, upward.root]⟩ :=
    .intro up rfl (.parent rfl (.arrived _)) (List.forall_mem_singleton.mpr inner) second
  exact ⟨shows_disk upward, ⟨_, reaches, back⟩, (enumeration_ends (shows_disk upward)).2.2 _ _
    List.mem_cons_self _ reaches (.inl back)⟩

end Disk

end Fleet
