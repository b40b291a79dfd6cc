import Fleet.Disk
import Fleet.Proofs.PathOrder

/-!
# Lookups without limits

`FileSystem.walk` follows only so many links, and tells nothing of the way. A `Walks` is the way
itself: where the steps of a path lead from a place in the tree, and how many links are followed. It
knows no limit, so where a path leads does not depend on where it was begun or on what was used up
before (`Walks.append_iff`, `Walks.unique`).

Between two links names only lead down, and a tree is only so deep: a way of names is no longer than
its links and the depth of the tree allow (`Walks.length_le`).
-/

namespace Fleet

open FilePath (IsName)

/-! ## Depth -/

namespace Node

mutual

/-- How many names can be taken one after another, links aside. -/
def height : Node → Nat
  | directory _ entries => heightBelow entries
  | _ => 0

/-- How many names can be taken one after another from a directory with these entries. -/
def heightBelow : List (Bytes × Node) → Nat
  | [] => 0
  | entry :: rest => max (entry.2.height + 1) (heightBelow rest)

end

theorem height_lt_of_mem {entry : Bytes × Node} {entries : List (Bytes × Node)}
    (among : entry ∈ entries) : entry.2.height < heightBelow entries := by
  induction entries with
  | nil => cases among
  | cons first rest ih =>
    rw [heightBelow]
    rcases List.mem_cons.mp among with rfl | later
    · omega
    · have := ih later
      omega

/-- What is in a directory is less deep. -/
theorem height_lt_of_entry {node inner : Node} {name : Bytes}
    (entry : node.entry? name = some inner) : inner.height < node.height := by
  cases node with
  | directory about entries =>
    obtain ⟨found, first, rfl⟩ := Option.map_eq_some_iff.mp entry
    rw [height]
    exact height_lt_of_mem (List.mem_of_find?_eq_some first)
  | _ => cases entry

theorem height_getD_entry_le (node : Node) (name : Bytes) :
    ((node.entry? name).getD .emptyDirectory).height ≤ node.height := by
  cases entry : node.entry? name with
  | none =>
    rw [Option.getD_none, emptyDirectory, height, heightBelow]
    exact Nat.zero_le _
  | some inner => exact Nat.le_of_lt (height_lt_of_entry entry)

theorem isDirectory_of_entry {node inner : Node} {name : Bytes}
    (entry : node.entry? name = some inner) : node.isDirectory = true := by
  cases node with
  | directory => rfl
  | _ => cases entry

theorem mem_names_of_entry {node inner : Node} {name : Bytes} (filled : name ≠ [])
    (entry : node.entry? name = some inner) : name ∈ node.names := by
  cases node with
  | directory about entries =>
    obtain ⟨found, first, -⟩ := Option.map_eq_some_iff.mp entry
    have own := List.find?_some (p := fun entry : Bytes × Node => entry.1 == name) first
    obtain rfl := beq_iff_eq.mp own
    exact List.mem_filter.mpr
      ⟨List.mem_map_of_mem (List.mem_of_find?_eq_some first), decide_eq_true filled⟩
  | _ => cases entry

end Node

/-! ## Places and ways -/

/-- A place in a tree: an object, and the directories above it, the nearest first. -/
structure Place where
  node : Node
  above : List Node

namespace Place

/-- The directory above. Above the root is the root. -/
def up : Place → Place
  | ⟨node, []⟩ => ⟨node, []⟩
  | ⟨_, up :: higher⟩ => ⟨up, higher⟩

/-- An object in the directory at a place. -/
def enter (place : Place) (node : Node) : Place := ⟨node, place.node :: place.above⟩

/-- Where a path starts that is read at a place. -/
def origin (root : Node) (place : Place) (path : Bytes) : Place :=
  if FilePath.isAbsolute path then ⟨root, []⟩ else place

/-- Nothing at a place or above it is deeper than this. -/
def Within (depth : Nat) (place : Place) : Prop :=
  ∀ node ∈ place.node :: place.above, node.height ≤ depth

end Place

/-- The way of some steps from a place: how many links it follows, and where it ends. -/
inductive Walks (root : Node) : Place → List Bytes → Nat → Place → Prop where
  | arrived (place : Place) : Walks root place [] 0 place
  | self {place goal : Place} {steps : List Bytes} {links : Nat}
      (inside : place.node.isDirectory = true) (further : Walks root place steps links goal) :
      Walks root place (FilePath.self :: steps) links goal
  | parent {place goal : Place} {steps : List Bytes} {links : Nat}
      (inside : place.node.isDirectory = true) (further : Walks root place.up steps links goal) :
      Walks root place (FilePath.parent :: steps) links goal
  | name {place goal : Place} {name : Bytes} {node : Node} {steps : List Bytes} {links : Nat}
      (own : name ≠ FilePath.self) (down : name ≠ FilePath.parent)
      (entry : place.node.entry? name = some node) (direct : ∀ target, node ≠ .link target)
      (further : Walks root (place.enter node) steps links goal) :
      Walks root place (name :: steps) links goal
  | link {place goal : Place} {name target : Bytes} {steps : List Bytes} {links : Nat}
      (own : name ≠ FilePath.self) (down : name ≠ FilePath.parent)
      (entry : place.node.entry? name = some (.link target))
      (further :
        Walks root (place.origin root target) (FilePath.steps target ++ steps) links goal) :
      Walks root place (name :: steps) (links + 1) goal

namespace Walks

variable {root node : Node} {place goal middle : Place} {name : Bytes}
  {steps first second way : List Bytes} {links depth : Nat}

/-- **What a lookup finds is where the way ends**, and the way follows no more links than the lookup
may. -/
theorem of_walk {here : Node} {above : List Node}
    (found : FileSystem.walk root links here above steps = .ok node) :
    ∃ used higher, used ≤ links ∧ Walks root ⟨here, above⟩ steps used ⟨node, higher⟩ := by
  fun_induction FileSystem.walk root links here above steps with
  | case1 links here above =>
    cases found
    exact ⟨0, above, Nat.zero_le links, .arrived _⟩
  | case3 links here above rest inside ih =>
    obtain ⟨used, higher, few, walks⟩ := ih found
    exact ⟨used, higher, few, .self (by simpa using inside) walks⟩
  | case4 links here rest inside _ ih =>
    obtain ⟨used, higher, few, walks⟩ := ih found
    exact ⟨used, higher, few, .parent (by simpa using inside) walks⟩
  | case5 links here rest inside up above _ ih =>
    obtain ⟨used, higher, few, walks⟩ := ih found
    exact ⟨used, higher, few, .parent (by simpa using inside) walks⟩
  | case9 here above name rest inside own down _ target entry links absolute ih =>
    obtain ⟨used, higher, few, walks⟩ := ih found
    refine ⟨used + 1, higher, Nat.succ_le_succ few, .link own down entry ?_⟩
    rwa [Place.origin, if_pos absolute]
  | case10 here above name rest inside own down _ target entry links relative ih =>
    obtain ⟨used, higher, few, walks⟩ := ih found
    refine ⟨used + 1, higher, Nat.succ_le_succ few, .link own down entry ?_⟩
    rwa [Place.origin, if_neg relative]
  | case11 links here above name rest inside own down _ node direct entry ih =>
    obtain ⟨used, higher, few, walks⟩ := ih found
    exact ⟨used, higher, few, .name own down entry direct walks⟩
  | _ => cases found

/-- **A way ends in one place**, and follows one number of links. -/
theorem unique {other : Place} {count : Nat} (walks : Walks root place steps links goal)
    (again : Walks root place steps count other) : other = goal ∧ count = links := by
  induction walks generalizing count with
  | arrived place =>
    cases again
    exact ⟨rfl, rfl⟩
  | self inside further ih =>
    cases again with
    | self _ further' => exact ih further'
    | name own => exact absurd rfl own
    | link own => exact absurd rfl own
  | parent inside further ih =>
    cases again with
    | parent _ further' => exact ih further'
    | name _ down => exact absurd rfl down
    | link _ down => exact absurd rfl down
  | name own down entry direct further ih =>
    cases again with
    | self => exact absurd rfl own
    | parent => exact absurd rfl down
    | name _ _ entry' _ further' =>
      obtain rfl := Option.some.inj (entry.symm.trans entry')
      exact ih further'
    | link _ _ entry' => exact absurd (Option.some.inj (entry.symm.trans entry')) (direct _)
  | link own down entry further ih =>
    cases again with
    | self => exact absurd rfl own
    | parent => exact absurd rfl down
    | name _ _ entry' direct' =>
      exact absurd (Option.some.inj (entry'.symm.trans entry)) (direct' _)
    | link _ _ entry' further' =>
      cases Option.some.inj (entry.symm.trans entry')
      obtain ⟨same, counts⟩ := ih further'
      exact ⟨same, congrArg (· + 1) counts⟩

theorem append {more : Nat} (walks : Walks root place first links middle)
    (further : Walks root middle second more goal) :
    Walks root place (first ++ second) (links + more) goal := by
  induction walks with
  | arrived place => rwa [Nat.zero_add]
  | self inside _ ih => exact .self inside (ih further)
  | parent inside _ ih => exact .parent inside (ih further)
  | name own down entry direct _ ih => exact .name own down entry direct (ih further)
  | link own down entry _ ih =>
    rw [Nat.add_right_comm]
    exact .link own down entry (List.append_assoc _ _ _ ▸ ih further)

/-- Every way begins with a way of no steps. -/
private theorem begun (walks : Walks root place steps links goal) : ∃ middle used more,
    Walks root place [] used middle ∧ Walks root middle steps more goal ∧ used + more = links :=
  ⟨place, 0, links, .arrived place, walks, Nat.zero_add links⟩

/-- **A way can be broken off and taken up again** between any two of its steps. -/
theorem append_iff : Walks root place (first ++ second) links goal ↔
    ∃ middle used more, Walks root place first used middle ∧ Walks root middle second more goal ∧
      used + more = links := by
  constructor
  · generalize whole : first ++ second = steps
    intro walks
    induction walks generalizing first with
    | arrived place =>
      obtain ⟨rfl, rfl⟩ := List.append_eq_nil_iff.mp whole
      exact begun (.arrived place)
    | self inside further ih =>
      rcases List.append_eq_cons_iff.mp whole with ⟨rfl, rfl⟩ | ⟨front, rfl, rfl⟩
      · exact begun (.self inside further)
      · obtain ⟨middle, used, more, before, after, sum⟩ := ih rfl
        exact ⟨middle, used, more, .self inside before, after, sum⟩
    | parent inside further ih =>
      rcases List.append_eq_cons_iff.mp whole with ⟨rfl, rfl⟩ | ⟨front, rfl, rfl⟩
      · exact begun (.parent inside further)
      · obtain ⟨middle, used, more, before, after, sum⟩ := ih rfl
        exact ⟨middle, used, more, .parent inside before, after, sum⟩
    | name own down entry direct further ih =>
      rcases List.append_eq_cons_iff.mp whole with ⟨rfl, rfl⟩ | ⟨front, rfl, rfl⟩
      · exact begun (.name own down entry direct further)
      · obtain ⟨middle, used, more, before, after, sum⟩ := ih rfl
        exact ⟨middle, used, more, .name own down entry direct before, after, sum⟩
    | link own down entry further ih =>
      rcases List.append_eq_cons_iff.mp whole with ⟨rfl, rfl⟩ | ⟨front, rfl, rfl⟩
      · exact begun (.link own down entry further)
      · obtain ⟨middle, used, more, before, after, sum⟩ := ih (List.append_assoc _ _ _)
        refine ⟨middle, used + 1, more, .link own down entry before, after, ?_⟩
        rw [Nat.add_right_comm, sum]
  · rintro ⟨middle, used, more, before, after, rfl⟩
    exact before.append after

theorem cons_iff : Walks root place (name :: way) links goal ↔
    ∃ middle used more, Walks root place [name] used middle ∧ Walks root middle way more goal ∧
      used + more = links := @append_iff root place goal [name] way links

/-- Names are taken in directories. -/
theorem exists_entry (isName : IsName name) (walks : Walks root place (name :: way) links goal) :
    ∃ inner, place.node.entry? name = some inner := by
  cases walks with
  | self => exact absurd rfl isName.self
  | parent => exact absurd rfl isName.parent
  | name _ _ entry => exact ⟨_, entry⟩
  | link _ _ entry => exact ⟨_, entry⟩

end Walks

/-! ## How long a way can be -/

namespace Place.Within

variable {root node : Node} {place goal : Place} {depth links : Nat} {steps : List Bytes}

theorem up (within : place.Within depth) : place.up.Within depth := by
  obtain ⟨node, above⟩ := place
  cases above with
  | nil => exact within
  | cons up higher => exact fun inner among => within inner (List.mem_cons_of_mem node among)

theorem enter (within : place.Within depth) (shallow : node.height ≤ depth) :
    (place.enter node).Within depth := by
  intro inner among
  rcases List.mem_cons.mp among with rfl | among
  · exact shallow
  · exact within inner among

theorem origin (within : place.Within root.height) (path : Bytes) :
    (place.origin root path).Within root.height := by
  unfold Place.origin
  split
  · intro node among
    exact Nat.le_of_eq (congrArg Node.height (List.mem_singleton.mp among))
  · exact within

/-- No way leads deeper than the tree is. -/
theorem walks (within : place.Within root.height) (walks : Walks root place steps links goal) :
    goal.Within root.height := by
  induction walks with
  | arrived => exact within
  | self _ _ ih => exact ih within
  | parent _ _ ih => exact ih within.up
  | @name place goal name node steps links own down entry direct further ih =>
    refine ih (within.enter ?_)
    have shallow := within place.node List.mem_cons_self
    have below := Node.height_lt_of_entry entry
    omega
  | link _ _ _ _ ih => exact ih (within.origin _)

end Place.Within

namespace Walks

variable {root : Node} {place goal : Place} {name : Bytes} {way : List Bytes} {links : Nat}

/-- A name that is not a link leads down; a link leads to where no more names can be taken than the
tree is deep. -/
theorem height_lt (isName : IsName name) (within : place.Within root.height)
    (walks : Walks root place [name] links goal) :
    goal.node.height + 1 ≤ links * (root.height + 1) + place.node.height := by
  have shallow := within.walks walks goal.node List.mem_cons_self
  cases walks with
  | self => exact absurd rfl isName.self
  | parent => exact absurd rfl isName.parent
  | name own down entry direct further =>
    cases further
    have below := Node.height_lt_of_entry entry
    exact Nat.le_add_left_of_le below
  | @link _ _ name target steps links own down entry further =>
    rw [Nat.succ_mul]
    omega

/-- **A way of names is no longer than its links and the depth of the tree allow.** -/
theorem length_le (legal : ∀ name ∈ way, IsName name) (within : place.Within root.height)
    (walks : Walks root place way links goal) :
    way.length + goal.node.height ≤ links * (root.height + 1) + place.node.height := by
  induction way generalizing place links with
  | nil =>
    cases walks
    simp
  | cons name way ih =>
    obtain ⟨middle, used, more, first, further, rfl⟩ := cons_iff.mp walks
    obtain ⟨isName, legal⟩ := List.forall_mem_cons.mp legal
    have step := first.height_lt isName within
    have rest := ih legal (within.walks first) further
    rw [List.length_cons, Nat.add_mul]
    omega

end Walks

/-! ## Where paths lead -/

namespace FilePath

variable {path name : Bytes}

/-- The names between the slashes of a path. -/
def names (path : Bytes) : List Bytes := (piecesOf path).filter (· ≠ [])

/-- The path of something that is deeper in a directory. -/
def descend (path : Bytes) (way : List Bytes) : Bytes := way.foldl child path

theorem steps_child (path : Bytes) (isName : IsName name) :
    steps (child path name) = names path ++ [name] := by
  obtain ⟨before, after, -, blank, whole, longer⟩ := piecesOf_child path isName
  have dropped : after.filter (· ≠ []) = [] := by
    rw [List.filter_eq_nil_iff]
    intro piece among
    simp [blank piece among]
  have noSlash : endsInSlash (child path name) = false := by
    have last : (child path name).getLast? = name.getLast? := by
      have some := List.getLast?_eq_some_getLast isName.some
      unfold child
      split <;> simp [List.getLast?_append, List.getLast?_cons, some]
    rw [endsInSlash, last, beq_eq_false_iff_ne]
    exact fun ends => isName.free (List.mem_of_getLast? ends)
  rw [steps, noSlash, longer, names, whole, List.filter_append, List.filter_append, dropped,
    List.filter_cons_of_pos (by simp [isName.some])]
  simp

/-- A way of names makes a path longer by at least as many bytes. -/
theorem length_le_descend {way : List Bytes} (legal : ∀ name ∈ way, IsName name) (path : Bytes) :
    path.length + way.length ≤ (descend path way).length := by
  induction way generalizing path with
  | nil => exact Nat.le_refl _
  | cons name way ih =>
    obtain ⟨isName, legal⟩ := List.forall_mem_cons.mp legal
    have step := length_lt_child path isName.some
    have rest := ih legal (child path name)
    rw [descend, List.foldl_cons, ← descend, List.length_cons]
    omega

end FilePath

namespace FileSystem

open FilePath (descend child)

variable {fs : FileSystem} {path name : Bytes} {way : List Bytes} {place goal : Place} {links : Nat}

/-- Where a path starts. -/
def origin (fs : FileSystem) (path : Bytes) : Place :=
  Place.origin fs.root ⟨fs.start.1, fs.start.2⟩ path

/-- A path leads to a place, however many links it follows. -/
structure Leads (fs : FileSystem) (path : Bytes) (links : Nat) (place : Place) : Prop where
  filled : path ≠ []
  walks : Walks fs.root (fs.origin path) (FilePath.steps path) links place

/-- **What is found at a path is where it leads**, over no more links than a lookup may follow. -/
theorem leads_of_find {node : Node} (found : fs.find path = .ok node) :
    ∃ links place, links ≤ linkLimit ∧ fs.Leads path links place ∧ place.node = node := by
  unfold find at found
  by_cases zero : path.contains 0 = true
  · rw [if_pos zero] at found
    cases found
  rw [if_neg zero] at found
  by_cases long : path.length ≥ pathLimit
  · rw [if_pos long] at found
    cases found
  rw [if_neg long] at found
  by_cases blank : path = []
  · rw [if_pos blank] at found
    cases found
  rw [if_neg blank] at found
  have start : (if FilePath.isAbsolute path then (fs.root, []) else fs.start)
      = ((fs.origin path).node, (fs.origin path).above) := by
    unfold origin Place.origin
    split <;> rfl
  simp only [start] at found
  cases reached : walk fs.root linkLimit (fs.origin path).node (fs.origin path).above
      (FilePath.steps path) with
  | error e =>
    rw [reached] at found
    cases found
  | ok other =>
    rw [reached] at found
    cases found
    obtain ⟨used, higher, few, walks⟩ := Walks.of_walk reached
    exact ⟨used, _, few, ⟨blank, walks⟩, rfl⟩

theorem Leads.unique {other : Place} {count : Nat} (leads : fs.Leads path links place)
    (again : fs.Leads path count other) : other = place :=
  (leads.walks.unique again.walks).1

/-- What is in a directory is one name further. A slash at the end of the path of the directory
makes no difference, as one is there in any case. -/
theorem leads_child_iff (filled : path ≠ []) (isName : IsName name) :
    fs.Leads (child path name) links goal ↔
      ∃ place used more, fs.Leads path used place ∧ Walks fs.root place [name] more goal ∧
        used + more = links := by
  have origin : fs.origin (child path name) = fs.origin path := by
    rw [FileSystem.origin, FileSystem.origin, Place.origin, Place.origin,
      FilePath.isAbsolute_child filled]
  constructor
  · intro leads
    have walks := leads.walks
    rw [origin, FilePath.steps_child path isName] at walks
    obtain ⟨place, used, more, first, last, sum⟩ := Walks.append_iff.mp walks
    refine ⟨place, used, more, ⟨filled, ?_⟩, last, sum⟩
    obtain ⟨inner, entry⟩ := last.exists_entry isName
    have slash : Walks fs.root place (if FilePath.endsInSlash path then [FilePath.self] else []) 0
        place := by
      split
      · exact .self (Node.isDirectory_of_entry entry) (.arrived place)
      · exact .arrived place
    exact first.append slash
  · rintro ⟨place, used, more, leads, last, rfl⟩
    refine ⟨List.ne_nil_of_length_pos ?_, ?_⟩
    · exact Nat.zero_lt_of_lt (FilePath.length_lt_child path isName.some)
    · rw [origin, FilePath.steps_child path isName]
      obtain ⟨middle, before, after, first, slash, sum⟩ := Walks.append_iff.mp leads.walks
      -- a slash at the end of the path follows no link and goes nowhere
      obtain ⟨rfl, rfl⟩ : middle = place ∧ after = 0 := by
        split at slash
        · cases slash with
          | self _ further =>
            cases further
            exact ⟨rfl, rfl⟩
          | name own => exact absurd rfl own
          | link own => exact absurd rfl own
        · cases slash
          exact ⟨rfl, rfl⟩
      rw [← sum, Nat.add_zero]
      exact first.append last

/-- What is deeper in a directory is a way of names further. -/
theorem leads_descend_iff (filled : path ≠ []) (legal : ∀ name ∈ way, IsName name) :
    fs.Leads (descend path way) links goal ↔
      ∃ place used more, fs.Leads path used place ∧ Walks fs.root place way more goal ∧
        used + more = links := by
  induction way generalizing path with
  | nil =>
    constructor
    · exact fun leads => ⟨goal, links, 0, leads, .arrived goal, rfl⟩
    · rintro ⟨place, used, more, leads, walks, rfl⟩
      cases walks
      exact leads
  | cons name way ih =>
    obtain ⟨isName, legal⟩ := List.forall_mem_cons.mp legal
    have longer : child path name ≠ [] :=
      List.ne_nil_of_length_pos
        (Nat.zero_lt_of_lt (FilePath.length_lt_child path isName.some))
    refine Iff.trans (ih longer legal) ?_
    constructor
    · rintro ⟨middle, used, more, leads, further, rfl⟩
      obtain ⟨place, before, after, here, first, rfl⟩ := (leads_child_iff filled isName).mp leads
      exact ⟨place, before, after + more, here, first.append further, (Nat.add_assoc _ _ _).symm⟩
    · rintro ⟨place, used, more, leads, walks, rfl⟩
      obtain ⟨middle, before, after, first, further, rfl⟩ := Walks.cons_iff.mp walks
      refine ⟨middle, used + before, after, ?_, further, Nat.add_assoc _ _ _⟩
      exact (leads_child_iff filled isName).mpr ⟨place, used, before, leads, first, rfl⟩

/-- Nothing in a file system is deeper than its root. -/
theorem within_origin (fs : FileSystem) (path : Bytes) :
    (fs.origin path).Within fs.root.height := by
  refine Place.Within.origin ?_ path
  have start (cwd : List Bytes) (first : Node × List Node)
      (within : Place.Within fs.root.height ⟨first.1, first.2⟩) :
      let place := cwd.foldl (fun place name =>
        ((Node.entry? place.1 name).getD .emptyDirectory, place.1 :: place.2)) first
      Place.Within fs.root.height ⟨place.1, place.2⟩ := by
    induction cwd generalizing first with
    | nil => exact within
    | cons name cwd ih =>
      refine ih _ (within.enter ?_)
      exact Nat.le_trans (Node.height_getD_entry_le first.1 name)
        (within first.1 List.mem_cons_self)
  refine start fs.cwd (fs.root, []) ?_
  intro node among
  exact Nat.le_of_eq (congrArg Node.height (List.mem_singleton.mp among))

end FileSystem

end Fleet
