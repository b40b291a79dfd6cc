import Fleet.Utf8

/-!
# Paths

A path is a byte string in which slashes separate names. Repeated slashes are one, and one at the
end asks for a directory.
-/

namespace Fleet

namespace FilePath

/-- The byte between the names of a path. -/
def slash : UInt8 := 47

/-- The name of the directory itself. -/
def self : Bytes := [46]

/-- The name of the directory above. -/
def parent : Bytes := [46, 46]

/-- The pieces between slashes. -/
def piecesOf : Bytes → List Bytes
  | [] => [[]]
  | b :: rest =>
    if b = slash then [] :: piecesOf rest
    else match piecesOf rest with
      | [] => [[b]]
      | piece :: pieces => (b :: piece) :: pieces

/-- Whether a path starts at the root. -/
def isAbsolute (path : Bytes) : Bool := path.head? == some slash

/-- Whether a path ends in a slash. -/
def endsInSlash (path : Bytes) : Bool := path.getLast? == some slash

/-- The steps that a path takes from where it starts: its names, and a step to the directory itself
for a slash at the end. -/
def steps (path : Bytes) : List Bytes :=
  (piecesOf path).filter (· ≠ []) ++ if endsInSlash path then [self] else []

/-- The name at the end of a path; none where it ends in the directory above, or has no name. -/
def fileName? (path : Bytes) : Option Bytes :=
  match ((piecesOf path).filter fun piece => piece ≠ [] ∧ piece ≠ self).getLast? with
  | some name => if name = parent then none else some name
  | none => none

/-- A name that something in a directory can have. -/
structure IsName (name : Bytes) : Prop where
  some : name ≠ []
  free : slash ∉ name
  zero : 0 ∉ name
  self : name ≠ self
  parent : name ≠ parent

instance (name : Bytes) : Decidable (IsName name) :=
  decidable_of_iff (name ≠ [] ∧ slash ∉ name ∧ 0 ∉ name ∧ name ≠ self ∧ name ≠ parent)
    ⟨fun ⟨filled, free, zero, self, parent⟩ => ⟨filled, free, zero, self, parent⟩,
      fun ⟨filled, free, zero, self, parent⟩ => ⟨filled, free, zero, self, parent⟩⟩

/-- The path of something inside a directory. -/
def child (path name : Bytes) : Bytes :=
  if endsInSlash path then path ++ name else path ++ slash :: name

theorem length_lt_child (path : Bytes) {name : Bytes} (h : name ≠ []) :
    path.length < (child path name).length := by
  have := List.length_pos_iff.mpr h
  unfold child
  split <;> simp only [List.length_append, List.length_cons] <;> omega

/-- Whether one name comes before another: byte by byte. -/
def nameLe : Bytes → Bytes → Bool
  | [], _ => true
  | _ :: _, [] => false
  | a :: as, b :: bs => a < b || (a == b && nameLe as bs)

end FilePath

end Fleet
