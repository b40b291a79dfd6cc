import Fleet.FileSystem

/-!
# What a system says of paths

Before a copy a file system is asked three things: what a path leads to, whether a file can be
opened, and which names a directory has, in whatever order. A `Disk` answers them, and nothing else
of the file system matters.
-/

namespace Fleet

/-- What a path leads to, links followed. -/
inductive Sight where
  /-- A regular file of so many bytes. -/
  | file (about : Metadata) (length : Nat)
  | directory (about : Metadata)
  /-- Anything else. -/
  | special
  deriving Repr, DecidableEq

/-- What is seen of a file system object. -/
def Node.sight : Node → Sight
  | file about data => .file about data.length
  | directory about _ => .directory about
  | _ => .special

/-- The answers of a system. -/
structure Disk where
  look : Bytes → Except IoError Sight
  /-- Opens a file for reading. -/
  opens : Bytes → Except IoError Unit
  /-- The names in a directory, in no order that means anything. -/
  list : Bytes → Except IoError (List Bytes)
  named : ∀ {path names}, list path = .ok names → ∀ name ∈ names, FilePath.IsName name
  /-- No path that leads somewhere is longer than the system allows. -/
  short : ∀ {path sight}, look path = .ok sight → path.length < FileSystem.pathLimit

/-- A file system whose files can all be opened and whose directories can all be listed. -/
def FileSystem.disk (fs : FileSystem) : Disk where
  look path := (fs.find path).map Node.sight
  opens path := (fs.find path).map fun _ => ()
  list path := (fs.find path).map fun node => node.names.filter (FilePath.IsName ·)
  named := by
    intro path names listed name among
    cases found : fs.find path with
    | error e => rw [found] at listed; cases listed
    | ok node =>
      rw [found] at listed
      cases listed
      exact of_decide_eq_true (List.mem_filter.mp among).2
  short := by
    intro path sight seen
    cases found : fs.find path with
    | error e => rw [found] at seen; cases seen
    | ok node => exact FileSystem.length_lt_of_find found

end Fleet
