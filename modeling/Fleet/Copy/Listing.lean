import Fleet.Disk
import Fleet.ShellWords

/-!
# What is copied

A copy names sources and a destination. Before any host is contacted the sources are expanded into
one flat list: a file is one entry, a directory is an entry, the listings of what is in it in the
order of the names, and an entry that leaves it again. Anything that is neither, or cannot be
looked at, is a fault of the whole run.
-/

namespace Fleet

/-- What is to be copied, and how. -/
structure CopySpec where
  /-- The paths of the sources. -/
  sources : List Bytes
  /-- Where to put them on the other side. -/
  destination : String
  /-- Whether times are sent along. -/
  preserve : Bool := false
  /-- Whether directories are copied. -/
  recursive : Bool := false
  deriving Repr, DecidableEq

/-- The command that starts the receiving side. -/
def CopySpec.sinkCommand (spec : CopySpec) : String :=
  "scp" ++ (if spec.recursive then " -r" else "") ++ (if spec.preserve then " -p" else "")
    ++ " -t " ++ shellQuote spec.destination

/-- What an entry of the list stands for. -/
inductive EntryKind where
  | file (length : Nat)
  /-- A directory that is entered. -/
  | directory
  /-- A directory that is left. -/
  | leave
  deriving Repr, DecidableEq

/-- One entry of the list. -/
structure CopyEntry where
  /-- Where the file or directory is. -/
  path : Bytes
  kind : EntryKind
  /-- Its mode bits. -/
  mode : Nat
  /-- When its content last changed. -/
  mtime : Int
  /-- When its content was last read. -/
  atime : Int
  deriving Repr, DecidableEq

namespace CopyEntry

/-- The name under which the entry is stored on the other side. -/
def name (entry : CopyEntry) : String :=
  match FilePath.fileName? entry.path with
  | some name => Utf8.lossy name
  | none => ""

/-- The entry of an object at a path. Of the mode, the twelve permission bits count. -/
def ofMetadata (path : Bytes) (kind : EntryKind) (about : Metadata) : CopyEntry :=
  ⟨path, kind, about.mode % 0o10000, about.mtime, about.atime⟩

end CopyEntry

namespace CopySpec

def refuse (path : Bytes) (fault : SourceFault) : DispatchError :=
  .enumeration (Utf8.lossy path) fault

end CopySpec

namespace Disk

open CopySpec (refuse)

/-- The names in a directory, in order. -/
def inOrder (names : List Bytes) : List Bytes := names.mergeSort FilePath.nameLe

/-- Something that can be copied. -/
inductive Copied where
  | file (about : Metadata) (length : Nat)
  | directory (about : Metadata) (names : List Bytes)
  deriving Repr, DecidableEq

/-- Whether what a path leads to can be copied. -/
def examine (disk : Disk) (recursive : Bool) (path : Bytes) : Except SourceFault Copied :=
  match disk.look path with
  | .error e => .error (.io e)
  | .ok sight =>
    if FilePath.fileName? path = none then .error .noFileName
    else match sight with
      | .file about length =>
        match disk.opens path with
        | .error e => .error (.io e)
        | .ok () => .ok (.file about length)
      | .directory about =>
        if !recursive then .error .directory
        else match disk.list path with
          | .error e => .error (.io e)
          | .ok names => .ok (.directory about (inOrder names))
      | .special => .error .special

/-- What is in a directory has a longer path, and its own path is not too long. -/
theorem length_lt_of_examine {disk : Disk} {recursive : Bool} {path name : Bytes}
    {about : Metadata} {names : List Bytes}
    (found : disk.examine recursive path = .ok (.directory about names)) (among : name ∈ names) :
    path.length < FileSystem.pathLimit ∧ path.length < (FilePath.child path name).length := by
  unfold examine at found
  split at found
  · cases found
  · next sight seen =>
    refine ⟨disk.short seen, FilePath.length_lt_child path ?_⟩
    repeat' split at found
    all_goals cases found
    next listed answer => exact (disk.named answer name (List.mem_mergeSort.mp among)).some

/-- The listing of what a path leads to. -/
def visit (disk : Disk) (recursive : Bool) (path : Bytes) :
    Except DispatchError (List CopyEntry) :=
  match _ : disk.examine recursive path with
  | .error fault => .error (refuse path fault)
  | .ok (.file about length) => .ok [.ofMetadata path (.file length) about]
  | .ok (.directory about names) => do
    let inside ← names.attach.mapM fun ⟨name, _⟩ =>
      visit disk recursive (FilePath.child path name)
    return .ofMetadata path .directory about :: (inside.flatten ++ [.ofMetadata path .leave about])
termination_by FileSystem.pathLimit - path.length
decreasing_by
  have := length_lt_of_examine ‹_› ‹name ∈ names›
  omega

/-- Visiting a path, without the evidence that its recursion needs. -/
theorem visit_eq (disk : Disk) (recursive : Bool) (path : Bytes) :
    disk.visit recursive path =
      match disk.examine recursive path with
      | .error fault => .error (refuse path fault)
      | .ok (.file about length) => .ok [.ofMetadata path (.file length) about]
      | .ok (.directory about names) => do
        let inside ← names.mapM fun name => disk.visit recursive (FilePath.child path name)
        return .ofMetadata path .directory about ::
          (inside.flatten ++ [.ofMetadata path .leave about]) := by
  have plain (names : List Bytes) :
      (names.attach.mapM fun ⟨name, _⟩ => disk.visit recursive (FilePath.child path name))
        = names.mapM fun name => disk.visit recursive (FilePath.child path name) := by
    rw [List.mapM_subtype fun _ _ => rfl, List.unattach_attach]
  rw [visit]
  split
  · next fault found => simp only [found]
  · next about length found => simp only [found]
  · next about names found => simp only [found, plain]

/-- The listing of all sources. -/
def enumerate (disk : Disk) (spec : CopySpec) : Except DispatchError (List CopyEntry) :=
  (spec.sources.mapM (disk.visit spec.recursive)).map List.flatten

end Disk

/-- What a copy from a file system lists. -/
def CopySpec.enumerate (fs : FileSystem) (spec : CopySpec) :
    Except DispatchError (List CopyEntry) := fs.disk.enumerate spec

end Fleet
