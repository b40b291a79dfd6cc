import Fleet.Error
import Fleet.FilePath

/-!
# File systems

A file system is a tree of files, directories, symbolic links and special files, with a directory
from which relative paths start. `find` follows a path through it, symbolic links included. Two
limits keep that finite on every tree: a path may be only so long, and a lookup may follow only so
many links.
-/

namespace Fleet

/-- What is known about a file or a directory besides its content. -/
structure Metadata where
  /-- Permission bits, and possibly others above them. -/
  mode : Nat
  /-- When the content last changed, in seconds. -/
  mtime : Int := 0
  /-- When the content was last read, in seconds. -/
  atime : Int := 0
  deriving Repr, DecidableEq

/-- A file system object. -/
inductive Node where
  /-- A regular file. -/
  | file (about : Metadata) (data : Bytes)
  /-- A directory with named objects, in no order that means anything. -/
  | directory (about : Metadata) (entries : List (Bytes × Node))
  /-- A symbolic link. -/
  | link (target : Bytes)
  /-- A pipe, a device and the like. -/
  | special
  deriving Repr

namespace Node

/-- The object of a name in a directory. -/
def entry? (node : Node) (name : Bytes) : Option Node :=
  match node with
  | directory _ entries => (entries.find? fun entry => entry.1 == name).map Prod.snd
  | _ => none

/-- The names in a directory. No object has an empty name. -/
def names : Node → List Bytes
  | directory _ entries => (entries.map Prod.fst).filter (· ≠ [])
  | _ => []

/-- Whether a node is a directory. -/
def isDirectory : Node → Bool
  | directory _ _ => true
  | _ => false

/-- A directory without anything in it. -/
def emptyDirectory : Node := directory { mode := 0o755 } []

/-- Puts an object under a name into a list of entries. -/
def putEntry (name : Bytes) (node : Node) : List (Bytes × Node) → List (Bytes × Node)
  | [] => [(name, node)]
  | entry :: rest =>
    if entry.1 = name then (name, node) :: rest else entry :: putEntry name node rest

/-- What becomes of an object when another is put in its place: a directory that is put where one is
already keeps what is in it. -/
def replaceBy (old : Option Node) (new : Node) : Node :=
  match old, new with
  | some (directory _ entries), directory about [] => directory about entries
  | _, _ => new

/-- Puts an object at a path below a directory. Directories on the way are made where they are
missing. -/
def insert (node : Node) : List Bytes → Node → Node
  | [], new => replaceBy (some node) new
  | name :: rest, new =>
    match node with
    | directory about entries =>
      let old := (entries.find? fun entry => entry.1 == name).map Prod.snd
      directory about <| putEntry name
        (match rest with
          | [] => replaceBy old new
          | _ => insert (old.getD emptyDirectory) rest new) entries
    | other => other

/-- Changes what is known about the file or directory at a path. -/
def setAbout (node : Node) (about : Metadata) : List Bytes → Node
  | [] =>
    match node with
    | file _ data => file about data
    | directory _ entries => directory about entries
    | other => other
  | name :: rest =>
    match node with
    | directory own entries =>
      match (entries.find? fun entry => entry.1 == name).map Prod.snd with
      | some old => directory own (putEntry name (setAbout old about rest) entries)
      | none => node
    | other => other

end Node

/-- A tree with a place in it from which relative paths start. -/
structure FileSystem where
  /-- The topmost directory. -/
  root : Node
  /-- The names on the way to the directory where relative paths start. -/
  cwd : List Bytes := []
  deriving Repr

namespace FileSystem

/-- A path must be shorter than this. -/
def pathLimit : Nat := 4096

/-- A name must not be longer than this. -/
def nameLimit : Nat := 255

/-- A lookup follows at most this many symbolic links. -/
def linkLimit : Nat := 40

/-- Takes the steps of a path from a directory, with the directories above it at hand. So many more
links may be followed. -/
def walk (root : Node) (links : Nat) (here : Node) (above : List Node) :
    List Bytes → Except SystemError Node
  | [] => .ok here
  | step :: rest =>
    if !here.isDirectory then .error .notDirectory
    else if step = FilePath.self then walk root links here above rest
    else if step = FilePath.parent then
      match above with
      | [] => walk root links here [] rest
      | up :: higher => walk root links up higher rest
    else if step.length > nameLimit then .error .nameTooLong
    else match here.entry? step with
      | none => .error .notFound
      | some (.link target) =>
        match links with
        | 0 => .error .tooManyLinks
        | links + 1 =>
          if FilePath.isAbsolute target then
            walk root links root [] (FilePath.steps target ++ rest)
          else walk root links here above (FilePath.steps target ++ rest)
      | some node => walk root links node (here :: above) rest
termination_by steps => (links, steps.length)

/-- A name leads to what the directory has under it. -/
theorem walk_name {root here node : Node} {links : Nat} {above : List Node} {name : Bytes}
    (inside : here.isDirectory = true) (own : name ≠ FilePath.self) (down : name ≠ FilePath.parent)
    (short : name.length ≤ nameLimit) (entry : here.entry? name = some node)
    (direct : ∀ target, node ≠ .link target) (rest : List Bytes) :
    walk root links here above (name :: rest) = walk root links node (here :: above) rest := by
  rw [walk.eq_def]
  simp only [inside, if_neg own, if_neg down, if_neg (Nat.not_lt_of_ge short), entry]
  cases node with
  | link target => exact absurd rfl (direct target)
  | _ => rfl

/-- The directory where relative paths start, and those above it. -/
def start (fs : FileSystem) : Node × List Node :=
  fs.cwd.foldl (fun (here, above) name =>
    ((here.entry? name).getD .emptyDirectory, here :: above)) (fs.root, [])

/-- What a path leads to, links followed. -/
def find (fs : FileSystem) (path : Bytes) : Except IoError Node :=
  if path.contains 0 then .error .zeroInName
  else if path.length ≥ pathLimit then .error (.system .nameTooLong)
  else if path = [] then .error (.system .notFound)
  else
    let (here, above) := if FilePath.isAbsolute path then (fs.root, []) else fs.start
    match walk fs.root linkLimit here above (FilePath.steps path) with
    | .ok node => .ok node
    | .error e => .error (.system e)

/-- A path that leads somewhere is shorter than the limit. -/
theorem length_lt_of_find {fs : FileSystem} {path : Bytes} {node : Node}
    (h : fs.find path = .ok node) : path.length < pathLimit := by
  unfold find at h
  split at h
  · cases h
  · split at h
    · cases h
    · omega

theorem find_relative {fs : FileSystem} {path : Bytes} {node : Node}
    (legal : path.contains 0 = false) (short : path.length < pathLimit) (some : path ≠ [])
    (relative : FilePath.isAbsolute path = false)
    (reached : walk fs.root linkLimit fs.start.1 fs.start.2 (FilePath.steps path) = .ok node) :
    fs.find path = .ok node := by
  unfold find
  simp only [legal, if_neg (Nat.not_le_of_gt short), if_neg some, relative, Bool.false_eq_true,
    if_false, reached]

/-- The content of a file. -/
def read (fs : FileSystem) (path : Bytes) : Except IoError Bytes :=
  match fs.find path with
  | .error e => .error e
  | .ok (.file _ data) => .ok data
  | .ok (.directory _ _) => .error (.system .isDirectory)
  | .ok _ => .ok []

/-- The names on the way from the root to a path, which is taken as it stands, without links. -/
def address (fs : FileSystem) (path : Bytes) : List Bytes :=
  let steps := (FilePath.steps path).filter (· ≠ FilePath.self)
  if FilePath.isAbsolute path then steps else fs.cwd ++ steps

/-- The file system with an object put at a path. Directories on the way are made where they are
missing. -/
def place (fs : FileSystem) (path : Bytes) (node : Node) : FileSystem :=
  { fs with root := fs.root.insert (fs.address path) node }

/-- The file system with a file or directory known to be as another is said to be. -/
def adjust (fs : FileSystem) (path : Bytes) (like : Node) : FileSystem :=
  match like with
  | .file about _ | .directory about _ =>
    { fs with root := fs.root.setAbout about (fs.address path) }
  | _ => fs

/-- The file system after a file was written. -/
def write (fs : FileSystem) (path data : Bytes) : FileSystem :=
  fs.place path (.file { mode := 0o644 } data)

/-- Whether the directory that a path leads into is there. -/
def hasParent (fs : FileSystem) (path : Bytes) : Bool :=
  let up := (fs.address path).dropLast.foldl
    (fun here name => here.bind fun node => node.entry? name) (some fs.root)
  up.any Node.isDirectory

/-- The file system after the content of a file was replaced. What else is known about the file
stays; a file that is not there is made. -/
def replaceContent (fs : FileSystem) (path data : Bytes) : FileSystem :=
  match fs.find path with
  | .ok (.file about _) => fs.place path (.file about data)
  | _ => fs.write path data

/-- A file system with an empty directory where relative paths start, and with the device that is
always empty. -/
def scratch : FileSystem :=
  let fs : FileSystem := ⟨.emptyDirectory, ["tmp", "scratch"].map Utf8.encode⟩
  (fs.place [46] .emptyDirectory).place (Utf8.encode "/dev/null") .special

end FileSystem

end Fleet
