import Fleet.FileSystem
import Fleet.Host
import Fleet.Yaml.Value

/-!
# Hosts files

A hosts file is one YAML document with a sequence of hosts. A host is a text as on the command line,
or a mapping with a hostname and perhaps a user, which are taken as they stand.
-/

namespace Fleet

namespace HostsFile

/-- The fields of a host. -/
inductive Field where
  | hostname
  | user
  /-- One that does not matter. -/
  | other
  deriving Repr, DecidableEq

/-- The field of a key: by name, or by place. -/
def field? : Yaml.Value → Option Field
  | .text "hostname" | .index 0 => some .hostname
  | .text "user" | .index 1 => some .user
  | .text _ | .index _ => some .other
  | _ => none

/-- What is known of a host so far. -/
structure Entry where
  hostname : Option String := none
  /-- The user, where one is mentioned; it may be mentioned as none. -/
  user : Option (Option String) := none
  deriving Repr, DecidableEq

/-- Takes a field of a host. No field may be there twice. -/
def Entry.take? (entry : Entry) (row : Yaml.Value × Yaml.Value) : Option Entry := do
  match ← field? row.1, row.2 with
  | .other, _ => some entry
  | .hostname, .text name =>
    if entry.hostname.isSome then none else some { entry with hostname := some name }
  | .user, .text name =>
    if entry.user.isSome then none else some { entry with user := some (some name) }
  | .user, .null => if entry.user.isSome then none else some { entry with user := some none }
  | _, _ => none

/-- The host of an entry. -/
def host? : Yaml.Value → Option Host
  | .text spec => some (Host.parse spec)
  | .mapping rows => do
    let entry ← rows.foldlM (fun entry row => Entry.take? entry row) {}
    return { hostname := ← entry.hostname, user := entry.user.join }
  | _ => none

def ofText? (text : String) : Option (List Host) :=
  match Yaml.documents? text with
  | some [document] =>
    match Yaml.Value.ofDocument document with
    | some (.sequence items) => items.mapM host?
    | _ => none
  | _ => none

/-- The hosts of a file's bytes. -/
def parse (bytes : Bytes) : Except HostsFileFault (List Host) :=
  match Utf8.decode? bytes with
  | .error _ => .error .content
  | .ok text =>
    match ofText? text with
    | some hosts => .ok hosts
    | none => .error .content

def load (fs : FileSystem) (path : String) : Except DispatchError (List Host) :=
  match fs.read (Utf8.encode path) with
  | .error (.system e) => .error (.hostsFile path (.system e))
  | .error _ => .error (.hostsFile path .content)
  | .ok bytes => (parse bytes).mapError (.hostsFile path)

end HostsFile

end Fleet
