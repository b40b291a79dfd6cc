import Fleet.Blank

/-!
# Hosts

A host is a name to connect to, with an optional user of its own. `parse` reads the form
`user@host`, `display` writes it; the split is at the last `@`, so a user name may hold one and a
host name may not, and a text whose user part would be empty is a host name as it stands.
-/

namespace Fleet

/-- A host to talk to. -/
structure Host where
  /-- The name or address to connect to. -/
  hostname : String
  /-- The user to be on that host, where it differs from the rest. -/
  user : Option String := none
  deriving Repr, DecidableEq

/-- Splits a list at its last member equal to `sep`: what is before, and what is after. -/
def splitLast (sep : Char) : List Char → Option (List Char × List Char)
  | [] => none
  | c :: rest =>
    match splitLast sep rest with
    | some (before, after) => some (c :: before, after)
    | none => if c = sep then some ([], rest) else none

namespace Host

/-- Reads `host` or `user@host`. -/
def parse (spec : String) : Host :=
  match splitLast '@' spec.toList with
  | some (c :: user, hostname) => ⟨String.ofList hostname, some (String.ofList (c :: user))⟩
  | _ => ⟨spec, none⟩

/-- Writes `host` or `user@host`. -/
def display (host : Host) : String :=
  match host.user with
  | some user => user ++ "@" ++ host.hostname
  | none => host.hostname

/-- Whether a name consists of digits and dots alone, as a numeric address does. -/
def isNumeric (name : String) : Bool :=
  name.toList.all fun c => c.isDigit || c == '.'

/-- The name that stands in front of a host's output: up to the first dot, and whole for a numeric
address. -/
def label (host : Host) : String :=
  if isNumeric host.hostname then host.hostname
  else String.ofList (host.hostname.toList.takeWhile (· != '.'))

end Host

/-- Splits a list at every member equal to `sep`. The pieces are one more than the separators. -/
def splitAll (sep : Char) : List Char → List (List Char)
  | [] => [[]]
  | c :: rest =>
    if c = sep then [] :: splitAll sep rest
    else match splitAll sep rest with
      | [] => [[c]]
      | piece :: pieces => (c :: piece) :: pieces

/-- Reads a comma-separated list of hosts. Blanks around an item do not count, and neither do items
that are empty without them. -/
def parseHostList (list : String) : List Host :=
  ((splitAll ',' list.toList).map (dropEndBlanks ∘ dropBlanks)).filter (· ≠ [])
    |>.map (Host.parse ∘ String.ofList)

end Fleet
