import Fleet.Host

/-!
# Target lists

The hosts of a run, in order and with duplicates. Positions matter: a host that is listed twice is
contacted twice, and removing the failed entries of a run goes by position and not by name.
-/

namespace Fleet

/-- The hosts of a run. -/
abbrev TargetList := List Host

namespace TargetList

/-- The list without every host that has one of the names. -/
def exclude (targets : TargetList) (names : List String) : TargetList :=
  targets.filter fun host => !names.contains host.hostname

/-- The entries whose flag is set. Entries beyond the flags stay. -/
def retain : TargetList → List Bool → TargetList
  | [], _ => []
  | targets, [] => targets
  | host :: rest, keep :: flags => if keep then host :: retain rest flags else retain rest flags

/-- The names of the hosts. -/
def hostnames (targets : TargetList) : List String := targets.map Host.hostname

end TargetList

end Fleet
