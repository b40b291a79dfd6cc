import Fleet.CommandLine.Config
import Fleet.HostsFile

/-!
# The targets of a command line

The hosts come from the hosts file, if one is named, and from the lists of hosts.
-/

namespace Fleet

namespace Config

/-- The targets, with the hosts file read from a file system. -/
def resolveTargets (config : Config) (fs : FileSystem) : Except DispatchError TargetList := do
  let fromFile ← match config.hostsFile with
    | some path => HostsFile.load fs path
    | none => .ok []
  config.targets fromFile

end Config

end Fleet
