import Fleet.CommandLine.Run

/-!
# The program

Reads the files that the command line names, follows it, and writes what came of that. Clients are
not started for real: they run in a workplace, so a call of the program is a rehearsal.
-/

namespace Fleet

namespace Main

/-- The files that a command line names: the list of hosts, and what is to be copied. -/
def named (config : Config) (action : Action) : List String :=
  config.hostsFile.toList ++ match action with
    | .exec _ => []
    | .copy spec => spec.sources.map Utf8.lossy

/-- Takes a file into a file system, if it is there. -/
def load (fs : FileSystem) (name : String) : IO FileSystem := do
  try
    let data ← IO.FS.readBinFile name
    return fs.write (Utf8.encode name) data.toList
  catch _ => return fs

/-- The files of a command line. -/
def files (words : List String) : IO FileSystem :=
  match CommandLine.read words with
  | .error _ => pure .scratch
  | .ok (config, action) => (named config action).foldlM load .scratch

/-- The variables that say who we are. -/
def environment : IO Environment :=
  ["USER", "LOGNAME"].filterMapM fun name => do
    return (← IO.getEnv name).map fun value => (name, value)

/-- Writes a line where it belongs. -/
def write (line : Stream × String) : IO Unit := do
  match line.1 with
  | .out => (← IO.getStdout).putStr line.2
  | .err => (← IO.getStderr).putStr line.2

/-- What is said of a command line that cannot be followed. -/
def usage : String := "usage: fanout-ssh [options] (exec words... | copy sources... destination)\n"

/-- Follows a command line. -/
def run (words : List String) : IO UInt32 := do
  let user := Environment.localUser (← environment)
  let fs ← files words
  match CommandLine.run words fs user with
  | .ok report =>
    report.lines.forM write
    return report.code.toUInt32
  | .error .help =>
    write (.out, usage)
    return 0
  | .error _ =>
    write (.err, usage)
    return CommandLine.usageCode.toUInt32

end Main

end Fleet

/-- The program. -/
def main (words : List String) : IO UInt32 := Fleet.Main.run words
