import Fleet.CommandLine.Passes
import Fleet.Workplace

/-!
# Rehearsing a command line

A command line is followed with stand-ins for what lies outside the program: client programs run in
a workplace, and there is no server.
-/

namespace Fleet

/-- Surroundings in which nothing is real. -/
def Surroundings.rehearsed (fs : FileSystem) (user : String) : Surroundings where
  secureShell := .secureShell
  clients copy client := (Workplace.ofCopy fs user copy).backend client

/-- Rehearses a command line. -/
def CommandLine.run (words : List String) (fs : FileSystem) (user : String) :
    Except UsageFault Report :=
  (Surroundings.rehearsed fs user).run words fs user

end Fleet
