import Fleet.Record

/-!
# What comes of a run

A run that was not cut short has a report for each host, in the order of the targets, and an exit
code for all of them: zero, unless the exit codes of the commands are wanted; then the largest one,
or a code of its own if any host failed.
-/

namespace Fleet

/-- What came of one host. -/
structure HostReport where
  /-- The name of the host. -/
  hostname : String
  /-- The phase it ended in. -/
  phase : Phase
  /-- The exit code of its command, where one is known. -/
  exitCode : Option Int32
  /-- Why it failed. -/
  failure : Option String
  deriving Repr, DecidableEq

/-- What is reported of a host. -/
def Record.report (record : Record) : HostReport :=
  ⟨record.hostname, record.phase, record.exitCode, record.failure⟩

/-- What came of a run. -/
structure Outcome where
  exitCode : Int32
  /-- What came of each host, in order. -/
  hosts : List HostReport
  /-- The most slots that were ever taken at once. -/
  peak : Nat
  deriving Repr, DecidableEq

namespace Outcome

/-- The hosts that failed. -/
def failed (outcome : Outcome) : List HostReport :=
  outcome.hosts.filter fun host => host.phase == .failed

/-- The exit code of a run in which a host failed. -/
def failedHostCode : Int32 := 254

/-- The exit code for all hosts. -/
def aggregate (records : List Record) (maxStatus : Bool) : Int32 :=
  if !maxStatus then 0
  else if records.any fun record => record.phase == .failed then failedHostCode
  else match records.filterMap Record.exitCode with
    | [] => 0
    | code :: codes => codes.foldl max code

/-- What came of a run with these records. -/
def ofRecords (records : List Record) (maxStatus : Bool) (peak : Nat) : Outcome :=
  ⟨aggregate records maxStatus, records.map Record.report, peak⟩

/-- For each record, whether its host is worth another try. -/
def keepFlags (records : List Record) : List Bool :=
  records.map fun record => record.phase != .failed

end Outcome

end Fleet
