import Fleet.Record

/-!
# The watchdog

Hosts may be given a time limit for connecting and one for executing. The watchdog looks at all
records from time to time and asks those to abort that have overstayed; it changes nothing else.
Limits are exclusive: a host that has used exactly its time is not late.

The first look comes a little after the connect limit, for nothing that is connecting can be late
before it, and at that very moment nothing is late yet. Later looks follow at a fixed distance.

A look reads the clock once, when it begins. It takes the records one after another, and for each
that is late there are two moments: it is found late, and then its host is asked to abort. What the
host does in between goes unseen. `Timeouts.scan` is a look with nothing in between. Reading the
phase of one record and when it began is a single moment.
-/

namespace Fleet

/-- The time limits of a run. Zero means no limit. -/
structure Timeouts where
  connect : Time
  /-- For executing. -/
  command : Time
  deriving Repr, DecidableEq

namespace Timeouts

/-- Whether there is no limit at all. -/
def isDisabled (limits : Timeouts) : Bool :=
  limits.connect == 0 && limits.command == 0

/-- Whether a host has overstayed in its phase. -/
def expired (limits : Timeouts) (record : Record) (now : Time) : Bool :=
  match record.phase with
  | .connecting =>
    limits.connect != 0 && record.startedAt.any fun start => limits.connect < now - start
  | .executing =>
    limits.command != 0 && record.connectedAt.any fun start => limits.command < now - start
  | _ => false

/-- Whether a look at the record asks it to abort: it is late and has not been asked yet. -/
def catches (limits : Timeouts) (record : Record) (now : Time) : Bool :=
  !record.aborted && limits.expired record now

/-- The record after a look at it. -/
def inspect (limits : Timeouts) (now : Time) (record : Record) : Record :=
  if limits.catches record now then record.abort else record

/-- A look at all records: how many were asked to abort, and the records afterwards. -/
def scan (limits : Timeouts) (records : List Record) (now : Time) : Nat × List Record :=
  (records.countP fun record => limits.catches record now, records.map (limits.inspect now))

end Timeouts

namespace Watchdog

/-- The distance between two looks. -/
def interval : Time := 2 * Time.second

/-- How long after the connect limit the first look comes. -/
def slack : Time := 50 * Time.millisecond

/-- How long the watchdog waits before its first look. -/
def firstDelay (limits : Timeouts) : Time :=
  if limits.connect = 0 then interval else limits.connect + slack

end Watchdog

/-- What the watchdog is doing. -/
inductive Watchdog where
  /-- There is nothing to watch for. -/
  | off
  /-- Waiting for its next look. -/
  | asleep (wake : Time)
  /-- In the middle of a look that began at a moment, with the record to look at next. -/
  | scanning (began : Time) (next : Nat)
  /-- In the middle of a look, about to ask the host to abort whose record was late. -/
  | firing (began : Time) (next : Nat)
  deriving Repr, DecidableEq

/-- The watchdog of a run that begins now. -/
def Watchdog.start (limits : Timeouts) (now : Time) : Watchdog :=
  if limits.isDisabled then .off else .asleep (now + Watchdog.firstDelay limits)

end Fleet
