import Fleet.Watchdog

/-!
# Records under watch

Records, the time, and any number of watchdogs over them. As time passes the watchdogs take their
looks, each at its moment.
-/

namespace Fleet

/-- A watchdog with its limits and the moment of its next look. -/
structure Sentry where
  limits : Timeouts
  /-- When it looks next. -/
  wake : Time
  deriving Repr, DecidableEq

/-- Records under watch. -/
structure Vigil where
  now : Time := 0
  records : List Record
  /-- The watchdogs. -/
  sentries : List Sentry := []
  deriving Repr, DecidableEq

namespace Vigil

/-- Sets up a watchdog, if there is anything to watch for. Says whether it did. -/
def post (vigil : Vigil) (limits : Timeouts) : Bool × Vigil :=
  if limits.isDisabled then (false, vigil)
  else (true, { vigil with
    sentries := vigil.sentries ++ [⟨limits, vigil.now + Watchdog.firstDelay limits⟩] })

/-- Looks at all records at once. Says how many were asked to abort. -/
def scan (vigil : Vigil) (limits : Timeouts) : Nat × Vigil :=
  let (count, records) := limits.scan vigil.records vigil.now
  (count, { vigil with records })

/-- The looks that are due now. -/
def look (vigil : Vigil) : Vigil :=
  let due := vigil.sentries.filter fun sentry => sentry.wake ≤ vigil.now
  { vigil with
    records := due.foldl (fun records sentry => (sentry.limits.scan records vigil.now).2)
      vigil.records
    sentries := vigil.sentries.map fun sentry =>
      if sentry.wake ≤ vigil.now then { sentry with wake := vigil.now + Watchdog.interval }
      else sentry }

/-- Lets time pass up to a moment, with so many stops at most at which watchdogs look. -/
def passTo (moment : Time) : Nat → Vigil → Vigil
  | 0, vigil => { vigil with now := max vigil.now moment }
  | stops + 1, vigil =>
    match (vigil.sentries.map Sentry.wake).min? with
    | some wake =>
      if wake ≤ moment then passTo moment stops { vigil with now := max vigil.now wake }.look
      else { vigil with now := max vigil.now moment }
    | none => { vigil with now := max vigil.now moment }

/-- Lets time pass. Each watchdog looks once at most in each interval. -/
def pass (vigil : Vigil) (span : Time) : Vigil :=
  passTo (vigil.now + span) (vigil.sentries.length * (span / Watchdog.interval + 2)) vigil

/-- Changes the record of a host. -/
def modify (vigil : Vigil) (i : Nat) (f : Record → Record) : Vigil :=
  { vigil with records := vigil.records.modify i f }

end Vigil

end Fleet
