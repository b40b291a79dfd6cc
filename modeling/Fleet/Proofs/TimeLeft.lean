import Fleet.Proofs.Patience
import Fleet.Proofs.Timeline

/-!
# The time that is left

A report says how much time a host has left, and the watchdog decides whether it is late. The two
are worked out apart: one subtracts from the limit and stops at zero, the other compares with it.
At the very deadline the report says zero and the host is not late yet; an instant later it is.

Both look at the limit on the phase and at the time since which the host has been in it
(`Timeouts.on`, `Record.since`); `remaining_eq` and `expired_iff_since` say how. That time is the
moment at which the phase was entered, and it stays as long as the phase does (`since_after`).

**The law** (`Record.time_left`): the time left is the time after which the host is late.
-/

namespace Fleet

/-- The limit on a phase; zero where there is none. -/
def Timeouts.on (limits : Timeouts) : Phase → Time
  | .connecting => limits.connect
  | .executing => limits.command
  | _ => 0

/-- There is a limit on the phases only in which a worker is busy. -/
theorem Timeouts.on_of_idle (limits : Timeouts) {p : Phase} (idle : p.isActive = false) :
    limits.on p = 0 := by
  cases p with
  | connecting | executing => cases idle
  | new | done | failed => rfl

namespace Interrupt

variable {record : Record} {limits : Timeouts} {now : Time}

theorem statusLine_untold
    (untold : record.remaining now limits.connect limits.command = none) :
    statusLine limits now true record = record.hostname ++ ": " ++ record.phase.name := by
  simp only [statusLine, untold]

theorem statusLine_told {span : Time}
    (told : record.remaining now limits.connect limits.command = some span) :
    statusLine limits now true record = record.hostname ++ ": " ++ record.phase.name
      ++ " (" ++ toString (span / Time.second) ++ "s left)" := by
  simp only [statusLine, told]

end Interrupt

namespace Record

variable {record : Record} {limits : Timeouts}

theorem remaining_eq (record : Record) (limits : Timeouts) (now : Time) :
    record.remaining now limits.connect limits.command
      = if limits.on record.phase = 0 then none
        else record.since.map fun start => limits.on record.phase - (now - start) := by
  unfold remaining since Timeouts.on
  cases record.phase with
  | connecting => cases record.startedAt <;> simp
  | executing => cases record.connectedAt <;> simp
  | new | done | failed => rfl

theorem expired_iff_since (time : Time) :
    limits.expired record time = true ↔ limits.on record.phase ≠ 0 ∧
      ∃ start, record.since = some start ∧ start + limits.on record.phase < time := by
  rw [Timeouts.expired_iff]
  unfold Timeouts.Overdue since Timeouts.on
  cases record.phase <;> simp

/-- The noted time of an active phase is the moment at which it was entered. -/
theorem Lived.since_eq_some_iff {path : List (Time × Phase)} (lived : Lived path record.standing)
    (active : record.phase.isActive = true) (moment : Time) :
    record.since = some moment ↔ (moment, record.phase) ∈ path := by
  unfold since
  cases phase : record.phase with
  | connecting => exact lived.startedAt_eq_some_iff moment
  | executing => exact lived.connectedAt_eq_some_iff moment
  | new | done | failed => rw [phase] at active; cases active

/-- A host that is busy has the time noted. -/
theorem Lived.exists_since {path : List (Time × Phase)} (lived : Lived path record.standing)
    (active : record.phase.isActive = true) : ∃ moment, record.since = some moment := by
  rcases lived.mem_path with (new : record.phase = .new) | ⟨moment, entered⟩
  · rw [new] at active
    cases active
  · exact ⟨moment, (lived.since_eq_some_iff active moment).mpr entered⟩

/-- **The time since which a host is in its phase stays as long as the phase does.** -/
theorem Lived.since_after {path : List (Time × Phase)} (lived : Lived path record.standing)
    {moment : Time} (noted : record.since = some moment) {later : List (Time × Call)}
    (stays : (record.after later).phase = record.phase)
    (active : record.phase.isActive = true) : (record.after later).since = some moment := by
  refine ((lived.after later).since_eq_some_iff (stays ▸ active) moment).mpr ?_
  rw [stays]
  exact List.mem_append_left _ ((lived.since_eq_some_iff active moment).mp noted)

/-- Nothing is left to tell exactly where there is no limit. -/
theorem Lived.remaining_eq_none_iff {path : List (Time × Phase)}
    (lived : Lived path record.standing) (now : Time) :
    record.remaining now limits.connect limits.command = none ↔ limits.on record.phase = 0 := by
  rw [remaining_eq]
  split
  · next unlimited => exact iff_of_true rfl unlimited
  · next limited =>
    have active : record.phase.isActive = true :=
      Bool.of_not_eq_false fun idle => limited (limits.on_of_idle idle)
    obtain ⟨moment, noted⟩ := lived.exists_since active
    rw [noted]
    exact iff_of_false (Option.some_ne_none _) limited

/-- From a moment on at which a phase has begun, it lasts beyond its limit after what is left of the
limit; if nothing is left, the moment itself may still be within. -/
private theorem late_iff {start limit now x : Nat} (past : start ≤ now)
    (ahead : 0 < limit - (now - start) ∨ 0 < x) :
    start + limit < now + x ↔ limit - (now - start) < x := by
  omega

private theorem nothing_left {start limit now : Nat} (late : start + limit < now) :
    limit - (now - start) = 0 := by
  omega

/-- **The time left is the time left.**

For a record after any calls, any moment that is not before its host entered its phase, and any
limits: no time is told exactly if the host is in no phase with a limit, and then it is never late
as long as its phase stays. If a span is told, then at any moment from now on, the present one aside
if the span is zero, a host whose phase has stayed is late exactly if the moment is farther away
than the span. So a host that is late has no time left. The report shows the span in whole
seconds. -/
theorem time_left {start : Record} (blank : start.IsBlank) (calls : List (Time × Call))
    (limits : Timeouts) {now : Time}
    (begun : ∀ moment, (moment, (start.after calls).phase) ∈ start.entries calls → moment ≤ now) :
    let record := start.after calls
    let left := record.remaining now limits.connect limits.command
    let line := record.hostname ++ ": " ++ record.phase.name
    (left = none ↔ record.phase.isActive = false ∨ limits.on record.phase = 0) ∧
    (left = none → Interrupt.statusLine limits now true record = line ∧
      ∀ later time, (record.after later).phase = record.phase →
        limits.expired (record.after later) time = false) ∧
    (∀ span, left = some span →
      Interrupt.statusLine limits now true record
        = line ++ " (" ++ toString (span / Time.second) ++ "s left)" ∧
      ∀ later x, (record.after later).phase = record.phase → 0 < span ∨ 0 < x →
        (limits.expired (record.after later) (now + x) = true ↔ span < x)) ∧
    (limits.expired record now = true → left = some 0) := by
  intro record left line
  have lived : Lived (start.entries calls) record.standing := blank.lived calls
  have unlimited : left = none ↔ limits.on record.phase = 0 := lived.remaining_eq_none_iff now
  refine ⟨?_, fun none => ⟨Interrupt.statusLine_untold none, fun later time stays => ?_⟩,
    fun span some => ⟨Interrupt.statusLine_told some, fun later x stays ahead => ?_⟩,
    fun late => ?_⟩
  · rw [unlimited]
    exact ⟨.inr, fun cases => cases.elim limits.on_of_idle id⟩
  · refine Bool.eq_false_iff.mpr fun late => ?_
    obtain ⟨limited, -⟩ := (expired_iff_since time).mp late
    exact limited (stays ▸ unlimited.mp none)
  · have limited : limits.on record.phase ≠ 0 := fun free => by
      cases (unlimited.mpr free).symm.trans some
    have active : record.phase.isActive = true :=
      Bool.of_not_eq_false fun idle => limited (limits.on_of_idle idle)
    obtain ⟨since, noted⟩ := lived.exists_since active
    have past : since ≤ now := begun since ((lived.since_eq_some_iff active since).mp noted)
    have told : limits.on record.phase - (now - since) = span := by
      have left_eq := (remaining_eq record limits now).symm.trans some
      rw [if_neg limited, noted] at left_eq
      exact Option.some.inj left_eq
    subst told
    rw [expired_iff_since, stays, lived.since_after noted stays active]
    simp only [Option.some.injEq, exists_eq_left', limited, ne_eq, not_false_eq_true, true_and]
    exact late_iff past ahead
  · obtain ⟨limited, since, noted, late⟩ := (expired_iff_since now).mp late
    show record.remaining now limits.connect limits.command = some 0
    rw [remaining_eq, if_neg limited, noted, Option.map_some, nothing_left late]

/-- Of ten seconds to connect, three are gone: the host is not late after seven more, and late an
instant after. -/
theorem time_left_sevenSeconds :
    ∃ start : Record, start.IsBlank ∧
      let record := start.after [(0, .advance .connecting)]
      let limits : Timeouts := ⟨10 * Time.second, 0⟩
      let now := 3 * Time.second
      (∀ moment, (moment, record.phase) ∈ start.entries [(0, .advance .connecting)] →
        moment ≤ now) ∧
      record.remaining now limits.connect limits.command = some (7 * Time.second) ∧
      Interrupt.statusLine limits now true record = "a: connecting (7s left)" ∧
      ∀ later, (record.after later).phase = .connecting →
        limits.expired (record.after later) (now + 7 * Time.second) = false ∧
        limits.expired (record.after later) (now + (7 * Time.second + 1)) = true := by
  have blank : IsBlank
      { host := { hostname := "a" }, localUser := "u", remoteUser := "u", kind := .exec,
        nodeIndex := 0 } :=
    ⟨rfl, rfl, rfl, rfl, rfl, rfl, rfl, rfl⟩
  have begun : ∀ moment, (moment, Phase.connecting) ∈ ([(0, .connecting)] : List (Time × Phase)) →
      moment ≤ 3 * Time.second := by
    intro moment entered
    obtain rfl : moment = 0 := by simpa using entered
    exact Nat.zero_le _
  obtain ⟨-, -, told, -⟩ :=
    time_left blank [(0, .advance .connecting)] ⟨10 * Time.second, 0⟩ begun
  obtain ⟨line, late⟩ := told (7 * Time.second) (by decide)
  refine ⟨_, blank, begun, by decide, line.trans (by decide), fun later stays => ⟨?_, ?_⟩⟩
  · exact Bool.eq_false_iff.mpr fun already =>
      Nat.lt_irrefl _ ((late later _ stays (.inl (by decide))).mp already)
  · exact (late later _ stays (.inl (by decide))).mpr (Nat.lt_succ_self _)

end Record

end Fleet
