import Fleet.Proofs.Watching

/-!
# How late the watchdog may be

A host stays in a phase from one state of a timely run to a later one. If that is longer than its
limit and an interval, then a look came between them at which it was late, provided that there was a
look at all: before the delay of the first look is over nobody is asked to abort.

While hosts are being connected nothing is lost by that, for the delay is as long as their limit and
a little more. But a worker that crashes leaves its record behind, and when the dispatcher is over
nobody looks at it any more (`crashing_overlooked`).

The limit for executing may be shorter than the delay by more than an interval, and then a host that
connects at once is not noticed in time (`silent_overlooked`). For all other limits it is.
-/

namespace Fleet

namespace State

variable {s : State} {limits : Timeouts}

/-- There is a look now or to come. -/
theorem Watched.look (watched : s.Watched limits) (watching : limits.isDisabled = false) :
    ∃ look, s.now ≤ look ∧ s.OnGrid limits look := by
  unfold Watched at watched
  split at watched
  · rw [watching] at watched
    cases watched
  · exact ⟨_, watched⟩
  all_goals
    obtain ⟨same, grid, -⟩ := watched
    exact ⟨_, Nat.le_of_eq same, grid⟩

/-- **After the first look**, one that was not long ago has caught everybody. -/
theorem Watched.caught (watched : s.Watched limits) (watching : limits.isDisabled = false)
    (first : Watchdog.firstDelay limits < s.now) :
    ∃ before, s.now ≤ before + Watchdog.interval ∧
      s.CaughtBelow limits s.lanes.length before := by
  obtain ⟨look, soon, rfl | ⟨before, rfl, -, caught⟩⟩ := watched.look watching
  · exact absurd soon (Nat.not_le_of_lt first)
  · exact ⟨before, soon, caught⟩

end State

namespace Setup

variable {setup : Setup} {s t : State} {later : List Moment}

/-- What a record keeps on its moves, it keeps along a run. -/
theorem Run.record_keeps {R : Record → Prop} {i : Nat} {before after : Lane}
    (run : setup.Run t later s) (orderly : t.Orderly) (there : t.lanes[i]? = some before)
    (found : s.lanes[i]? = some after)
    (moves : ∀ now record record', record.Moves now record' → R record → R record')
    (start : R before.record) : R after.record := by
  refine (run.preserves (P := fun u => u.Orderly ∧
    ∀ lane, u.lanes[i]? = some lane → R lane.record) ⟨orderly, ?_⟩ ?_).2 after found
  · intro lane again
    obtain rfl : before = lane := Option.some.inj (there.symm.trans again)
    exact start
  · rintro u e u' step ⟨orderly, holds⟩
    refine ⟨step.orderly orderly, ?_⟩
    intro lane' found
    obtain ⟨lane, there, moved, -⟩ := step.moves orderly found
    exact moves _ _ _ moved (holds lane there)

end Setup

namespace Dispatch

/-- `dispatch.Stays phase i t s lane`: in a timely run of the dispatch that comes to `t` and later
to `s`, the host `i` is in the phase in both, and its lane in `s` is `lane`. -/
inductive Stays (dispatch : Dispatch) (phase : Phase) (i : Nat) (t s : State) : Lane → Prop where
  | intro {setup : Setup} {s₀ : State} {past later : List Moment} {before after : Lane}
      (starts : dispatch.Starts setup s₀) (first : setup.Run s₀ past t)
      (second : setup.Run t later s) (timely : ∀ moment ∈ past ++ later, moment.IsTimely)
      (there : t.lanes[i]? = some before) (was : before.record.phase = phase)
      (found : s.lanes[i]? = some after) (still : after.record.phase = phase) :
      Stays dispatch phase i t s after

variable {dispatch : Dispatch} {phase : Phase} {i : Nat} {t s : State} {lane : Lane}

/-- Who came before a moment and is late by more than an interval was late at a look less than an
interval ago. -/
private theorem late_at_look {since start limit interval now look : Nat} (past : since ≤ start)
    (late : start + limit + interval < now) (recent : now ≤ look + interval) :
    limit < look - since := by
  omega

private theorem lt_of_late {start limit interval now : Nat}
    (late : start + limit + interval < now) : limit + interval < now := by
  omega

/-- The first look comes before an interval is over on top of a limit that covers its delay. -/
private theorem firstDelay_lt_of_covered {limits : Timeouts} {start limit now : Time}
    (within : limits.connect + Watchdog.slack ≤ limit + Watchdog.interval)
    (late : start + limit + Watchdog.interval < now) :
    Watchdog.firstDelay limits < now := by
  have soon : limit + Watchdog.interval < now := lt_of_late late
  rw [Watchdog.firstDelay]
  split
  · exact Nat.lt_of_le_of_lt (Nat.le_add_left _ _) soon
  · exact Nat.lt_of_le_of_lt within soon

namespace Stays

/-- Who stays connecting began before. -/
theorem startedAt (stays : dispatch.Stays .connecting i t s lane) :
    ∃ since, lane.record.startedAt = some since ∧ since ≤ t.now := by
  obtain ⟨starts, first, second, -, there, was, found, -⟩ := stays
  have stamped := first.stamped starts there
  unfold Record.Stamped at stamped
  rw [was] at stamped
  obtain ⟨⟨since, noted, past⟩, -⟩ := stamped
  exact ⟨since, second.record_keeps (first.orderly starts) there found
    (fun _ _ _ moves => moves.startedAt) noted, past⟩

/-- Who stays executing began before. -/
theorem connectedAt (stays : dispatch.Stays .executing i t s lane) :
    ∃ since, lane.record.connectedAt = some since ∧ since ≤ t.now := by
  obtain ⟨starts, first, second, -, there, was, found, -⟩ := stays
  have stamped := first.stamped starts there
  unfold Record.Stamped at stamped
  rw [was] at stamped
  obtain ⟨since, noted, past⟩ := stamped
  exact ⟨since, second.record_keeps (first.orderly starts) there found
    (fun _ _ _ moves => moves.connectedAt) noted, past⟩

/-- **A look that was not long ago caught the host**, if it was late then; or it has been asked to
abort on another account, or its worker is over. -/
theorem caught (stays : dispatch.Stays phase i t s lane)
    (watching : dispatch.options.limits.isDisabled = false)
    (first : Watchdog.firstDelay dispatch.options.limits < s.now) :
    (lane.record.aborted = true ∨
        s.dispatcher.hasReturned = true ∧ lane.worker.isGone = true) ∨
      ∃ before, s.now ≤ before + Watchdog.interval ∧
        dispatch.options.limits.Caught before lane.record := by
  obtain ⟨starts, past, later, timely, -, -, found, -⟩ := stays
  have run := past.append later
  cases returned : s.dispatcher.hasReturned with
  | true => exact .inl ((run.attended starts returned found).imp_right fun gone => ⟨rfl, gone⟩)
  | false =>
    obtain ⟨before, recent, caught⟩ :=
      (run.watched starts timely returned).caught watching first
    exact .inr ⟨before, recent, caught i lane (List.getElem?_eq_some_iff.mp found).1 found⟩

/-- **Who is being connected for too long has been asked to abort.** -/
theorem aborted_of_connecting (stays : dispatch.Stays .connecting i t s lane)
    (seen : s.dispatcher.hasReturned = false ∨ lane.worker.isGone = false)
    (limited : dispatch.options.limits.connect ≠ 0)
    (late : t.now + dispatch.options.limits.connect + Watchdog.interval < s.now) :
    lane.record.aborted = true := by
  obtain ⟨since, noted, past⟩ := stays.startedAt
  have watching : dispatch.options.limits.isDisabled = false := by
    simp [Timeouts.isDisabled, limited]
  have short : Watchdog.slack ≤ Watchdog.interval := by decide
  have first := firstDelay_lt_of_covered (Nat.add_le_add_left short _) late
  rcases stays.caught watching first with (asked | ⟨returned, gone⟩) | ⟨before, recent, caught⟩
  · exact asked
  · rcases seen with running | busy
    · rw [returned] at running; cases running
    · rw [gone] at busy; cases busy
  · obtain ⟨-, -, -, -, -, -, -, still⟩ := stays
    refine caught ?_
    simp [Timeouts.expired, still, noted, limited, late_at_look past late recent]

/-- **Who is executing for too long has been asked to abort**, once the first look was due. -/
theorem aborted_of_executing (stays : dispatch.Stays .executing i t s lane)
    (limited : dispatch.options.limits.command ≠ 0)
    (late : t.now + dispatch.options.limits.command + Watchdog.interval < s.now)
    (first : Watchdog.firstDelay dispatch.options.limits < s.now) :
    lane.record.aborted = true := by
  obtain ⟨since, noted, past⟩ := stays.connectedAt
  have watching : dispatch.options.limits.isDisabled = false := by
    simp [Timeouts.isDisabled, limited]
  rcases stays.caught watching first with (asked | ⟨-, gone⟩) | ⟨before, recent, caught⟩
  · exact asked
  · obtain ⟨starts, before, later, -, -, -, found, still⟩ := stays
    have busy := ((before.append later).agrees starts found).isGone_of_executing still
    rw [busy] at gone
    cases gone
  · obtain ⟨-, -, -, -, -, -, -, still⟩ := stays
    refine caught ?_
    simp [Timeouts.expired, still, noted, limited, late_at_look past late recent]

end Stays

/-! ## Before the first look -/

/-- One host whose session opens at once and then says nothing. -/
def silent (limits : Timeouts) : Dispatch :=
  .ofScript (fun _ => ⟨some 0, .session { stdout := ⟨[], .never⟩ }⟩) ["a"]
    { limits, localUser := "u" }

/-- Its host is executing before the clock has moved. -/
private theorem silent_executing (limits : Timeouts) :
    ∃ setup s₀ past t lane, (silent limits).Starts setup s₀ ∧ setup.Run s₀ past t ∧
      (∀ moment ∈ past, moment.IsTimely) ∧ t.lanes[0]? = some lane ∧ t.now = 0 ∧
      t.watchdog = .start limits 0 ∧ lane.record.phase = .executing ∧
      lane.record.aborted = false := by
  have starts := ofScript.starts (fun _ => ⟨some 0, .session { stdout := ⟨[], .never⟩ }⟩)
    { limits, localUser := "u" } "a" []
  obtain ⟨past, run, timely⟩ := starts.run.acts [.act .dispatcher, .act .dispatcher,
    .act (.worker 0), .act (.worker 0), .act (.worker 0), .act (.worker 0), .act (.worker 0)] rfl
    (by simp)
  exact ⟨_, _, past, _, _, starts, run, timely, rfl, rfl, rfl, rfl, rfl⟩

/-- **Before the first look nobody is noticed.** Where the delay of the first look is longer than
the limit for executing and an interval, a host that connects at once and hangs is not asked to
abort in time. -/
theorem silent_overlooked {limits : Timeouts}
    (short : limits.command + Watchdog.interval < limits.connect + Watchdog.slack) :
    ∃ t s lane, (silent limits).Stays .executing 0 t s lane ∧
      t.now + limits.command + Watchdog.interval < s.now ∧ lane.record.aborted = false := by
  have limited : limits.connect ≠ 0 := by
    intro none
    rw [none] at short
    exact absurd (Nat.lt_of_le_of_lt (Nat.le_add_left _ _) short) (by decide)
  obtain ⟨setup, s₀, past, t, lane, starts, first, timely, there, zero, watchdog, executing,
    calm⟩ := silent_executing limits
  have ahead : t.now < limits.connect + Watchdog.slack := by
    rw [zero]
    exact Nat.add_pos_right _ (by decide)
  have permitted : t.watchdog.Permits (limits.connect + Watchdog.slack) := by
    rw [watchdog, Watchdog.start, if_neg (by simp [Timeouts.isDisabled, limited]),
      Watchdog.firstDelay, if_neg limited]
    exact Nat.le_of_eq (Nat.zero_add _).symm
  obtain ⟨later, second, timely'⟩ := first.waits _ ahead fun _ => permitted
  have both := List.forall_mem_append.mpr ⟨timely, timely'⟩
  refine ⟨t, _, lane, .intro starts first second both there executing there executing, ?_, calm⟩
  rw [zero, Nat.zero_add]
  exact short

/-! ## After the last look -/

/-- One host whose worker crashes as its session would open. -/
def crashing (limits : Timeouts) : Dispatch :=
  .ofScript (fun _ => ⟨some 0, .crash⟩) ["a"] { limits, localUser := "u" }

/-- **When all is over nobody looks any more.** The worker crashes, the dispatcher returns the
fault, and the record of the host goes on to say that it is being connected. -/
theorem crashing_overlooked (limits : Timeouts) :
    ∃ t s lane, (crashing limits).Stays .connecting 0 t s lane ∧
      s.dispatcher.hasReturned = true ∧ lane.worker.isGone = true ∧
      t.now + limits.connect + Watchdog.interval < s.now ∧ lane.record.aborted = false := by
  have starts := ofScript.starts (fun _ => ⟨some 0, .crash⟩) { limits, localUser := "u" } "a" []
  obtain ⟨past, first, timely⟩ := starts.run.acts [.act .dispatcher, .act .dispatcher,
    .act (.worker 0), .act (.worker 0), .act (.worker 0), .act (.worker 0), .act (.worker 0),
    .act .dispatcher, .act .dispatcher, .act .dispatcher] rfl (by simp)
  obtain ⟨later, second, timely'⟩ := first.waits (limits.connect + Watchdog.interval + 1)
    (Nat.succ_pos _) fun running => by cases running
  have both := List.forall_mem_append.mpr ⟨timely, timely'⟩
  refine ⟨_, _, _, .intro starts first second both rfl rfl rfl rfl, rfl, rfl, ?_, rfl⟩
  show 0 + limits.connect + Watchdog.interval < limits.connect + Watchdog.interval + 1
  rw [Nat.zero_add]
  exact Nat.lt_succ_self _

/-- **How late the watchdog may be**, for any limits and over all timely runs of all dispatches.

A host that is being connected for longer than its limit and an interval has been asked to abort,
as long as the dispatcher or the worker of the host is not over; when both are, nobody may have
looked. A host that is executing for longer than its limit and an interval has been asked to abort
too, once the delay of the first look is over. It has been in any case if and only if that delay is
not longer than the limit for executing and an interval. -/
theorem abort_latency (limits : Timeouts) :
    (∀ (dispatch : Dispatch) (i : Nat) (t s : State) (lane : Lane),
      dispatch.options.limits = limits → dispatch.Stays .connecting i t s lane →
      s.dispatcher.hasReturned = false ∨ lane.worker.isGone = false →
      limits.connect ≠ 0 → t.now + limits.connect + Watchdog.interval < s.now →
        lane.record.aborted = true) ∧
    (∃ (dispatch : Dispatch) (i : Nat) (t s : State) (lane : Lane),
      dispatch.options.limits = limits ∧ dispatch.Stays .connecting i t s lane ∧
      s.dispatcher.hasReturned = true ∧ lane.worker.isGone = true ∧
      t.now + limits.connect + Watchdog.interval < s.now ∧ lane.record.aborted = false) ∧
    (∀ (dispatch : Dispatch) (i : Nat) (t s : State) (lane : Lane),
      dispatch.options.limits = limits → dispatch.Stays .executing i t s lane →
      limits.command ≠ 0 → t.now + limits.command + Watchdog.interval < s.now →
      Watchdog.firstDelay limits < s.now →
        lane.record.aborted = true) ∧
    ((∀ (dispatch : Dispatch) (i : Nat) (t s : State) (lane : Lane),
        dispatch.options.limits = limits → dispatch.Stays .executing i t s lane →
        limits.command ≠ 0 → t.now + limits.command + Watchdog.interval < s.now →
          lane.record.aborted = true) ↔
      limits.command = 0 ∨
        limits.connect + Watchdog.slack ≤ limits.command + Watchdog.interval) := by
  refine ⟨?_, ?_, ?_, ?_, ?_⟩
  · rintro dispatch i t s lane rfl stays seen limited late
    exact stays.aborted_of_connecting seen limited late
  · obtain ⟨t, s, lane, stays, returned, gone, late, calm⟩ := crashing_overlooked limits
    exact ⟨crashing limits, 0, t, s, lane, rfl, stays, returned, gone, late, calm⟩
  · rintro dispatch i t s lane rfl stays limited late first
    exact stays.aborted_of_executing limited late first
  · intro prompt
    by_cases limited : limits.command = 0
    · exact .inl limited
    · refine .inr (Nat.le_of_not_lt ?_)
      intro short
      obtain ⟨t, s, lane, stays, late, calm⟩ := silent_overlooked short
      have asked := prompt (silent limits) 0 t s lane rfl stays limited late
      rw [calm] at asked
      cases asked
  · rintro covered dispatch i t s lane rfl stays limited late
    refine stays.aborted_of_executing limited late ?_
    have within : dispatch.options.limits.connect + Watchdog.slack
        ≤ dispatch.options.limits.command + Watchdog.interval := covered.resolve_left limited
    exact firstDelay_lt_of_covered within late

/-- The session of one host opens at once and hangs. With a second to execute and no limit on
connecting, the first look catches it, and after three seconds it has been asked to abort. -/
theorem abort_latency_oneSecond :
    ∃ t s lane, (silent ⟨0, Time.second⟩).Stays .executing 0 t s lane ∧
      t.now + Time.second + Watchdog.interval < s.now ∧
      Watchdog.firstDelay ⟨0, Time.second⟩ < s.now ∧ lane.record.aborted = true := by
  have starts := ofScript.starts (fun _ => ⟨some 0, .session { stdout := ⟨[], .never⟩ }⟩)
    { limits := ⟨0, Time.second⟩, localUser := "u" } "a" []
  obtain ⟨past, first, timely⟩ := starts.run.acts [.act .dispatcher, .act .dispatcher,
    .act (.worker 0), .act (.worker 0), .act (.worker 0), .act (.worker 0), .act (.worker 0)] rfl
    (by simp)
  obtain ⟨wait, waited, timely₁⟩ :=
    first.waits Watchdog.interval (by decide) fun _ => Nat.le_refl _
  obtain ⟨look, looked, timely₂⟩ :=
    waited.acts [.act .watchdog, .act .watchdog, .act .watchdog, .act .watchdog] rfl (by simp)
  obtain ⟨rest, rested, timely₃⟩ :=
    looked.waits (Watchdog.interval + Watchdog.interval) (by decide) fun _ => Nat.le_refl _
  have second := (waited.append looked).append rested
  have timely' := List.forall_mem_append.mpr
    ⟨List.forall_mem_append.mpr ⟨timely₁, timely₂⟩, timely₃⟩
  have both := List.forall_mem_append.mpr ⟨timely, timely'⟩
  have stays : (silent ⟨0, Time.second⟩).Stays .executing 0 _ _ _ :=
    .intro starts first second both rfl rfl rfl rfl
  have asked := (abort_latency ⟨0, Time.second⟩).2.2.1 _ 0 _ _ _ rfl stays (by decide) (by decide)
    (by decide)
  exact ⟨_, _, _, stays, by decide, by decide, asked⟩

/-- A session that opens at once and hangs, with ten seconds to connect and one to execute, is not
noticed within three. -/
theorem abort_latency_fails :
    ¬ ∀ (dispatch : Dispatch) (i : Nat) (t s : State) (lane : Lane),
      dispatch.Stays .executing i t s lane → dispatch.options.limits.command ≠ 0 →
      t.now + dispatch.options.limits.command + Watchdog.interval < s.now →
        lane.record.aborted = true := by
  intro prompt
  have short : (⟨10 * Time.second, Time.second⟩ : Timeouts).command + Watchdog.interval
      < (⟨10 * Time.second, Time.second⟩ : Timeouts).connect + Watchdog.slack := by decide
  obtain ⟨t, s, lane, stays, late, calm⟩ :=
    silent_overlooked short
  have asked := prompt _ 0 t s lane stays (by decide) late
  rw [calm] at asked
  cases asked

end Dispatch

end Fleet
