import Fleet.Proofs.Ending

/-!
# When the watchdog notices

Looks come on a grid: the first after a delay that is fixed when the run begins, each later one an
interval after the one before. A limit counts from the moment at which a host entered its phase,
which has nothing to do with the grid. What carries the proofs is what a look leaves behind: nobody
is late at its moment without having been asked to abort (`Timeouts.Caught`), and nobody can become
so later, since who enters a phase after the look is not late at its moment
(`Timeouts.Caught.moves`).

Runs are *timely* here: the clock does not pass a look that is due. Those that `Dispatch.run`
follows are (`Course.follow_timely`).

**The law** (`Run.watched`): in a timely run the watchdog acts on its grid, and its last look has
caught everybody who was late then.
-/

namespace Fleet

namespace Record

/-- The times noted on a record go with its phase, and none is to come. -/
def Stamped (now : Time) (record : Record) : Prop :=
  match record.phase with
  | .new => record.startedAt = none ∧ record.connectedAt = none
  | .connecting =>
    (∃ since, record.startedAt = some since ∧ since ≤ now) ∧ record.connectedAt = none
  | .executing => ∃ since, record.connectedAt = some since ∧ since ≤ now
  | .done | .failed => True

variable {now : Time} {record record' : Record}

theorem Stamped.later {now' : Time} (stamped : record.Stamped now) (later : now ≤ now') :
    record.Stamped now' := by
  unfold Stamped at *
  split at stamped
  · exact stamped
  · obtain ⟨⟨since, noted, past⟩, blank⟩ := stamped
    exact ⟨⟨since, noted, Nat.le_trans past later⟩, blank⟩
  · obtain ⟨since, noted, past⟩ := stamped
    exact ⟨since, noted, Nat.le_trans past later⟩
  · trivial
  · trivial

namespace Moves

/-- A legal step notes the moment at which it is taken. -/
theorem stamped (moves : record.Moves now record') (stamped : record.Stamped now) :
    record'.Stamped now := by
  cases moves with
  | stays phase startedAt connectedAt =>
    unfold Stamped at *
    rw [phase, startedAt, connectedAt]
    exact stamped
  | @steps next legal =>
    unfold Stamped at *
    cases here : record.phase <;> rw [here] at legal stamped <;> cases next <;>
      simp only [Phase.canAdvance, Bool.false_eq_true] at legal <;>
      simp only [stamp, stamped, Option.none_or]
    · exact ⟨⟨now, rfl, Nat.le_refl now⟩, trivial⟩
    · exact ⟨now, rfl, Nat.le_refl now⟩

/-- A time that is noted stays. -/
theorem startedAt (moves : record.Moves now record') {since : Time}
    (noted : record.startedAt = some since) : record'.startedAt = some since := by
  cases moves with
  | stays _ same _ => rw [same, noted]
  | @steps next legal => cases next <;> simp only [stamp, noted, Option.some_or]

theorem connectedAt (moves : record.Moves now record') {since : Time}
    (noted : record.connectedAt = some since) : record'.connectedAt = some since := by
  cases moves with
  | stays _ _ same => rw [same, noted]
  | @steps next legal => cases next <;> simp only [stamp, noted, Option.some_or]

end Moves

end Record

/-! ## What a look leaves behind -/

namespace Timeouts

/-- A host that was late at a moment has been asked to abort. -/
def Caught (limits : Timeouts) (time : Time) (record : Record) : Prop :=
  limits.expired record time = true → record.aborted = true

variable {limits : Timeouts} {time now : Time} {record record' : Record}

/-- Whom a look leaves alone is not late at its moment, or was asked before. -/
theorem caught_of_spared (fine : limits.catches record now = false) :
    limits.Caught now record := by
  intro late
  simpa [catches, late] using fine

/-- Whether a host is late depends on its phase and on when it entered it. -/
theorem expired_congr (phase : record'.phase = record.phase)
    (startedAt : record'.startedAt = record.startedAt)
    (connectedAt : record'.connectedAt = record.connectedAt) :
    limits.expired record' time = limits.expired record time := by
  unfold expired
  rw [phase, startedAt, connectedAt]

/-- A host that enters a phase is not late at any moment up to now. -/
theorem expired_of_step {next : Phase} (legal : record.phase.canAdvance next = true)
    (stamped : record.Stamped now) (past : time ≤ now) :
    limits.expired ({ record with phase := next }.stamp now next) time = false := by
  have none : time - now = 0 := Nat.sub_eq_zero_of_le past
  unfold Record.Stamped at stamped
  cases here : record.phase <;> rw [here] at legal stamped <;> cases next <;>
    simp only [Phase.canAdvance, Bool.false_eq_true] at legal <;>
    simp [expired, Record.stamp, stamped, none]

/-- **A look is not undone**: who enters a phase after it is not late at its moment. -/
theorem Caught.moves (caught : limits.Caught time record) (moves : record.Moves now record')
    (stamped : record.Stamped now) (past : time ≤ now)
    (kept : record.aborted = true → record'.aborted = true) : limits.Caught time record' := by
  intro late
  cases moves with
  | stays phase startedAt connectedAt =>
    rw [expired_congr phase startedAt connectedAt] at late
    exact kept (caught late)
  | steps legal =>
    rw [expired_of_step legal stamped past] at late
    cases late

end Timeouts

namespace State

/-- All hosts that were late at a moment have been asked to abort, those from `n` on aside. -/
def CaughtBelow (s : State) (limits : Timeouts) (n : Nat) (time : Time) : Prop :=
  ∀ (i : Nat) (lane : Lane), i < n → s.lanes[i]? = some lane → limits.Caught time lane.record

/-- A look may come at this moment: it is the first, or comes an interval after one that has caught
all who were late. -/
def OnGrid (s : State) (limits : Timeouts) (look : Time) : Prop :=
  look = Watchdog.firstDelay limits ∨
    ∃ before, look = before + Watchdog.interval ∧ before ≤ s.now ∧
      s.CaughtBelow limits s.lanes.length before

/-- What the watchdog is doing agrees with the clock, and with whom it has caught. -/
def Watched (s : State) (limits : Timeouts) : Prop :=
  match s.watchdog with
  | .off => limits.isDisabled = true
  | .asleep wake => s.now ≤ wake ∧ s.OnGrid limits wake
  | .scanning began next | .firing began next =>
    s.now = began ∧ s.OnGrid limits began ∧ s.CaughtBelow limits next began

end State

namespace Setup

variable {setup : Setup} {s s' s₀ : State} {past : List Moment} {limits : Timeouts}

theorem Run.stamped {dispatch : Dispatch} (run : setup.Run s₀ past s)
    (starts : dispatch.Starts setup s₀) {i : Nat} {lane : Lane}
    (found : s.lanes[i]? = some lane) : lane.record.Stamped s.now := by
  refine (run.preserves (P := fun u => u.Orderly ∧ ∀ (j : Nat) (lane : Lane),
    u.lanes[j]? = some lane → lane.record.Stamped u.now) ⟨starts.orderly, ?_⟩ ?_).2 i lane found
  · intro j lane found
    have fresh := starts.fresh found
    unfold Record.Stamped
    rw [fresh.phase]
    exact ⟨fresh.startedAt, fresh.connectedAt⟩
  · rintro u e u' step ⟨orderly, stamped⟩
    refine ⟨step.orderly orderly, ?_⟩
    intro j lane' found
    obtain ⟨lane, there, moves, -⟩ := step.moves orderly found
    exact (moves.stamped (stamped j lane there)).later step.now

/-- Whom a look has caught stays caught. -/
theorem Step.caught {e : Event} {n : Nat} {time : Time} (step : setup.Step s e s')
    (orderly : s.Orderly)
    (stamped : ∀ (i : Nat) (lane : Lane), s.lanes[i]? = some lane → lane.record.Stamped s.now)
    (past : time ≤ s.now) (caught : s.CaughtBelow limits n time) :
    s'.CaughtBelow limits n time := by
  intro i lane' bound found
  obtain ⟨lane, there, moves, kept⟩ := step.moves orderly found
  exact (caught i lane bound there).moves moves (stamped i lane there) past kept

theorem Step.onGrid {e : Event} {look : Time} (step : setup.Step s e s') (orderly : s.Orderly)
    (stamped : ∀ (i : Nat) (lane : Lane), s.lanes[i]? = some lane → lane.record.Stamped s.now)
    (grid : s.OnGrid limits look) : s'.OnGrid limits look := by
  rcases grid with first | ⟨before, next, past, caught⟩
  · exact .inl first
  · refine .inr ⟨before, next, Nat.le_trans past step.now, ?_⟩
    rw [step.length]
    exact step.caught orderly stamped past caught

/-- An event that leaves watchdog and clock alone does not disturb the watch. -/
private theorem Step.watched_of_same {e : Event} (step : setup.Step s e s') (orderly : s.Orderly)
    (stamped : ∀ (i : Nat) (lane : Lane), s.lanes[i]? = some lane → lane.record.Stamped s.now)
    (watched : s.Watched limits) (watchdog : s'.watchdog = s.watchdog) (now : s'.now = s.now) :
    s'.Watched limits := by
  unfold State.Watched at *
  rw [watchdog]
  split at watched
  · exact watched
  · exact ⟨now ▸ watched.1, step.onGrid orderly stamped watched.2⟩
  all_goals
    obtain ⟨same, grid, caught⟩ := watched
    exact ⟨now.trans same, step.onGrid orderly stamped grid,
      step.caught orderly stamped (Nat.le_of_eq same.symm) caught⟩

end Setup

/-! ## Timely runs -/

/-- How far the clock may go before the watchdog has to act. -/
def Watchdog.Permits (time : Time) : Watchdog → Prop
  | off => True
  | asleep wake => time ≤ wake
  | scanning .. | firing .. => False

/-- The clock does not pass a look that is due. When the dispatcher is over there are none. -/
def Moment.IsTimely (moment : Moment) : Prop :=
  ∀ time, moment.event = .clock time → moment.before.dispatcher.hasReturned = false →
    moment.before.watchdog.Permits time

/-- **Who lets the clock wait for the tasks is timely.** -/
theorem Moment.IsAwaited.isTimely {setup : Setup} {moment : Moment}
    (awaited : moment.IsAwaited setup) : moment.IsTimely := by
  intro time clock running
  obtain ⟨course, here, idle, soon⟩ := awaited time clock
  rw [← here] at running ⊢
  have rests : setup.watchdogStep? course.state = none := by
    have among : Actor.watchdog ∈
        course.current.toList ++ Course.actors course.state.lanes.length := by
      simp [Course.actors]
    unfold Course.act? at idle
    exact Option.map_eq_none_iff.mp (List.findSome?_eq_none_iff.mp idle _ among)
  unfold Setup.watchdogStep? at rests
  cases watch : course.state.watchdog with
  | off => trivial
  | scanning began next =>
    simp only [watch] at rests
    split at rests
    · split at rests <;> cases rests
    · cases rests
  | firing began next =>
    simp only [watch] at rests
    cases rests
  | asleep wake =>
    have early : course.state.now < wake := by
      simpa [watch, running] using rests
    unfold Course.nextTime? at soon
    have least := (List.min?_eq_some_iff.mp soon).2
    apply least
    simp [watch, early]

namespace Setup.Run

variable {setup : Setup} {s t u : State} {past : List Moment}

/-- A run is carried on by what tasks do, and is timely there. -/
theorem acts (run : setup.Run s past t) (events : List Event)
    (replayed : setup.replay? t events = some u) (quiet : ∀ time, Event.clock time ∉ events) :
    ∃ later, setup.Run t later u ∧ ∀ moment ∈ later, moment.IsTimely := by
  obtain ⟨later, second, same⟩ := run.further events replayed
  refine ⟨later, second, ?_⟩
  intro moment among time clock
  exact absurd clock (Moment.event_ne (same ▸ quiet time) moment among)

/-- A run is carried on by time that passes, and is timely if the watchdog permits it or there is
none any more. -/
theorem waits (_ : setup.Run s past t) (time : Time) (ahead : t.now < time)
    (permitted : t.dispatcher.hasReturned = false → t.watchdog.Permits time) :
    ∃ later, setup.Run t later { t with now := time } ∧ ∀ moment ∈ later, moment.IsTimely := by
  refine ⟨_, .single (e := .clock time) (if_pos ahead), ?_⟩
  intro moment among
  obtain rfl := List.mem_singleton.mp among
  intro time' clock running
  obtain rfl := Event.clock.inj clock
  exact permitted running

end Setup.Run

/-- **Following a course is a timely run.** -/
theorem Course.follow_timely {setup : Setup} {deadline : Time} {until? : State → Bool}
    (steps : Nat) (course : Course) :
    ∃ past, setup.Run course.state past (course.follow setup deadline until? steps).state ∧
      ∀ moment ∈ past, moment.IsTimely := by
  obtain ⟨past, run, awaited⟩ := Course.follow_run steps course
  exact ⟨past, run, fun moment among => (awaited moment among).isTimely⟩

/-- The first look is the first on the grid. -/
theorem Dispatch.Starts.watched {dispatch : Dispatch} {setup : Setup} {s : State}
    (starts : dispatch.Starts setup s) : s.Watched setup.options.limits := by
  obtain ⟨prepared⟩ := starts
  unfold State.Watched State.start Watchdog.start
  by_cases disabled : dispatch.options.limits.isDisabled = true
  · simp only [if_pos disabled]
    exact disabled
  · simp only [if_neg disabled]
    exact ⟨Nat.zero_le _, .inl (Nat.zero_add _)⟩

namespace Setup

variable {setup : Setup} {s s' s₀ : State} {past : List Moment}

theorem Turn.watchdog {i : Nat} {lane lane' : Lane} {t : State}
    (turn : setup.Turn s i lane lane' t) : t.watchdog = s.watchdog := by
  cases turn <;> rfl

/-- **A timely event keeps watchdog and clock in agreement.** -/
theorem Step.watched {e : Event} (step : setup.Step s e s') (orderly : s.Orderly)
    (stamped : ∀ (i : Nat) (lane : Lane), s.lanes[i]? = some lane → lane.record.Stamped s.now)
    (timely : Moment.IsTimely ⟨s, e, s'⟩) (running : s.dispatcher.hasReturned = false)
    (watched : s.Watched setup.options.limits) : s'.Watched setup.options.limits := by
  have grid {look : Time} (onGrid : s.OnGrid setup.options.limits look) :=
    step.onGrid orderly stamped onGrid
  have kept {n : Nat} {time : Time} (past : time ≤ s.now)
      (caught : s.CaughtBelow setup.options.limits n time) :
      s'.CaughtBelow setup.options.limits n time := step.caught orderly stamped past caught
  have carry := step.watched_of_same orderly stamped watched
  unfold State.Watched at watched
  cases step with
  | work found turn => exact carry turn.watchdog turn.now
  | @wake wake here due _ =>
    rw [here] at watched
    obtain ⟨early, onGrid⟩ := watched
    -- the clock did not pass the look, and the look is due
    obtain rfl : s.now = wake := Nat.le_antisymm early due
    refine ⟨rfl, grid onGrid, ?_⟩
    intro i lane bound
    exact absurd bound (Nat.not_lt_zero i)
  | spot here =>
    rw [here] at watched
    exact watched
  | @spare began next lane here found fine =>
    rw [here] at watched
    obtain ⟨same, onGrid, caught⟩ := watched
    refine ⟨same, grid onGrid, fun i lane' bound found' => ?_⟩
    rcases Nat.lt_succ_iff_lt_or_eq.mp bound with before | rfl
    · exact caught i lane' before found'
    · obtain rfl := Option.some.inj (found'.symm.trans found)
      exact Timeouts.caught_of_spared fine
  | @fire began next here =>
    rw [here] at watched
    obtain ⟨same, onGrid, caught⟩ := watched
    refine ⟨same, grid onGrid, fun i lane' bound found' => ?_⟩
    rcases Nat.lt_succ_iff_lt_or_eq.mp bound with before | rfl
    · exact kept (Nat.le_of_eq same.symm) caught i lane' before found'
    · exact fun _ => State.abortHost_aborted found'
  | @rest began next here past =>
    rw [here] at watched
    obtain ⟨rfl, -, caught⟩ := watched
    -- everybody was looked at, so the next look comes an interval after one that caught all
    refine ⟨Nat.le_add_right _ _, .inr ⟨s.now, rfl, Nat.le_refl _, ?_⟩⟩
    intro i lane bound
    exact caught i lane (Nat.lt_of_lt_of_le bound past)
  | @clock time later =>
    have permitted := timely time rfl running
    change s.watchdog.Permits time at permitted
    unfold State.Watched
    cases here : s.watchdog with
    | off => rw [here] at watched; exact watched
    | asleep wake =>
      rw [here] at watched permitted
      exact ⟨permitted, grid watched.2⟩
    | scanning | firing => rw [here] at permitted; cases permitted
  | _ => exact carry rfl rfl

/-- **In a timely run the watchdog is on its grid** until the dispatcher is over. -/
theorem Run.watched {dispatch : Dispatch} (run : setup.Run s₀ past s)
    (starts : dispatch.Starts setup s₀) (timely : ∀ moment ∈ past, moment.IsTimely)
    (running : s.dispatcher.hasReturned = false) : s.Watched dispatch.options.limits := by
  rw [← starts.options]
  induction run with
  | nil => exact starts.watched
  | snoc run step ih =>
    have step := step?_step step
    have before := step.running running
    have watched := ih (fun moment among => timely moment (List.mem_append_left _ among)) before
    exact step.watched (run.orderly starts) (fun _ _ found => run.stamped starts found)
      (timely _ (List.mem_append_right _ (List.mem_singleton_self _))) before watched

end Setup

end Fleet
