import Fleet.Proofs.Faults

/-!
# All or nothing

Where all hosts have to succeed, the worker of a host that fails takes the run down: it signals the
remote sides, asks every host to abort, and tells the dispatcher. Whoever fails besides leaves it at
that. There is one flag for it, so at any time one worker takes the run down, or its fault is in the
queue, or nobody has claimed it (`Step.balance`).

A failed host is not overlooked: until its worker has seen the flag it goes on holding its slot, so
the dispatcher does not pass (`State.Heard`). And a host that is asked to abort before its worker
asked for a session never gets one (`Run.turned_away`).

**The law** (`Run.all_or_nothing`): without user interrupts the dispatcher returns no fault only if
all hosts are done, and otherwise one that names a host that failed, or a worker that crashed. That
of a crash can hide a failure, and a host that is admitted after a failure is turned away only when
it has been asked to abort in time (`all_or_nothing_fails`).
-/

namespace Fleet

namespace Worker

/-- Whether the worker takes the run down. -/
def takesDown : Worker → Bool
  | signalling _ | aborting _ | raising => true
  | _ => false

/-- Whether the worker has failed its host and has not looked yet who takes the run down. -/
def hasNews : Worker → Bool
  | telling _ | claiming => true
  | _ => false

/-- Whether the worker has not been given a session, nor asked for one that it may be given. -/
def isUnserved : Worker → Bool
  | waiting | admitted | connecting | failing _ | marking _ | telling _ | claiming => true
  | signalling _ | aborting _ | raising | leaving false | announcing false | gone false => true
  | _ => false

/-- How many turns it takes a worker at most to tell the dispatcher, once it has failed its host. -/
def untold (nhosts : Nat) : Worker → Nat
  | telling _ => 2 * nhosts + 5
  | claiming => 2 * nhosts + 4
  | signalling next => (nhosts - next) + nhosts + 3
  | aborting next => (nhosts - next) + 2
  | raising => 1
  | _ => 0

/-- Whoever begins to take the run down is closer to its end than who has news. -/
theorem untold_of_hasNews {nhosts : Nat} {worker : Worker} (news : worker.hasNews = true) :
    (signalling 0).untold nhosts < worker.untold nhosts := by
  cases worker with
  | telling | claiming => simp only [untold]; omega
  | _ => cases news

end Worker

/-- A step enters the phase, or leaves the record in the one it is in. -/
theorem Lane.advance_phase_cases (lane : Lane) (now : Time) (next : Phase) :
    (lane.advance now next).record.phase = next ∨
      (lane.advance now next).record.phase = lane.record.phase := by
  by_cases legal : lane.record.phase.canAdvance next = true
  · exact .inl (lane.advance_phase now legal)
  · right
    rw [advance, Record.advance, if_neg legal]

/-- A host that was asked to abort before its worker asked for a session. -/
structure Lane.IsTurnedAway (lane : Lane) : Prop where
  asked : lane.record.aborted = true
  unserved : lane.worker.isUnserved = true
  unopened : lane.record.phase ≠ .executing ∧ lane.record.phase ≠ .done

/-- Before a worker asks for a session its host is in the first two phases. -/
theorem Lane.Agrees.isTurnedAway {lane : Lane} (agrees : lane.Agrees)
    (asked : lane.record.aborted = true)
    (early : lane.worker = .waiting ∨ lane.worker = .admitted ∨ lane.worker = .connecting) :
    lane.IsTurnedAway := by
  unfold Lane.Agrees at agrees
  rcases early with here | here | here
  all_goals
    rw [here] at agrees
    exact ⟨asked, by rw [here]; rfl, by rw [agrees.1]; decide⟩

namespace State

/-- How many workers take the run down. -/
def takers (s : State) : Nat := s.workers.countP Worker.takesDown

/-- How many faults in the queue say that a host failed where all have to succeed. -/
def alarms (s : State) : Nat := s.fatal.countP DispatchError.isLockstepAbort

/-- Where a host has failed, its worker has yet to look who takes the run down, or somebody does. -/
def Heard (s : State) : Prop :=
  ∀ (i : Nat) (lane : Lane), s.lanes[i]? = some lane → lane.record.phase = .failed →
    lane.worker.hasNews = true ∨ s.fleetAborted = true

/-- The worker of a host is to tell the dispatcher within so many turns: it takes the run down, or
it has news and nobody takes the run down yet. -/
def Alerts (s : State) (i left : Nat) : Prop :=
  ∃ lane, s.lanes[i]? = some lane ∧ lane.worker.untold s.lanes.length = left ∧
    (lane.worker.takesDown = true ∨ lane.worker.hasNews = true ∧ s.fleetAborted = false)

end State

namespace Setup

variable {setup : Setup} {s s' s₀ : State} {past later : List Moment}

/-! ## One takes the run down -/

/-- Whoever begins to take the run down sets the flag, and whoever tells the dispatcher is through
with it. -/
theorem Turn.balance {i : Nat} {lane lane' : Lane} {t : State}
    (turn : setup.Turn s i lane lane' t) :
    lane'.worker.takesDown.toNat + t.alarms + s.fleetAborted.toNat
      = lane.worker.takesDown.toNat + s.alarms + t.fleetAborted.toNat := by
  cases turn with
  | @attach since plan here =>
    rw [here]
    show (setup.firstWork since plan).takesDown.toNat + _ + _ = _
    rcases setup.firstWork_cases since plan with ⟨_, -, same⟩ | ⟨_, _, same⟩ | same <;>
      rw [same] <;> rfl
  | tell here =>
    rw [here, Lane.moveTo_worker]
    split <;> rfl
  | claim here free =>
    rw [here, free]
    show 1 + s.alarms + 0 = 0 + s.alarms + 1
    omega
  | raise here =>
    have more : (s.raise (.lockstepAbort lane.record.hostname)).alarms = s.alarms + 1 :=
      List.countP_append
    rw [here, more]
    show 0 + (s.alarms + 1) + s.fleetAborted.toNat = 1 + s.alarms + s.fleetAborted.toNat
    omega
  | _ =>
    rw [‹lane.worker = _›]
    rfl

/-- **Those who take the run down and the faults that they told make up the flag.** -/
theorem Step.balance {e : Event} (step : setup.Step s e s') (orderly : s.Orderly) :
    s'.takers + s'.alarms + s.fleetAborted.toNat
      = s.takers + s.alarms + s'.fleetAborted.toNat := by
  cases step with
  | @work i lane lane' t found turn =>
    have balance := turn.balance
    have moved : (t.putLane i lane').workers = s.workers.set i lane'.worker := by
      rw [State.putLane_workers, turn.workers]
    have count :=
      State.countP_workers_set Worker.takesDown (State.workers_getElem? found) moved
    show (t.putLane i lane').takers + t.alarms + _ = _ + t.fleetAborted.toNat
    unfold State.takers
    omega
  | @grant next noticed gate here free =>
    obtain ⟨inside, idle⟩ := orderly _ _ here
    have found := List.getElem?_eq_getElem inside
    have moved : (s.moveWorker next .admitted).workers = s.workers.set next .admitted := by
      rw [State.moveWorker_eq_putLane found, State.putLane_workers, Lane.moveTo_worker]
    have count :=
      State.countP_workers_set Worker.takesDown (State.workers_getElem? found) moved
    rw [idle next _ (Nat.le_refl next) found] at count
    exact congrArg (· + s.alarms + s.fleetAborted.toNat) count
  | raise =>
    have same : (s.raise .interrupted).alarms = s.alarms := List.countP_append
    exact congrArg (s.takers + · + s.fleetAborted.toNat) same
  | fire | abort =>
    exact congrArg (List.countP Worker.takesDown · + s.alarms + s.fleetAborted.toNat)
      (s.abortHost_workers _)
  | _ => rfl

theorem takers_start {dispatch : Dispatch} (starts : dispatch.Starts setup s) : s.takers = 0 := by
  apply List.countP_eq_zero.mpr
  intro worker among
  obtain ⟨lane, there, rfl⟩ := List.mem_map.mp among
  obtain ⟨i, found⟩ := List.mem_iff_getElem?.mp there
  rw [(starts.fresh found).worker]
  exact Bool.false_ne_true

/-- **There is one flag, so one worker takes the run down.** -/
theorem Run.balance {dispatch : Dispatch} (run : setup.Run s₀ past s)
    (starts : dispatch.Starts setup s₀) : s.takers + s.alarms = s.fleetAborted.toNat := by
  induction run with
  | nil =>
    have none := takers_start starts
    obtain ⟨prepared⟩ := starts
    rw [none]
    rfl
  | @snoc past t t' e run step ih =>
    have balance := (step?_step step).balance (run.orderly starts)
    omega

/-! ## No failure is overlooked -/

/-- A host fails in one turn, and then its worker is about to tell of it. -/
theorem Turn.fails {i : Nat} {lane lane' : Lane} {t : State} (turn : setup.Turn s i lane lane' t)
    (failed : lane'.record.phase = .failed) :
    lane.record.phase = .failed ∨ lane'.worker.hasNews = true := by
  cases turn with
  | fail => exact .inr rfl
  | start | connect | succeed =>
    rcases lane.advance_phase_cases s.now _ with entered | same
    · cases failed.symm.trans entered
    · exact .inl (same.symm.trans failed)
  | attach =>
    rw [Lane.attach_phase] at failed
    exact .inl failed
  | relay _ result =>
    obtain ⟨-, code, rfl⟩ := Relay.poll_advanced result
    exact .inl failed
  | cutOff _ result =>
    obtain ⟨code, rfl⟩ := Relay.poll_failed result
    exact .inl failed
  | reap _ _ result =>
    obtain ⟨termination, -, good⟩ := andThen_eq_ok.mp result
    obtain ⟨code, rfl⟩ := Termination.verdict_eq_ok good
    exact .inl failed
  | abort =>
    rw [Lane.moveTo_record] at failed
    split at failed <;> exact .inl failed
  | _ => exact .inl failed

/-- A worker with news tells of them, and then it looks who takes the run down. -/
theorem Turn.news {i : Nat} {lane lane' : Lane} {t : State} (turn : setup.Turn s i lane lane' t)
    (lockstep : setup.backend.lockstep = true) (news : lane.worker.hasNews = true) :
    lane'.worker.hasNews = true ∨ t.fleetAborted = true := by
  cases turn with
  | tell =>
    rw [Lane.moveTo_worker, if_pos lockstep]
    exact .inl rfl
  | defer _ taken => exact .inr taken
  | claim => exact .inr rfl
  | _ =>
    rw [‹lane.worker = _›] at news
    cases news

theorem Turn.flag {i : Nat} {lane lane' : Lane} {t : State} (turn : setup.Turn s i lane lane' t)
    (flag : s.fleetAborted = true) : t.fleetAborted = true := by
  cases turn with
  | claim => rfl
  | _ => exact flag

theorem Step.flag {e : Event} (step : setup.Step s e s') (flag : s.fleetAborted = true) :
    s'.fleetAborted = true := by
  cases step with
  | work _ turn => exact turn.flag flag
  | _ => exact flag

theorem Step.heard {e : Event} (step : setup.Step s e s') (orderly : s.Orderly)
    (agrees : ∀ (i : Nat) (lane : Lane), s.lanes[i]? = some lane → lane.Agrees)
    (lockstep : setup.backend.lockstep = true) (heard : s.Heard) : s'.Heard := by
  intro i lane' found failed
  obtain ⟨lane, old, passage⟩ := step.lane_before orderly found
  cases passage with
  | turn _ turn after =>
    subst after
    rcases turn.fails failed with before | news
    · rcases heard i lane old before with news | flag
      · exact turn.news lockstep news
      · exact .inr (turn.flag flag)
    · exact .inl news
  | same | asked => exact (heard i _ old failed).imp_right step.flag
  | granted _ idle =>
    have fresh := agrees i lane old
    unfold Lane.Agrees at fresh
    rw [idle] at fresh
    cases failed.symm.trans fresh.1

theorem Run.heard {dispatch : Dispatch} (run : setup.Run s₀ past s)
    (starts : dispatch.Starts setup s₀) (lockstep : setup.backend.lockstep = true) : s.Heard := by
  induction run with
  | nil =>
    intro i lane found failed
    cases failed.symm.trans (starts.fresh found).phase
  | snoc run step ih =>
    exact (step?_step step).heard (run.orderly starts) (fun _ _ found => run.agrees starts found)
      lockstep ih

/-- A dispatcher that is over without a fault goes on to have found no alarm. -/
theorem Step.passed {e : Event} (step : setup.Step s e s') (knows : s.Knows s.dispatcher)
    (passed : s.dispatcher = .returned (.ok ()) → s.alarms = 0)
    (ended : s'.dispatcher = .returned (.ok ())) : s'.alarms = 0 := by
  by_cases before : s.dispatcher = .returned (.ok ())
  · rw [before] at knows
    unfold State.alarms
    cases step.queues with
    | same queue =>
      rw [queue]
      exact passed before
    | fleet _ found here _ => cases here.symm.trans (knows _ _ found)
    | user _ _ queue _ =>
      rw [queue, List.countP_append]
      exact passed before
  · obtain ⟨-, -, quiet, rfl⟩ := (step.passes ended).resolve_left before
    show s.fatal.countP _ = 0
    rw [quiet]
    rfl

theorem Run.passed {dispatch : Dispatch} (run : setup.Run s₀ past s)
    (starts : dispatch.Starts setup s₀) (ended : s.dispatcher = .returned (.ok ())) :
    s.alarms = 0 := by
  induction run with
  | nil => cases starts.dispatcher.symm.trans ended
  | snoc run step ih => exact (step?_step step).passed (run.settled starts) ih ended

/-- **The dispatcher is over without a fault only if all hosts are done.** -/
theorem Run.all_done {dispatch : Dispatch} (run : setup.Run s₀ past s)
    (starts : dispatch.Starts setup s₀) (lockstep : setup.backend.lockstep = true)
    (ended : s.dispatcher = .returned (.ok ())) {i : Nat} {lane : Lane}
    (found : s.lanes[i]? = some lane) : lane.record.phase = .done := by
  have sound : s.IsSound := by
    have settled := run.settled starts
    rwa [ended] at settled
  rcases run.phase_of_isSound starts sound found with done | failed
  · exact done
  · -- somebody has seen the failure, and whoever took the run down has told of it
    have flag : s.fleetAborted = true := by
      refine (run.heard starts lockstep i lane found failed).resolve_left ?_
      rw [sound i lane found]
      exact Bool.false_ne_true
    have none : s.takers = 0 := by
      apply List.countP_eq_zero.mpr
      intro worker among
      obtain ⟨other, there, rfl⟩ := List.mem_map.mp among
      obtain ⟨j, found⟩ := List.mem_iff_getElem?.mp there
      rw [sound j other found]
      exact Bool.false_ne_true
    have balance := run.balance starts
    rw [none, run.passed starts ended, flag] at balance
    cases balance

/-! ## Without interrupts -/

/-- Without interrupts the task for them goes on listening. -/
theorem Step.listening {e : Event} (step : setup.Step s e s') (calm : e ≠ .interrupt)
    (listens : s.interrupter = .listening) : s'.interrupter = .listening := by
  cases step with
  | work _ turn => exact turn.interrupter.trans listens
  | head here | survey here _ | surveyed here _ | reported here | report here | signal here _
  | signalled here _ | announce here | abort here _ | raise here _ =>
    cases here.symm.trans listens
  | lost | ask | stop => exact absurd rfl calm
  | _ => exact listens

theorem Run.listening {dispatch : Dispatch} (run : setup.Run s₀ past s)
    (starts : dispatch.Starts setup s₀) (calm : ∀ moment ∈ past, moment.event ≠ .interrupt) :
    s.interrupter = .listening := by
  induction run with
  | nil =>
    obtain ⟨prepared⟩ := starts
    rfl
  | snoc _ step ih =>
    have before := ih fun moment among => calm moment (List.mem_append_left _ among)
    have last := calm _ (List.mem_append_right _ (List.mem_singleton_self _))
    exact (step?_step step).listening last before

/-- **Without interrupts a fault names a host that failed, or one whose worker crashed.** -/
theorem Run.takenDown {dispatch : Dispatch} {e : DispatchError} (run : setup.Run s₀ past s)
    (starts : dispatch.Starts setup s₀) (calm : ∀ moment ∈ past, moment.event ≠ .interrupt)
    (returned : s.dispatcher = .returned (.error e)) :
    (∃ name, e = .lockstepAbort name ∧ s.HasFailed name) ∨
      s.IsOver ∧ ∃ name, e = .worker name "crashed" ∧ s.HasLost name := by
  refine (run.verdict starts returned).imp_left ?_
  intro head
  rcases run.named starts e (List.mem_of_mem_head? head) with ⟨-, gone⟩ | ⟨-, named⟩
  · cases (run.listening starts calm).symm.trans gone
  · exact named

/-! ## Who asks for a session -/

/-- The backend is asked by a worker whose host has not been asked to abort, and by nobody else. -/
theorem Step.opens {e : Event} (step : setup.Step s e s') : s'.opens = s.opens ∨
    ∃ i lane, e = .act (.worker i) ∧ s.lanes[i]? = some lane ∧ lane.worker = .connecting ∧
      lane.record.aborted = false ∧
      s'.opens = s.opens ++ [⟨s.now, setup.request s.lanes.length lane⟩] := by
  cases step with
  | work found turn =>
    cases turn with
    | ask here calm => exact .inr ⟨_, _, rfl, found, here, calm, rfl⟩
    | _ => exact .inl rfl
  | _ => exact .inl rfl

/-- **Whoever is turned away does not ask for a session**, and is not given one. -/
theorem Turn.turnedAway {i : Nat} {lane lane' : Lane} {t : State}
    (turn : setup.Turn s i lane lane' t) (agrees : lane.Agrees) (away : lane.IsTurnedAway) :
    lane'.IsTurnedAway ∧ t.opens = s.opens := by
  have asked := turn.edits.aborted away.asked
  have unserved := away.unserved
  unfold Lane.Agrees at agrees
  cases turn with
  | start here =>
    rw [here] at agrees
    have phase : (lane.advance s.now .connecting).record.phase = .connecting :=
      lane.advance_phase s.now (by rw [agrees.1]; rfl)
    exact ⟨⟨asked, rfl, by rw [Lane.moveTo_record, phase]; decide⟩, rfl⟩
  | fail here =>
    rw [here] at agrees
    have phase : (lane.advance s.now .failed).record.phase = .failed :=
      lane.advance_phase s.now (Phase.canAdvance_failed agrees.1)
    exact ⟨⟨asked, rfl, by rw [Lane.moveTo_record, phase]; decide⟩, rfl⟩
  | ask _ calm =>
    rw [away.asked] at calm
    cases calm
  | skip | note | defer | claim | signal | signalled | aborted | raise =>
    exact ⟨⟨asked, rfl, away.unopened⟩, rfl⟩
  | tell =>
    refine ⟨⟨asked, ?_, away.unopened⟩, rfl⟩
    rw [Lane.moveTo_worker]
    split <;> rfl
  | abort =>
    refine ⟨⟨asked, rfl, ?_⟩, rfl⟩
    rw [Lane.moveTo_record]
    split <;> exact away.unopened
  | @leave crashed here | @announce crashed here =>
    rw [here] at unserved
    cases crashed with
    | false => exact ⟨⟨asked, rfl, away.unopened⟩, rfl⟩
    | true => cases unserved
  | _ =>
    rw [‹lane.worker = _›] at unserved
    cases unserved

/-- **A host that is asked to abort in time never gets a session**, in no run that follows. -/
theorem Run.turned_away {dispatch : Dispatch} {i : Nat} {lane : Lane}
    (starts : dispatch.Starts setup s₀) (first : setup.Run s₀ past s)
    (found : s.lanes[i]? = some lane) (away : lane.IsTurnedAway) (second : setup.Run s later s') :
    (∀ moment ∈ later, moment.event = .act (.worker i) →
      moment.after.opens = moment.before.opens) ∧
    ∃ lane', s'.lanes[i]? = some lane' ∧ lane'.IsTurnedAway := by
  induction second with
  | nil => exact ⟨fun _ among => absurd among List.not_mem_nil, lane, found, away⟩
  | @snoc later u u' e run step ih =>
    obtain ⟨kept, before, there, away⟩ := ih
    have agrees := (first.append run).agrees starts there
    have step := step?_step step
    obtain ⟨after, found', passage⟩ := step.lane ((first.append run).orderly starts) there
    have last : (e = .act (.worker i) → u'.opens = u.opens) ∧ after.IsTurnedAway := by
      cases passage with
      | turn own turn same =>
        subst same
        obtain ⟨away', opens⟩ := turn.turnedAway agrees away
        exact ⟨fun _ => opens, away'⟩
      | same rests => exact ⟨fun own => absurd own rests, away⟩
      | asked rests => exact ⟨fun own => absurd own rests, rfl, away.unserved, away.unopened⟩
      | granted rests => exact ⟨fun own => absurd own rests, away.asked, rfl, away.unopened⟩
    refine ⟨?_, after, found', last.2⟩
    intro moment among
    rcases List.mem_append.mp among with earlier | now
    · exact kept moment earlier
    · obtain rfl := List.mem_singleton.mp now
      exact last.1

/-- Once there is a fault in the queue the backend is not asked any more. -/
theorem Run.opens_frozen {dispatch : Dispatch} {moment : Moment} (run : setup.Run s₀ past s)
    (starts : dispatch.Starts setup s₀) (among : moment ∈ past)
    (queued : moment.before.fatal ≠ []) : moment.after.opens = moment.before.opens := by
  obtain ⟨earlier, -, first, step, -, -⟩ := run.split among
  refine step.opens.resolve_right ?_
  rintro ⟨i, lane, -, found, -, calm, -⟩
  have inside := (List.getElem?_eq_some_iff.mp found).1
  rw [(first.alarmed starts).fatal queued i lane inside found] at calm
  cases calm

/-- Before a fault is put into the queue all hosts have been asked to abort. -/
theorem Run.asked_first {dispatch : Dispatch} {moment : Moment} (run : setup.Run s₀ past s)
    (starts : dispatch.Starts setup s₀) (among : moment ∈ past)
    (told : moment.after.fatal ≠ moment.before.fatal) :
    moment.before.Asked moment.before.lanes.length := by
  obtain ⟨earlier, -, first, step, -, -⟩ := run.split among
  cases step.queues with
  | same queue => exact absurd queue told
  | fleet _ found here _ => exact (first.alarmed starts).raising _ _ found here
  | user here past _ _ => exact ((first.alarmed starts).interrupter _ here).mono past

/-! ## A failure comes to the dispatcher -/

/-- A worker that is to tell the dispatcher does so, or is closer to it after each turn. -/
theorem Turn.untold {i : Nat} {lane lane' : Lane} {t : State} (turn : setup.Turn s i lane lane' t)
    (lockstep : setup.backend.lockstep = true)
    (alerts : lane.worker.takesDown = true ∨ lane.worker.hasNews = true ∧ s.fleetAborted = false) :
    t.fatal ≠ [] ∨ lane'.worker.untold s.lanes.length < lane.worker.untold s.lanes.length ∧
      (lane'.worker.takesDown = true ∨ lane'.worker.hasNews = true ∧ t.fleetAborted = false) := by
  cases turn with
  | tell here =>
    rw [here] at alerts ⊢
    rw [Lane.moveTo_worker, if_pos lockstep]
    exact .inr ⟨Nat.lt_succ_self _, .inr ⟨rfl, (alerts.resolve_left Bool.false_ne_true).2⟩⟩
  | defer here taken =>
    rw [here, taken] at alerts
    cases alerts with
    | inl no => cases no
    | inr no => cases no.2
  | claim here =>
    rw [here]
    exact .inr ⟨by simp only [Lane.moveTo, Worker.untold]; omega, .inl rfl⟩
  | signal here found =>
    have inside := (List.getElem?_eq_some_iff.mp found).1
    rw [here]
    exact .inr ⟨by simp only [Lane.moveTo, Worker.untold]; omega, .inl rfl⟩
  | signalled here | abort here | aborted here =>
    rw [here]
    exact .inr ⟨by simp only [Lane.moveTo, Worker.untold]; omega, .inl rfl⟩
  | raise => exact .inl (List.append_ne_nil_of_right_ne_nil _ (List.cons_ne_nil _ _))
  | _ =>
    rw [‹lane.worker = _›] at alerts
    cases alerts with
    | inl no => cases no
    | inr no => cases no.1

/-- Whoever sets the flag goes on to take the run down. -/
theorem Step.claims {e : Event} (step : setup.Step s e s') (free : s.fleetAborted = false)
    (taken : s'.fleetAborted = true) :
    ∃ (i : Nat) (lane : Lane), s'.lanes[i]? = some lane ∧ lane.worker = .signalling 0 := by
  cases step with
  | @work i lane lane' t found turn =>
    have after := turn.lane found
    cases turn with
    | claim => exact ⟨i, _, after, rfl⟩
    | _ => cases free.symm.trans taken
  | _ => cases free.symm.trans taken

theorem Step.alerts {e : Event} {i left : Nat} (step : setup.Step s e s') (orderly : s.Orderly)
    (lockstep : setup.backend.lockstep = true) (alerts : s.Alerts i left) : s'.fatal ≠ [] ∨
      ∃ left' j, s'.Alerts j left' ∧
        (left' < left ∨ left' = left ∧ j = i ∧ e ≠ .act (.worker i)) := by
  obtain ⟨lane, found, rfl, alerts⟩ := alerts
  obtain ⟨lane', found', passage⟩ := step.lane orderly found
  have length := step.length
  -- while the worker rests, another may set the flag before it, and tells the dispatcher sooner
  have rested (rests : e ≠ .act (.worker i)) (same : lane'.worker = lane.worker) :
      ∃ left' j, s'.Alerts j left' ∧ (left' < lane.worker.untold s.lanes.length ∨
        left' = lane.worker.untold s.lanes.length ∧ j = i ∧ e ≠ .act (.worker i)) := by
    have stays : s'.Alerts i (lane.worker.untold s.lanes.length) ∨
        lane.worker.hasNews = true ∧ s.fleetAborted = false ∧ s'.fleetAborted = true := by
      rcases alerts with takes | ⟨news, free⟩
      · exact .inl ⟨lane', found', by rw [same, length], .inl (same ▸ takes)⟩
      · cases taken : s'.fleetAborted with
        | false => exact .inl ⟨lane', found', by rw [same, length], .inr ⟨same ▸ news, taken⟩⟩
        | true => exact .inr ⟨news, free, rfl⟩
    rcases stays with alerts' | ⟨news, free, taken⟩
    · exact ⟨_, i, alerts', .inr ⟨rfl, rfl, rests⟩⟩
    · obtain ⟨j, other, there, here⟩ := step.claims free taken
      refine ⟨_, j, ⟨other, there, rfl, .inl (by rw [here]; rfl)⟩, .inl ?_⟩
      rw [here, length]
      exact Worker.untold_of_hasNews news
  cases passage with
  | turn own turn after =>
    subst after
    refine (turn.untold lockstep alerts).imp_right ?_
    rintro ⟨closer, alerts'⟩
    exact ⟨_, i, ⟨lane', found', by rw [length], alerts'⟩, .inl closer⟩
  | same rests => exact .inr (rested rests rfl)
  | asked rests => exact .inr (rested rests rfl)
  | granted rests idle =>
    rw [idle] at alerts
    cases alerts with
    | inl no => cases no
    | inr no => cases no.1

/-- A worker that is to tell the dispatcher does not have to wait. -/
theorem alerts_able {i left : Nat} (alerts : s.Alerts i left) :
    (setup.step? s (.act (.worker i))).isSome = true := by
  obtain ⟨lane, found, -, alerts⟩ := alerts
  show (setup.workerStep? s i).isSome = true
  unfold workerStep?
  rw [found, Option.bind_some]
  cases here : lane.worker with
  | telling | raising => rfl
  | claiming => by_cases taken : s.fleetAborted = true <;> simp [taken]
  | signalling next => cases there : s.lanes[next]? <;> simp only [there] <;> rfl
  | aborting next => by_cases bound : next < s.lanes.length <;> simp [bound]
  | _ =>
    rw [here] at alerts
    cases alerts with
    | inl no => cases no
    | inr no => cases no.1

/-- Where a host has failed and the dispatcher does not know, a worker is to tell it. -/
theorem Run.alerted {dispatch : Dispatch} {name : String} (run : setup.Run s₀ past s)
    (starts : dispatch.Starts setup s₀) (lockstep : setup.backend.lockstep = true)
    (failed : s.HasFailed name) (quiet : s.fatal = []) : ∃ i left, s.Alerts i left := by
  obtain ⟨i, lane, found, phase, -⟩ := failed
  cases flag : s.fleetAborted with
  | false =>
    have news := (run.heard starts lockstep i lane found phase).resolve_right
      (Bool.eq_false_iff.mp flag)
    exact ⟨i, _, lane, found, rfl, .inr ⟨news, flag⟩⟩
  | true =>
    -- the flag is set and nothing has been told, so one worker is about it
    have balance := run.balance starts
    have none : s.alarms = 0 := by rw [State.alarms, quiet]; rfl
    rw [flag, none] at balance
    obtain ⟨worker, among, takes⟩ :=
      List.countP_pos_iff.mp (Nat.lt_of_lt_of_eq Nat.zero_lt_one balance.symm)
    obtain ⟨other, there, rfl⟩ := List.mem_map.mp among
    obtain ⟨j, found⟩ := List.mem_iff_getElem?.mp there
    exact ⟨j, _, other, found, rfl, .inl takes⟩

/-- **In a fair course the dispatcher is told of the failure of a host.** -/
theorem Unending.Fair.tells {dispatch : Dispatch} {course : setup.Unending s} {name : String}
    (starts : dispatch.Starts setup s₀) (run : setup.Run s₀ past s) (fair : course.Fair)
    (lockstep : setup.backend.lockstep = true) (failed : s.HasFailed name) :
    ∃ m, (course.state m).fatal ≠ [] := by
  by_cases queued : s.fatal = []
  · obtain ⟨i, left, alerts⟩ := run.alerted starts lockstep failed queued
    -- who is to tell changes hands when another worker takes the run down first
    suffices ∃ m, 0 ≤ m ∧ (course.state m).fatal ≠ [] from this.imp fun _ told => told.2
    refine fair.reaches (fun m left actor =>
      ∃ i, actor = .worker i ∧ (course.state m).Alerts i left) ?_ ?_
      ⟨i, rfl, course.begins.symm ▸ alerts⟩
    · rintro m left actor ⟨i, rfl, alerts⟩
      exact alerts_able alerts
    · rintro m left actor ⟨i, rfl, alerts⟩
      have orderly := (run.append (course.run m)).orderly starts
      refine ((step?_step (course.step m)).alerts orderly lockstep alerts).imp_right ?_
      rintro ⟨left', j, alerts', closer⟩
      refine ⟨left', .worker j, ⟨j, rfl, alerts'⟩, closer.imp_right ?_⟩
      rintro ⟨same, rfl, rests⟩
      exact ⟨same, rfl, rests⟩
  · exact ⟨0, course.begins.symm ▸ queued⟩

/-- **In a fair course the failure of a host ends the run with a fault.** -/
theorem Unending.Fair.fails {dispatch : Dispatch} {course : setup.Unending s} {name : String}
    (starts : dispatch.Starts setup s₀) (run : setup.Run s₀ past s) (fair : course.Fair)
    (lockstep : setup.backend.lockstep = true) (failed : s.HasFailed name) :
    ∃ m e, (course.state m).dispatcher = .returned (.error e) := by
  have reaches (m : Nat) : setup.Run s₀ (past ++ course.past m) (course.state m) :=
    run.append (course.run m)
  have stays (m : Nat) : (course.state m).HasFailed name := by
    induction m with
    | zero => exact course.begins.symm ▸ failed
    | succ m ih => exact (step?_step (course.step m)).hasFailed ((reaches m).orderly starts) ih
  obtain ⟨m, queued⟩ := fair.tells starts run lockstep failed
  cases here : (course.state m).dispatcher with
  | returned result =>
    cases result with
    | error e => exact ⟨m, e, here⟩
    | ok =>
      obtain ⟨i, lane, found, phase, -⟩ := stays m
      cases phase.symm.trans ((reaches m).all_done starts lockstep here found)
  | _ =>
    have running : (course.state m).dispatcher.hasReturned = false := by rw [here]; rfl
    obtain ⟨m', -, e, returned⟩ := fair.returns starts run queued running
    exact ⟨m', e, returned⟩

/-! ## All or nothing -/

/-- **All or nothing**: what comes of a run where all hosts have to succeed, in every order of its
events without a user interrupt.

The dispatcher returns without a fault only if all hosts are done. A fault that it returns names a
host that has failed, or a host whose worker crashed, and then all workers are over. At most one
worker ever tells of a failed host, and every host has been asked to abort before it does. A host
that was asked to abort before its worker asked for a session never gets one; so with a fault in the
queue the backend is not asked any more, whomever the dispatcher still admits. And once a host has
failed, a fair course that goes on without interrupts comes to such a fault. -/
theorem Run.all_or_nothing {dispatch : Dispatch} (starts : dispatch.Starts setup s₀)
    (run : setup.Run s₀ past s) (lockstep : setup.backend.lockstep = true)
    (calm : ∀ moment ∈ past, moment.event ≠ .interrupt) :
    (s.dispatcher = .returned (.ok ()) → ∀ lane ∈ s.lanes, lane.record.phase = .done) ∧
    (∀ e, s.dispatcher = .returned (.error e) →
      (∃ name, e = .lockstepAbort name ∧ s.HasFailed name) ∨
        s.IsOver ∧ ∃ name, e = .worker name "crashed" ∧ s.HasLost name) ∧
    s.fatal.countP DispatchError.isLockstepAbort ≤ 1 ∧
    (∀ moment ∈ past, moment.after.fatal ≠ moment.before.fatal →
      ∀ lane ∈ moment.before.lanes, lane.record.aborted = true) ∧
    (∀ moment ∈ past, moment.before.fatal ≠ [] → moment.after.opens = moment.before.opens) ∧
    (∀ (i : Nat) (lane : Lane), s.lanes[i]? = some lane → lane.record.aborted = true →
      lane.worker = .waiting ∨ lane.worker = .admitted ∨ lane.worker = .connecting →
      ∀ later s', setup.Run s later s' →
        (∀ moment ∈ later, moment.event = .act (.worker i) →
          moment.after.opens = moment.before.opens) ∧
        ∀ lane', s'.lanes[i]? = some lane' →
          lane'.record.phase ≠ .executing ∧ lane'.record.phase ≠ .done) ∧
    ∀ name, s.HasFailed name → ∀ course : setup.Unending s, course.Fair →
      (∀ n, course.event n ≠ .interrupt) → ∃ m e,
        (course.state m).dispatcher = .returned (.error e) ∧
        ((∃ name, e = .lockstepAbort name ∧ (course.state m).HasFailed name) ∨
          (course.state m).IsOver ∧ ∃ name, e = .worker name "crashed" ∧
            (course.state m).HasLost name) := by
  refine ⟨?_, ?_, ?_, ?_, ?_, ?_, ?_⟩
  · intro ended lane among
    obtain ⟨i, found⟩ := List.mem_iff_getElem?.mp among
    exact run.all_done starts lockstep ended found
  · intro e returned
    exact run.takenDown starts calm returned
  · have balance := run.balance starts
    have most : s.fleetAborted.toNat ≤ 1 := Bool.toNat_le _
    exact Nat.le_trans (Nat.le_add_left ..) (Nat.le_trans (Nat.le_of_eq balance) most)
  · intro moment within told lane among
    obtain ⟨i, found⟩ := List.mem_iff_getElem?.mp among
    exact run.asked_first starts within told i lane (List.getElem?_eq_some_iff.mp found).1 found
  · intro moment within queued
    exact run.opens_frozen starts within queued
  · intro i lane found asked early later s' second
    have away := (run.agrees starts found).isTurnedAway asked early
    obtain ⟨kept, lane', found', away'⟩ := Run.turned_away starts run found away second
    refine ⟨kept, fun other there => ?_⟩
    obtain rfl := Option.some.inj (found'.symm.trans there)
    exact away'.unopened
  · intro name failed course fair quiet
    obtain ⟨m, e, returned⟩ := fair.fails starts run lockstep failed
    refine ⟨m, e, returned, (run.append (course.run m)).takenDown starts ?_ returned⟩
    intro moment among
    rcases List.mem_append.mp among with before | after
    · exact calm moment before
    · exact course.forall_past (P := (· ≠ .interrupt)) quiet m moment after

end Setup

/-! ## A run -/

/-- The dispatch where all hosts have to succeed. -/
def Dispatch.inLockstep (dispatch : Dispatch) : Dispatch :=
  { dispatch with backend := { dispatch.backend with lockstep := true } }

namespace Preparation

/-- Preparing does not depend on whether all hosts have to succeed. -/
theorem lanesFrom_lockstep (backend : Backend) (options : Options) (source : CommandSource)
    (nhosts : Nat) : ∀ (rank : Nat) (targets : TargetList),
      lanesFrom { backend with lockstep := true } options source nhosts rank targets
        = lanesFrom backend options source nhosts rank targets
  | _, [] => rfl
  | rank, host :: rest => by
    rw [lanesFrom, lanesFrom, lanesFrom_lockstep]
    rfl

theorem make_lockstep (backend : Backend) (options : Options) (fs : FileSystem) (payload : Payload)
    (targets : TargetList) :
    make { backend with lockstep := true } options fs payload targets
      = make backend options fs payload targets := by
  simp only [make, lanesFrom_lockstep]

end Preparation

theorem Dispatch.inLockstep_starts (script : String → Attempt) (options : Options) (name : String)
    (rest : List String) : (Dispatch.ofScript script (name :: rest) options).inLockstep.Starts
      ((Dispatch.ofScript script (name :: rest) options).inLockstep.setup none)
      (.start options (Dispatch.ofScript.lanes options 0 (name :: rest)) {}) :=
  @Dispatch.Starts.intro (Dispatch.ofScript script (name :: rest) options).inLockstep _ <|
    (Preparation.make_lockstep ..).trans (Dispatch.ofScript.prepared script options name rest)

namespace Setup

/-- Two hosts that both have to succeed, of which the first has no route. -/
def allOrNothing : Dispatch :=
  (Dispatch.ofScript (fun name => if name = "a" then ⟨some 0, .refused (.connect "no route")⟩
    else ⟨none, .crash⟩) ["a", "b"] { localUser := "u" }).inLockstep

/-- The first host fails while the second is about to ask for its session: the fault names the
first, and the second never gets its session. -/
theorem Run.all_or_nothing_noRoute :
    ∃ setup s₀ past s, allOrNothing.Starts setup s₀ ∧ setup.Run s₀ past s ∧
      setup.backend.lockstep = true ∧ (∀ moment ∈ past, moment.event ≠ .interrupt) ∧
      s.dispatcher = .returned (.error (.lockstepAbort "a")) ∧ s.HasFailed "a" ∧
      s.fatal.countP DispatchError.isLockstepAbort = 1 ∧
      ∀ later s', setup.Run s later s' → ∀ lane', s'.lanes[1]? = some lane' →
        lane'.record.phase ≠ .executing ∧ lane'.record.phase ≠ .done := by
  have starts : allOrNothing.Starts _ _ := Dispatch.inLockstep_starts _ _ "a" ["b"]
  obtain ⟨past, run, events⟩ := starts.run.further
    ([.act .dispatcher, .act .dispatcher, .act .dispatcher, .act .dispatcher, .act (.worker 1)]
      ++ List.replicate 14 (.act (.worker 0)) ++ [.act .dispatcher]) rfl
  have calm : ∀ moment ∈ past, moment.event ≠ .interrupt :=
    Moment.event_ne (by rw [events]; decide)
  obtain ⟨-, fault, -, -, -, away, -⟩ := all_or_nothing starts run rfl calm
  obtain ⟨name, same, failed⟩ | ⟨-, name, same, -⟩ := fault _ rfl
  case inr => cases same
  obtain rfl := DispatchError.lockstepAbort.inj same
  refine ⟨_, _, past, _, starts, run, rfl, calm, rfl, failed, rfl, ?_⟩
  intro later s' second
  exact (away 1 _ rfl rfl (.inr (.inr rfl)) later s' second).2

/-! ## What it leaves open -/

/-- Two hosts that both have to succeed, with what their sessions come to. -/
def together (first second : Opening) : Dispatch :=
  (Dispatch.ofScript (fun name => if name = "a" then ⟨some 0, first⟩ else ⟨some 0, second⟩)
    ["a", "b"] { localUser := "u" }).inLockstep

/-- What happens to two hosts that both have to succeed, up to a state and from it on, without
interrupts. -/
structure Together (first second : Opening) (t s : State) : Prop where
  run : ∃ setup s₀ earlier later, (together first second).Starts setup s₀ ∧
    setup.Run s₀ earlier t ∧ setup.Run t later s ∧
    ∀ moment ∈ earlier ++ later, moment.event ≠ .interrupt
  lockstep : (together first second).backend.lockstep = true

/-- It is enough to list the events. -/
private theorem together_of_events {first second : Opening} {t s : State} (before after : List Event)
    (reaches : ((together first second).setup none).replay?
      (.start { localUser := "u" } (Dispatch.ofScript.lanes { localUser := "u" } 0 ["a", "b"]) {})
      before = some t)
    (goes : ((together first second).setup none).replay? t after = some s)
    (calm : .interrupt ∉ before ++ after) : Together first second t s := by
  have starts : (together first second).Starts _ _ := Dispatch.inLockstep_starts _ _ "a" ["b"]
  obtain ⟨earlier, run, early⟩ := starts.run.further before reaches
  obtain ⟨later, on, late⟩ := run.further after goes
  refine ⟨⟨_, _, earlier, later, starts, run, on, Moment.event_ne ?_⟩, rfl⟩
  rwa [List.map_append, early, late]

/-- **A crash hides a failure, and a failure comes late to a host that is admitted after it.**

Where one worker crashes and another fails its host, the fault can be that of the crash: the
dispatcher looks at the queue just before the other worker tells it, and finds the crash once it has
waited for all. A crash alone takes nobody down. And a host that gets its slot when another has
failed already gets its session as well, if it asks before it is asked to abort. -/
theorem all_or_nothing_fails :
    (∃ t s, Together .crash (.refused (.connect "no route")) t s ∧ t.HasFailed "b" ∧
      t.fatal = [] ∧ s.dispatcher = .returned (.error (.worker "a" "crashed"))) ∧
    (∃ t s, Together .crash (.session { stdout := ⟨[], .closed 0⟩ }) t s ∧
      t.lanes.map Lane.worker = [.gone true, .opened 0 { stdout := ⟨[], .closed 0⟩ }] ∧
      s.dispatcher = .returned (.error (.worker "a" "crashed")) ∧
      s.records.map Record.phase = [.connecting, .done] ∧
      s.records.map Record.aborted = [false, false]) ∧
    ∃ t s, Together (.refused (.connect "no route")) (.session { stdout := ⟨[], .closed 0⟩ }) t s ∧
      t.HasFailed "a" ∧ t.lanes[1]?.map Lane.worker = some .waiting ∧
      s.records.map Record.phase = [.failed, .executing] := by
  refine ⟨?_, ?_, ?_⟩
  · -- the dispatcher has looked at the queue, then the second worker tells it and is over
    refine ⟨_, _, together_of_events
      (List.replicate 4 (.act .dispatcher) ++ List.replicate 5 (.act (.worker 0)) ++
        List.replicate 13 (.act (.worker 1)) ++ [.act .dispatcher])
      (List.replicate 3 (.act (.worker 1)) ++ List.replicate 2 (.act .dispatcher))
      rfl rfl (by decide), ⟨1, _, rfl, rfl, rfl⟩, rfl, rfl⟩
  · refine ⟨_, _, together_of_events
      (List.replicate 4 (.act .dispatcher) ++ List.replicate 5 (.act (.worker 0)) ++
        List.replicate 3 (.act (.worker 1)))
      (List.replicate 8 (.act (.worker 1)) ++ List.replicate 3 (.act .dispatcher))
      rfl rfl (by decide), rfl, rfl, rfl, rfl⟩
  · refine ⟨_, _, together_of_events
      (List.replicate 2 (.act .dispatcher) ++ List.replicate 6 (.act (.worker 0)))
      (List.replicate 2 (.act .dispatcher) ++ List.replicate 4 (.act (.worker 1)))
      rfl rfl (by decide), ⟨0, _, rfl, rfl, rfl⟩, rfl, rfl⟩

end Setup

end Fleet
