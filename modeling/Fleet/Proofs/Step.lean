import Fleet.Proofs.Turn
import Fleet.Proofs.Waiting

/-!
# What one event does

`Setup.Step` lists everything that can happen in one event of a run: a turn of a worker, or one of
the few things that the dispatcher, the watchdog, the task for interrupts, the user and the clock
can do. `step?_step` says that the list is complete.

Most facts about a run concern one host. `Step.own` and `Step.other` say what an event makes of the
lane of a host: its own worker takes a turn, or the lane stays as it is, but for a request to abort
and for the slot that the dispatcher gives it.
-/

namespace Fleet

namespace State

@[simp] theorem abortHost_length (s : State) (i : Nat) :
    (s.abortHost i).lanes.length = s.lanes.length := by
  simp [abortHost, modifyLane]

end State

namespace Setup

/-- `setup.Step s e s'`: the event `e` can lead from `s` to `s'`. -/
inductive Step (setup : Setup) (s : State) : Event → State → Prop where
  /-- A worker takes a turn. -/
  | work {i : Nat} {lane lane' : Lane} {t : State} (found : s.lanes[i]? = some lane)
      (turn : setup.Turn s i lane lane' t) : Step setup s (.act (.worker i)) (t.putLane i lane')
  /-- The dispatcher finds a fault in the queue. -/
  | fault {e : DispatchError} {rest : List DispatchError} (queued : s.fatal = e :: rest)
      (looks : looksAtQueue s.dispatcher = true) :
      Step setup s (.act .dispatcher) (s.finish (.error e))
  /-- The dispatcher registers for a slot. -/
  | lineUp {next : Nat} {waiting : Waiting} (here : s.dispatcher = .admitting next waiting)
      (ready : waiting = .arriving ∨ waiting = .parked true) (quiet : s.fatal = []) :
      Step setup s (.act .dispatcher) { s with dispatcher := .admitting next (.registered false) }
  /-- The dispatcher gets a slot for the next host. -/
  | grant {next : Nat} {noticed : Bool} {gate : Gate}
      (here : s.dispatcher = .admitting next (.registered noticed))
      (free : s.gate.take? = some gate) :
      Step setup s (.act .dispatcher) { s.moveWorker next .admitted with
        gate, dispatcher := .before (next + 1) s.lanes.length }
  /-- The dispatcher gets no slot. -/
  | park {next : Nat} {noticed : Bool}
      (here : s.dispatcher = .admitting next (.registered noticed))
      (full : s.gate.take? = none) :
      Step setup s (.act .dispatcher) { s with dispatcher := .admitting next (.parked noticed) }
  /-- The dispatcher registers for the end of all slots. -/
  | lineUpLast {waiting : Waiting} (here : s.dispatcher = .draining waiting)
      (ready : waiting = .arriving ∨ waiting = .parked true) (quiet : s.fatal = []) :
      Step setup s (.act .dispatcher) { s with dispatcher := .draining (.registered false) }
  /-- The dispatcher sees that all slots are free. -/
  | drain {noticed : Bool} (here : s.dispatcher = .draining (.registered noticed))
      (empty : s.gate.active = 0) :
      Step setup s (.act .dispatcher) { s with dispatcher := .joining }
  /-- The dispatcher sees that some slots are taken. -/
  | parkLast {noticed : Bool} (here : s.dispatcher = .draining (.registered noticed))
      (taken : s.gate.active ≠ 0) :
      Step setup s (.act .dispatcher) { s with dispatcher := .draining (.parked noticed) }
  /-- The dispatcher sees that all workers are over and that one has crashed. -/
  | blame {lane : Lane} (here : s.dispatcher = .joining)
      (ended : ∀ lane ∈ s.lanes, lane.worker.isGone = true)
      (found : (s.lanes.find? fun lane => lane.worker.hasCrashed) = some lane) :
      Step setup s (.act .dispatcher)
        (s.finish (.error (.worker lane.record.hostname "crashed")))
  /-- The dispatcher sees that all workers are over and that none has crashed. -/
  | join (here : s.dispatcher = .joining) (ended : ∀ lane ∈ s.lanes, lane.worker.isGone = true)
      (sound : (s.lanes.find? fun lane => lane.worker.hasCrashed) = none) :
      Step setup s (.act .dispatcher) { s with dispatcher := .checking }
  /-- The dispatcher finds no fault when it looks for the last time. -/
  | pass (here : s.dispatcher = .checking) (quiet : s.fatal = []) :
      Step setup s (.act .dispatcher) (s.finish (.ok ()))
  /-- The watchdog wakes. -/
  | wake {wake : Time} (here : s.watchdog = .asleep wake) (due : wake ≤ s.now)
      (running : s.dispatcher.hasReturned = false) :
      Step setup s (.act .watchdog) { s with watchdog := .scanning s.now 0 }
  /-- The watchdog finds a host late. -/
  | spot {began : Time} {next : Nat} {lane : Lane} (here : s.watchdog = .scanning began next)
      (found : s.lanes[next]? = some lane)
      (late : setup.options.limits.catches lane.record began = true) :
      Step setup s (.act .watchdog) { s with watchdog := .firing began next }
  /-- The watchdog leaves a host alone. -/
  | spare {began : Time} {next : Nat} {lane : Lane} (here : s.watchdog = .scanning began next)
      (found : s.lanes[next]? = some lane)
      (fine : setup.options.limits.catches lane.record began = false) :
      Step setup s (.act .watchdog) { s with watchdog := .scanning began (next + 1) }
  /-- The watchdog asks the host to abort that it found late. -/
  | fire {began : Time} {next : Nat} (here : s.watchdog = .firing began next) :
      Step setup s (.act .watchdog)
        { s.abortHost next with watchdog := .scanning began (next + 1) }
  /-- The watchdog has looked at all of them. -/
  | rest {began : Time} {next : Nat} (here : s.watchdog = .scanning began next)
      (past : s.lanes.length ≤ next) :
      Step setup s (.act .watchdog) { s with watchdog := .asleep (s.now + Watchdog.interval) }
  /-- The heading of a report is told. -/
  | head {came : Time} (here : s.interrupter = .heading came) :
      Step setup s (.act .interrupter)
        { s.tell Interrupt.reportHeading with interrupter := .surveying came 0 [] }
  /-- A record is read for a report. -/
  | survey {came : Time} {next : Nat} {lines : List String} {lane : Lane}
      (here : s.interrupter = .surveying came next lines) (found : s.lanes[next]? = some lane) :
      Step setup s (.act .interrupter) { s with
        interrupter := .surveying came (next + 1) (lines ++ (Interrupt.statusLine?
          setup.options.limits came setup.verbose lane.record).toList) }
  /-- All records are read for a report. -/
  | surveyed {came : Time} {next : Nat} {lines : List String}
      (here : s.interrupter = .surveying came next lines) (past : s.lanes.length ≤ next) :
      Step setup s (.act .interrupter) { s with interrupter := .reporting lines }
  /-- A report is over. -/
  | reported (here : s.interrupter = .reporting []) :
      Step setup s (.act .interrupter) { s with interrupter := .listening }
  /-- A line of a report is told. -/
  | report {line : String} {lines : List String}
      (here : s.interrupter = .reporting (line :: lines)) :
      Step setup s (.act .interrupter) { s.tell line with interrupter := .reporting lines }
  /-- The remote side of a host is signalled for the user. -/
  | signal {next : Nat} {other : Lane} (here : s.interrupter = .signalling next)
      (found : s.lanes[next]? = some other) :
      Step setup s (.act .interrupter)
        { s.signalHost other with interrupter := .signalling (next + 1) }
  /-- All remote sides are signalled. -/
  | signalled {next : Nat} (here : s.interrupter = .signalling next)
      (past : s.lanes.length ≤ next) :
      Step setup s (.act .interrupter) { s with interrupter := .announcing }
  /-- The end of the run is announced. -/
  | announce (here : s.interrupter = .announcing) :
      Step setup s (.act .interrupter)
        { s.tell Interrupt.terminationNotice with interrupter := .aborting 0 }
  /-- A host is asked to abort for the user. -/
  | abort {next : Nat} (here : s.interrupter = .aborting next) (bound : next < s.lanes.length) :
      Step setup s (.act .interrupter)
        { s.abortHost next with interrupter := .aborting (next + 1) }
  /-- All hosts are asked, and the dispatcher is told. -/
  | raise {next : Nat} (here : s.interrupter = .aborting next) (past : s.lanes.length ≤ next) :
      Step setup s (.act .interrupter) { s.raise .interrupted with interrupter := .gone }
  /-- An interrupt finds nobody who waits for it. -/
  | lost (busy : s.interrupter ≠ .listening ∨ s.dispatcher.hasReturned = true) :
      Step setup s .interrupt s
  /-- An interrupt asks for a report. -/
  | ask {coordinator : Interrupt.Coordinator} (here : s.interrupter = .listening)
      (running : s.dispatcher.hasReturned = false)
      (meaning : s.coordinator.handle s.now = (.report, coordinator)) :
      Step setup s .interrupt { s with coordinator, interrupter := .heading s.now }
  /-- An interrupt ends the run. -/
  | stop {coordinator : Interrupt.Coordinator} (here : s.interrupter = .listening)
      (running : s.dispatcher.hasReturned = false)
      (meaning : s.coordinator.handle s.now = (.terminate, coordinator)) :
      Step setup s .interrupt { s with coordinator, interrupter := .signalling 0 }
  /-- Time passes. -/
  | clock {time : Time} (later : s.now < time) : Step setup s (.clock time) { s with now := time }

variable {setup : Setup} {s s' : State}

/-! ## The list is complete -/

private theorem dispatch?_step (step : dispatch? s = some s')
    (quiet : looksAtQueue s.dispatcher = true → s.fatal = []) :
    setup.Step s (.act .dispatcher) s' := by
  unfold dispatch? at step
  split at step
  · next next waiting here =>
    obtain ⟨result, turn, rfl⟩ := Option.map_eq_some_iff.mp step
    cases result with
    | stands later =>
      rcases Waiting.turn?_eq_stands_iff.mp turn with ⟨ready, rfl⟩ | ⟨noticed, rfl, full, rfl⟩
      · refine .lineUp here ready (quiet ?_)
        rcases ready with rfl | rfl <;> rw [here] <;> rfl
      · exact .park here full
    | passes gate =>
      obtain ⟨noticed, rfl, free⟩ := Waiting.turn?_eq_passes_iff.mp turn
      exact .grant here free
  · next waiting here =>
    obtain ⟨result, turn, rfl⟩ := Option.map_eq_some_iff.mp step
    cases result with
    | stands later =>
      rcases Waiting.turn?_eq_stands_iff.mp turn with ⟨ready, rfl⟩ | ⟨noticed, rfl, taken, rfl⟩
      · refine .lineUpLast here ready (quiet ?_)
        rcases ready with rfl | rfl <;> rw [here] <;> rfl
      · exact .parkLast here fun empty => by cases (if_pos empty).symm.trans taken
    | passes gate =>
      obtain ⟨noticed, rfl, granted⟩ := Waiting.turn?_eq_passes_iff.mp turn
      refine .drain here (Classical.byContradiction fun taken => ?_)
      cases (if_neg taken).symm.trans granted
  · next here =>
    split at step
    · next all =>
      have ended : ∀ lane ∈ s.lanes, lane.worker.isGone = true := List.all_eq_true.mp all
      split at step
      · next lane found => cases step; exact .blame here ended found
      · next sound => cases step; exact .join here ended sound
    · cases step
  · next here =>
    cases step
    exact .pass here (quiet (by rw [here]; rfl))
  all_goals cases step

private theorem dispatcherStep?_step (step : dispatcherStep? s = some s') :
    setup.Step s (.act .dispatcher) s' := by
  unfold dispatcherStep? at step
  split at step
  · next e rest queued =>
    split at step
    · next looks => cases step; exact .fault queued looks
    · next away => exact dispatch?_step step fun looks => absurd looks away
  · next quiet => exact dispatch?_step step fun _ => quiet

private theorem watchdogStep?_step (step : setup.watchdogStep? s = some s') :
    setup.Step s (.act .watchdog) s' := by
  unfold watchdogStep? at step
  split at step
  · cases step
  · next wake here =>
    split at step
    · next ready =>
      simp only [Bool.and_eq_true, decide_eq_true_eq, Bool.not_eq_true'] at ready
      cases step
      exact .wake here ready.1 ready.2
    · cases step
  · next began next here =>
    split at step
    · next lane found =>
      split at step
      · next late => cases step; exact .spot here found late
      · next fine => cases step; exact .spare here found (Bool.eq_false_iff.mpr fine)
    · next past => cases step; exact .rest here (List.getElem?_eq_none_iff.mp past)
  · next began next here => cases step; exact .fire here

private theorem interrupterStep?_step (step : setup.interrupterStep? s = some s') :
    setup.Step s (.act .interrupter) s' := by
  unfold interrupterStep? at step
  split at step
  · cases step
  · cases step
  · next came here => cases step; exact .head here
  · next came next lines here =>
    split at step
    · next lane found => cases step; exact .survey here found
    · next past => cases step; exact .surveyed here (List.getElem?_eq_none_iff.mp past)
  · next here => cases step; exact .reported here
  · next line lines here => cases step; exact .report here
  · next next here =>
    split at step
    · next other found => cases step; exact .signal here found
    · next past => cases step; exact .signalled here (List.getElem?_eq_none_iff.mp past)
  · next here => cases step; exact .announce here
  · next next here =>
    split at step
    · next bound => cases step; exact .abort here bound
    · next past => cases step; exact .raise here (Nat.le_of_not_lt past)

private theorem interrupted_step : setup.Step s .interrupt (interrupted s) := by
  unfold interrupted
  split
  · next here =>
    split
    · next ended => exact .lost (.inr ended)
    · next running =>
      have running := Bool.eq_false_iff.mpr running
      cases meaning : s.coordinator.handle s.now with
      | mk action coordinator =>
        cases action with
        | report => exact .ask here running meaning
        | terminate => exact .stop here running meaning
  · next away => exact .lost (.inl away)

/-- **Whatever happens is in the list.** -/
theorem step?_step {e : Event} (step : setup.step? s e = some s') : setup.Step s e s' := by
  cases e with
  | act actor =>
    cases actor with
    | dispatcher => exact dispatcherStep?_step step
    | worker i =>
      obtain ⟨lane, lane', t, found, turn, rfl⟩ := workerStep?_turn step
      exact .work found turn
    | watchdog => exact watchdogStep?_step step
    | interrupter => exact interrupterStep?_step step
  | interrupt => cases step; exact interrupted_step
  | clock time =>
    simp only [step?] at step
    split at step
    · next later => cases step; exact .clock later
    · cases step

/-! ## What becomes of one lane -/

/-- A turn leaves the other lanes alone, or asks one host to abort. -/
theorem Turn.lanes_eq {i : Nat} {lane lane' : Lane} {t : State}
    (turn : setup.Turn s i lane lane' t) : t.lanes = s.lanes ∨ ∃ next, t = s.abortHost next := by
  cases turn
  case abort next _ _ => exact .inr ⟨next, rfl⟩
  all_goals exact .inl rfl

/-- What an event can make of a lane other than through a turn of its own worker. -/
inductive Change (s s' : State) (i : Nat) (lane : Lane) : Lane → Prop where
  /-- Nothing. -/
  | same : Change s s' i lane lane
  | asked : Change s s' i lane lane.abort
  /-- It gets a slot, and the dispatcher goes on to the next host. -/
  | granted {noticed : Bool} (here : s.dispatcher = .admitting i (.registered noticed))
      (after : s'.dispatcher = .before (i + 1) s.lanes.length) :
      Change s s' i lane (lane.moveTo .admitted)

/-- The worker of a host takes a turn. -/
theorem Step.own {i : Nat} (step : setup.Step s (.act (.worker i)) s') :
    ∃ lane lane' t, s.lanes[i]? = some lane ∧ setup.Turn s i lane lane' t ∧
      s' = t.putLane i lane' := by
  cases step with
  | work found turn => exact ⟨_, _, _, found, turn, rfl⟩

/-- The lane after a turn of its own worker. -/
theorem Turn.lane {i : Nat} {lane lane' : Lane} {t : State} (found : s.lanes[i]? = some lane)
    (turn : setup.Turn s i lane lane' t) : (t.putLane i lane').lanes[i]? = some lane' := by
  rcases turn.lanes_eq with same | ⟨next, rfl⟩
  · exact State.putLane_lane (by rw [same]; exact found) lane'
  · exact State.putLane_lane (by rw [State.abortHost_lane, found]; rfl) lane'

/-- Asking a host to abort changes the lane of that host at most. -/
theorem change_abortHost {i j : Nat} {lane : Lane} (found : s.lanes[i]? = some lane) :
    ∃ lane', (s.abortHost j).lanes[i]? = some lane' ∧ Change s s' i lane lane' := by
  rw [State.abortHost_lane, found, Option.map_some]
  refine ⟨_, rfl, ?_⟩
  split
  · exact .asked
  · exact .same

/-- A lane does not do more than change while its own worker rests. -/
theorem Step.other {e : Event} {i : Nat} {lane : Lane} (step : setup.Step s e s')
    (rests : e ≠ .act (.worker i)) (found : s.lanes[i]? = some lane) :
    ∃ lane', s'.lanes[i]? = some lane' ∧ Change s s' i lane lane' := by
  cases step with
  | @work j _ lane₂ t there turn =>
    have differ : j ≠ i := fun eq => rests (by rw [eq])
    rw [State.putLane_lane_ne t differ]
    rcases turn.lanes_eq with same | ⟨next, rfl⟩
    · exact ⟨lane, by rw [same]; exact found, .same⟩
    · exact change_abortHost found
  | @grant next noticed gate here free =>
    by_cases own : next = i
    · subst own
      rw [State.moveWorker_eq_putLane found]
      exact ⟨_, State.putLane_lane found _, .granted here rfl⟩
    · refine ⟨lane, ?_, .same⟩
      simpa [State.moveWorker, State.modifyLane, own] using found
  | fire here => exact change_abortHost found
  | abort here bound => exact change_abortHost found
  | _ => exact ⟨lane, found, .same⟩

/-- A turn takes no time. -/
theorem Turn.now {i : Nat} {lane lane' : Lane} {t : State} (turn : setup.Turn s i lane lane' t) :
    t.now = s.now := by
  cases turn <;> rfl

/-- Time does not run backwards. -/
theorem Step.now {e : Event} (step : setup.Step s e s') : s.now ≤ s'.now := by
  cases step with
  | work _ turn => exact Nat.le_of_eq turn.now.symm
  | clock later => exact Nat.le_of_lt later
  | _ => exact Nat.le_refl _

/-- The number of hosts does not change. -/
theorem Step.length {e : Event} (step : setup.Step s e s') :
    s'.lanes.length = s.lanes.length := by
  cases step with
  | @work i lane lane' t found turn =>
    rcases turn.lanes_eq with same | ⟨next, rfl⟩ <;> simp [State.putLane, *]
  | grant here free => simp [State.moveWorker, State.modifyLane]
  | fire here => simp
  | abort here bound => simp
  | _ => rfl

end Setup

end Fleet
