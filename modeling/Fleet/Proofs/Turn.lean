import Fleet.Dispatch

/-!
# What one step does

`Setup.step?` computes the next state. Proofs about runs do not open it: they use `Setup.Step`,
which lists everything that can happen in one event, and `Setup.Turn`, which lists everything that
a worker can do. Each case names the guard under which it happens and the state that comes of it.

A turn is told in two parts: what the worker's own lane becomes, and what the rest of the state
becomes. A worker replaces its own lane and no other; the one thing it can do to another host is to
ask it to abort.

**The law** (`step?_step`): whatever `step?` gives is one of these cases. `Step.lane` reads from it
what an event can do to the lane of one host.
-/

namespace Fleet

namespace Lane

/-- The lane with its host asked to abort. -/
def abort (lane : Lane) : Lane := { lane with record := lane.record.abort }

/-- The lane when its worker takes up a session. -/
def attach (lane : Lane) (plan : SessionPlan) (worker : Worker) : Lane :=
  { lane with
    record := match plan.backchannel with
      | some backchannel => lane.record.setBackchannel backchannel
      | none => lane.record
    worker }

section Attach

variable (lane : Lane) (plan : SessionPlan) (worker : Worker)

@[simp] theorem attach_phase : (lane.attach plan worker).record.phase = lane.record.phase := by
  unfold attach
  cases plan.backchannel <;> rfl

@[simp] theorem attach_failure :
    (lane.attach plan worker).record.failure = lane.record.failure := by
  unfold attach
  cases plan.backchannel <;> rfl

end Attach

@[simp] theorem abort_worker (lane : Lane) : lane.abort.worker = lane.worker := rfl

@[simp] theorem moveTo_worker (lane : Lane) (worker : Worker) :
    (lane.moveTo worker).worker = worker := rfl

@[simp] theorem moveTo_record (lane : Lane) (worker : Worker) :
    (lane.moveTo worker).record = lane.record := rfl

end Lane

namespace State

/-- The state with the lane of a host replaced. -/
def putLane (s : State) (i : Nat) (lane : Lane) : State := { s with lanes := s.lanes.set i lane }

/-- The state after a warning about a host was passed on, if there was one. -/
def warn (s : State) (lane : Lane) (warning : Option String) : State :=
  { s with console := match warning with
    | some text => s.console.diagnostic s.now (lane.remark text)
    | none => s.console }

theorem modifyLane_eq_putLane {s : State} {i : Nat} {lane : Lane}
    (found : s.lanes[i]? = some lane) (f : Lane → Lane) :
    s.modifyLane i f = s.putLane i (f lane) := by
  have bound := (List.getElem?_eq_some_iff.mp found).1
  have same : s.lanes.modify i f = s.lanes.set i (f lane) := by
    apply List.ext_getElem?
    intro j
    rw [List.getElem?_modify]
    by_cases own : i = j
    · subst own
      rw [found, List.getElem?_set_self bound]
      simp
    · simp [own]
  rw [modifyLane, putLane, same]

theorem moveWorker_eq_putLane {s : State} {i : Nat} {lane : Lane}
    (found : s.lanes[i]? = some lane) (worker : Worker) :
    s.moveWorker i worker = s.putLane i (lane.moveTo worker) :=
  modifyLane_eq_putLane found _

theorem putLane_lane {s : State} {i : Nat} {lane : Lane} (found : s.lanes[i]? = some lane)
    (new : Lane) : (s.putLane i new).lanes[i]? = some new := by
  have bound := (List.getElem?_eq_some_iff.mp found).1
  simp only [putLane, List.getElem?_set_self bound]

theorem putLane_lane_ne (s : State) {i j : Nat} (other : i ≠ j) (new : Lane) :
    (s.putLane i new).lanes[j]? = s.lanes[j]? := by
  simp only [putLane, List.getElem?_set_ne other]

theorem abortHost_lane (s : State) (i j : Nat) :
    (s.abortHost i).lanes[j]? = s.lanes[j]?.map fun lane => if i = j then lane.abort else lane := by
  simp only [abortHost, modifyLane, List.getElem?_modify]
  split <;> rfl

end State

namespace Setup

/-- `setup.Turn s i lane lane' t`: the worker of host `i`, whose lane is `lane`, can take a step
after which its lane is `lane'` and all else is as in `t`. -/
inductive Turn (setup : Setup) (s : State) (i : Nat) (lane : Lane) : Lane → State → Prop where
  /-- It got its slot and begins. -/
  | start (here : lane.worker = .admitted) :
      Turn setup s i lane ((lane.advance s.now .connecting).moveTo .connecting) s
  /-- It is to abort before it asked for a session. -/
  | skip (here : lane.worker = .connecting) (asked : lane.record.aborted = true) :
      Turn setup s i lane (lane.moveTo (.failing (.interrupted .connecting))) s
  /-- It asks for a session. -/
  | ask (here : lane.worker = .connecting) (calm : lane.record.aborted = false) :
      Turn setup s i lane
        (lane.moveTo (.opening s.now (setup.backend.attempt (setup.history s)
          (setup.request s.lanes.length lane))))
        { s with opens := s.opens ++ [⟨s.now, setup.request s.lanes.length lane⟩] }
  /-- It is to abort while its session is being opened. -/
  | giveUp {since : Time} {attempt : Attempt} (here : lane.worker = .opening since attempt)
      (asked : lane.record.aborted = true) :
      Turn setup s i lane (lane.moveTo (.failing (.interrupted .connecting))) s
  /-- It gets no session. -/
  | refused {since delay : Time} {attempt : Attempt} {e : HostError}
      (here : lane.worker = .opening since attempt) (calm : lane.record.aborted = false)
      (answer : attempt.delay = some delay) (due : since + delay ≤ s.now)
      (result : attempt.opening = .refused e) :
      Turn setup s i lane (lane.moveTo (.failing e)) s
  | crash {since delay : Time} {attempt : Attempt} (here : lane.worker = .opening since attempt)
      (calm : lane.record.aborted = false) (answer : attempt.delay = some delay)
      (due : since + delay ≤ s.now) (result : attempt.opening = .crash) :
      Turn setup s i lane (lane.moveTo (.leaving true)) s
  /-- It gets a session. -/
  | opened {since delay : Time} {attempt : Attempt} {plan : SessionPlan}
      (here : lane.worker = .opening since attempt) (calm : lane.record.aborted = false)
      (answer : attempt.delay = some delay) (due : since + delay ≤ s.now)
      (result : attempt.opening = .session plan) :
      Turn setup s i lane (lane.moveTo (.opened (since + delay) plan)) s
  /-- It notes that its session is open. -/
  | connect {since : Time} {plan : SessionPlan} (here : lane.worker = .opened since plan) :
      Turn setup s i lane ((lane.advance s.now .executing).moveTo (.attaching since plan)) s
  /-- It takes up its session. -/
  | attach {since : Time} {plan : SessionPlan} (here : lane.worker = .attaching since plan) :
      Turn setup s i lane (lane.attach plan (setup.firstWork since plan)) s
  /-- It is to abort while it waits for an acknowledgement. -/
  | stopSending {work : Sending} {err : Option LineReader} {ending : SessionEnd}
      (here : lane.worker = .sending false work err ending) (asked : lane.record.aborted = true) :
      Turn setup s i lane (lane.moveTo (.failing (.interrupted .executing))) s
  /-- It sends a group. -/
  | send {busy : Bool} {work next : Sending} {err : Option LineReader} {ending : SessionEnd}
      {warning : Option String} (here : lane.worker = .sending busy work err ending)
      (goes : busy = true ∨ lane.record.aborted = false)
      (result : work.poll setup.fs s.now = .advanced warning next) :
      Turn setup s i lane
        { lane with received := next.sink.written, worker := .sending true next err ending }
        (s.warn lane warning)
  /-- It has sent everything. -/
  | sent {busy : Bool} {work : Sending} {err : Option LineReader} {ending : SessionEnd}
      {warning : Option String} {rest : LineReader} {sink : Sink}
      (here : lane.worker = .sending busy work err ending)
      (goes : busy = true ∨ lane.record.aborted = false)
      (result : work.poll setup.fs s.now = .finished warning rest sink) :
      Turn setup s i lane
        { lane with received := sink.written, worker := .relaying ⟨some rest, err⟩ ending }
        (s.warn lane warning)
  /-- Sending fails. -/
  | spoilt {busy : Bool} {work : Sending} {err : Option LineReader} {ending : SessionEnd}
      {warning : Option String} {e : HostError} {sink : Sink}
      (here : lane.worker = .sending busy work err ending)
      (goes : busy = true ∨ lane.record.aborted = false)
      (result : work.poll setup.fs s.now = .failed warning e sink) :
      Turn setup s i lane { lane with received := sink.written, worker := .failing e }
        (s.warn lane warning)
  /-- It has to wait for an acknowledgement. -/
  | pause {work next : Sending} {err : Option LineReader} {ending : SessionEnd}
      (here : lane.worker = .sending true work err ending)
      (result : work.poll setup.fs s.now = .waiting next) :
      Turn setup s i lane (lane.moveTo (.sending false next err ending)) s
  /-- It relays a line, or learns that a stream has ended. -/
  | relay {relay next : Relay} {ending : SessionEnd} {record : Record} {console : Console}
      (here : lane.worker = .relaying relay ending)
      (result : relay.poll (setup.routing lane) s.now lane.record s.console
        = .advanced record console next) :
      Turn setup s i lane { lane with record, worker := .relaying next ending } { s with console }
  /-- Both streams have ended. -/
  | relayed {relay : Relay} {ending : SessionEnd} (here : lane.worker = .relaying relay ending)
      (result : relay.poll (setup.routing lane) s.now lane.record s.console = .finished) :
      Turn setup s i lane (lane.moveTo (.reaping (s.now + ending.delay) ending.outcome)) s
  /-- Relaying fails. -/
  | cutOff {relay : Relay} {ending : SessionEnd} {record : Record} {e : HostError}
      (here : lane.worker = .relaying relay ending)
      (result : relay.poll (setup.routing lane) s.now lane.record s.console = .failed record e) :
      Turn setup s i lane { lane with record, worker := .failing e } s
  /-- Its session ended well. -/
  | reap {due : Time} {outcome : Except HostError Termination} {record : Record}
      (here : lane.worker = .reaping due outcome) (passed : due ≤ s.now)
      (result : (outcome.bind fun termination => termination.verdict lane.record) = .ok record) :
      Turn setup s i lane { lane with record, worker := .succeeding } s
  /-- Its session ended badly. -/
  | lose {due : Time} {outcome : Except HostError Termination} {e : HostError}
      (here : lane.worker = .reaping due outcome) (passed : due ≤ s.now)
      (result : (outcome.bind fun termination => termination.verdict lane.record) = .error e) :
      Turn setup s i lane (lane.moveTo (.failing e)) s
  /-- It notes its success. -/
  | succeed (here : lane.worker = .succeeding) :
      Turn setup s i lane ((lane.advance s.now .done).moveTo (.leaving false)) s
  /-- It notes why it failed. -/
  | note {e : HostError} (here : lane.worker = .failing e) :
      Turn setup s i lane
        { lane with record := lane.record.setFailure e.message, worker := .marking e } s
  /-- It notes that it failed. -/
  | fail {e : HostError} (here : lane.worker = .marking e) :
      Turn setup s i lane ((lane.advance s.now .failed).moveTo (.telling e)) s
  /-- It tells of its failure. -/
  | tell {e : HostError} (here : lane.worker = .telling e) :
      Turn setup s i lane
        (lane.moveTo (if setup.backend.lockstep then .claiming else .leaving false))
        (s.tell (lane.remark e.message))
  /-- Somebody else takes the run down already. -/
  | defer (here : lane.worker = .claiming) (taken : s.fleetAborted = true) :
      Turn setup s i lane (lane.moveTo (.leaving false)) s
  /-- It begins to take the run down. -/
  | claim (here : lane.worker = .claiming) (free : s.fleetAborted = false) :
      Turn setup s i lane (lane.moveTo (.signalling 0)) { s with fleetAborted := true }
  /-- It signals the remote side of a host. -/
  | signal {next : Nat} {other : Lane} (here : lane.worker = .signalling next)
      (found : s.lanes[next]? = some other) :
      Turn setup s i lane (lane.moveTo (.signalling (next + 1))) (s.signalHost other)
  /-- It has signalled all of them. -/
  | signalled {next : Nat} (here : lane.worker = .signalling next)
      (past : s.lanes.length ≤ next) : Turn setup s i lane (lane.moveTo (.aborting 0)) s
  /-- It asks a host to abort, which may be its own. -/
  | abort {next : Nat} (here : lane.worker = .aborting next) (bound : next < s.lanes.length) :
      Turn setup s i lane ((if next = i then lane.abort else lane).moveTo (.aborting (next + 1)))
        (s.abortHost next)
  /-- It has asked all of them. -/
  | aborted {next : Nat} (here : lane.worker = .aborting next) (past : s.lanes.length ≤ next) :
      Turn setup s i lane (lane.moveTo .raising) s
  /-- It tells the dispatcher. -/
  | raise (here : lane.worker = .raising) :
      Turn setup s i lane (lane.moveTo (.leaving false))
        (s.raise (.lockstepAbort lane.record.hostname))
  /-- It gives its slot back. -/
  | leave {crashed : Bool} (here : lane.worker = .leaving crashed) :
      Turn setup s i lane (lane.moveTo (.announcing crashed)) { s with gate := s.gate.release }
  /-- It gives notice that it did. -/
  | announce {crashed : Bool} (here : lane.worker = .announcing crashed) :
      Turn setup s i lane (lane.moveTo (.gone crashed)) { s with dispatcher := s.dispatcher.notice }

/-- What a backend answers. -/
private theorem answered_turn (setup : Setup) {s : State} {i : Nat} {lane : Lane}
    {since delay : Time} {attempt : Attempt} (found : s.lanes[i]? = some lane)
    (here : lane.worker = .opening since attempt) (calm : lane.record.aborted = false)
    (answer : attempt.delay = some delay) (due : since + delay ≤ s.now) :
    ∃ lane', setup.Turn s i lane lane' s ∧
      answered s i (since + delay) attempt.opening = s.putLane i lane' := by
  cases result : attempt.opening with
  | refused e =>
    exact ⟨_, .refused here calm answer due result, State.moveWorker_eq_putLane found _⟩
  | crash => exact ⟨_, .crash here calm answer due result, State.moveWorker_eq_putLane found _⟩
  | session plan =>
    exact ⟨_, .opened here calm answer due result, State.moveWorker_eq_putLane found _⟩

/-- A warning is passed on, and the lane goes on with what was taken as input. -/
private theorem carryOn_eq {s : State} {i : Nat} {lane : Lane} (found : s.lanes[i]? = some lane)
    (warning : Option String) (received : Bytes) (worker : Worker) :
    carryOn s i lane warning received worker
      = (s.warn lane warning).putLane i { lane with received, worker } := by
  cases warning with
  | none => exact State.modifyLane_eq_putLane found _
  | some text => exact State.modifyLane_eq_putLane (s := s.tell _) found _

/-- What a worker does that sends files. -/
private theorem send?_turn {setup : Setup} {s s' : State} {i : Nat} {lane : Lane} {busy : Bool}
    {work : Sending} {err : Option LineReader} {ending : SessionEnd}
    (found : s.lanes[i]? = some lane) (here : lane.worker = .sending busy work err ending)
    (step : setup.send? s i lane busy work err ending = some s') :
    ∃ lane' t, setup.Turn s i lane lane' t ∧ s' = t.putLane i lane' := by
  unfold send? at step
  split at step
  · next stop =>
    simp only [Bool.and_eq_true, Bool.not_eq_true'] at stop
    obtain ⟨rfl, asked⟩ := stop
    cases step
    exact ⟨_, _, .stopSending here asked, State.moveWorker_eq_putLane found _⟩
  · next keep =>
    have goes : busy = true ∨ lane.record.aborted = false := by
      cases busy <;> simp_all
    split at step
    · next warning next result =>
      cases step
      exact ⟨_, _, .send here goes result, carryOn_eq found ..⟩
    · next warning rest sink result =>
      cases step
      exact ⟨_, _, .sent here goes result, carryOn_eq found ..⟩
    · next warning e sink result =>
      cases step
      exact ⟨_, _, .spoilt here goes result, carryOn_eq found ..⟩
    · next next result =>
      cases busy with
      | false => simp at step
      | true =>
        cases step
        exact ⟨_, _, .pause here result, State.moveWorker_eq_putLane found _⟩

/-- What a worker does that relays output. -/
private theorem relay?_turn {setup : Setup} {s s' : State} {i : Nat} {lane : Lane} {relay : Relay}
    {ending : SessionEnd} (found : s.lanes[i]? = some lane)
    (here : lane.worker = .relaying relay ending)
    (step : setup.relay? s i lane relay ending = some s') :
    ∃ lane' t, setup.Turn s i lane lane' t ∧ s' = t.putLane i lane' := by
  unfold relay? at step
  split at step
  · next record console next result =>
    cases step
    refine ⟨_, _, .relay here result, ?_⟩
    rw [State.modifyLane_eq_putLane found]
    rfl
  · next result =>
    cases step
    exact ⟨_, _, .relayed here result, State.moveWorker_eq_putLane found _⟩
  · next record e result =>
    cases step
    exact ⟨_, _, .cutOff here result, State.modifyLane_eq_putLane found _⟩
  · cases step

/-- What a worker does whose session has ended. -/
private theorem reaped_turn (setup : Setup) {s : State} {i : Nat} {lane : Lane} {due : Time}
    {outcome : Except HostError Termination} (found : s.lanes[i]? = some lane)
    (here : lane.worker = .reaping due outcome) (passed : due ≤ s.now) :
    ∃ lane', setup.Turn s i lane lane' s ∧ reaped s i lane outcome = s.putLane i lane' := by
  unfold reaped
  cases result : outcome.bind fun termination => termination.verdict lane.record with
  | ok record => exact ⟨_, .reap here passed result, State.modifyLane_eq_putLane found _⟩
  | error e => exact ⟨_, .lose here passed result, State.moveWorker_eq_putLane found _⟩

/-- **Whatever a worker does is a turn.** -/
theorem workerStep?_turn {setup : Setup} {s s' : State} {i : Nat}
    (step : setup.workerStep? s i = some s') :
    ∃ lane lane' t, s.lanes[i]? = some lane ∧ setup.Turn s i lane lane' t ∧
      s' = t.putLane i lane' := by
  obtain ⟨lane, found, step⟩ := Option.bind_eq_some_iff.mp step
  have move := State.moveWorker_eq_putLane found
  have modify := State.modifyLane_eq_putLane found
  suffices ∃ lane' t, setup.Turn s i lane lane' t ∧ s' = t.putLane i lane' by
    obtain ⟨lane', t, turn⟩ := this
    exact ⟨lane, lane', t, found, turn⟩
  cases here : lane.worker with
  | waiting => simp [here] at step
  | admitted =>
    simp only [here, Option.some.injEq] at step
    exact ⟨_, _, .start here, step.symm.trans (modify _)⟩
  | connecting =>
    simp only [here] at step
    split at step
    · next asked => cases step; exact ⟨_, _, .skip here asked, move _⟩
    · next calm =>
      cases step
      refine ⟨_, _, .ask here (Bool.eq_false_iff.mpr calm), ?_⟩
      rw [ask, move]
      rfl
  | opening since attempt =>
    simp only [here] at step
    split at step
    · next asked => cases step; exact ⟨_, _, .giveUp here asked, move _⟩
    · next calm =>
      obtain ⟨delay, answer, step⟩ := Option.bind_eq_some_iff.mp step
      split at step
      · next due =>
        obtain ⟨lane', turn, same⟩ :=
          answered_turn setup found here (Bool.eq_false_iff.mpr calm) answer due
        exact ⟨lane', s, turn, (Option.some.inj step).symm.trans same⟩
      · cases step
  | opened since plan =>
    simp only [here, Option.some.injEq] at step
    exact ⟨_, _, .connect here, step.symm.trans (modify _)⟩
  | attaching since plan =>
    simp only [here, Option.some.injEq] at step
    exact ⟨_, _, .attach here, step.symm.trans (modify _)⟩
  | sending busy work err ending =>
    simp only [here] at step
    exact send?_turn found here step
  | relaying relay ending =>
    simp only [here] at step
    exact relay?_turn found here step
  | reaping due outcome =>
    simp only [here] at step
    split at step
    · next passed =>
      obtain ⟨lane', turn, same⟩ := reaped_turn setup found here passed
      exact ⟨lane', s, turn, (Option.some.inj step).symm.trans same⟩
    · cases step
  | succeeding =>
    simp only [here, Option.some.injEq] at step
    exact ⟨_, _, .succeed here, step.symm.trans (modify _)⟩
  | failing e =>
    simp only [here, Option.some.injEq] at step
    exact ⟨_, _, .note here, step.symm.trans (modify _)⟩
  | marking e =>
    simp only [here, Option.some.injEq] at step
    exact ⟨_, _, .fail here, step.symm.trans (modify _)⟩
  | telling e =>
    simp only [here, Option.some.injEq] at step
    exact ⟨_, _, .tell here, step.symm.trans (State.moveWorker_eq_putLane (s := s.tell _) found _)⟩
  | claiming =>
    simp only [here] at step
    split at step
    · next taken => cases step; exact ⟨_, _, .defer here taken, move _⟩
    · next free =>
      cases step
      refine ⟨_, _, .claim here (Bool.eq_false_iff.mpr free), ?_⟩
      rw [move]
      rfl
  | signalling next =>
    simp only [here] at step
    split at step
    · next other there =>
      cases step
      exact ⟨_, _, .signal here there, State.moveWorker_eq_putLane (s := s.signalHost _) found _⟩
    · next past =>
      cases step
      exact ⟨_, _, .signalled here (List.getElem?_eq_none_iff.mp past), move _⟩
  | aborting next =>
    simp only [here] at step
    split at step
    · next bound =>
      cases step
      have after : (s.abortHost next).lanes[i]? = some (if next = i then lane.abort else lane) := by
        rw [State.abortHost_lane, found, Option.map_some]
      exact ⟨_, _, .abort here bound, State.moveWorker_eq_putLane after _⟩
    · next past =>
      cases step
      exact ⟨_, _, .aborted here (Nat.le_of_not_lt past), move _⟩
  | raising =>
    simp only [here, Option.some.injEq] at step
    refine ⟨_, _, .raise here, step.symm.trans ?_⟩
    exact State.moveWorker_eq_putLane (s := s.raise _) found _
  | leaving crashed =>
    simp only [here, Option.some.injEq, move] at step
    exact ⟨_, _, .leave here, step.symm⟩
  | announcing crashed =>
    simp only [here, Option.some.injEq, move] at step
    exact ⟨_, _, .announce here, step.symm⟩
  | gone crashed => simp [here] at step

end Setup

end Fleet
