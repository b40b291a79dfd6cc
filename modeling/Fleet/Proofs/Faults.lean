import Fleet.Proofs.Ending
import Fleet.Proofs.Fairness
import Fleet.Proofs.Slots

/-!
# Faults that end a run

Two tasks put faults into the queue: a worker that takes the run down, and the task for interrupts
(`Step.queues`). The dispatcher reads the queue and leaves it as it is, so the fault that came first
stays the first, and it is what the dispatcher returns if it returns one from the queue
(`Run.verdict`). A crash is the one fault that it finds by itself, when all workers are over.

**The law** (`Unending.Fair.returns`): once there is a fault in the queue, the dispatcher of a fair
course returns a fault, wherever it stands. It may be on its way past the queue, with a slot to take
or with the workers to wait for, and then it looks there before it returns. What it waits for comes
about because all workers have left when the last slot is free (`State.Reached`).
-/

namespace Fleet

/-- Whether a fault says that a host failed in a run where all have to succeed. -/
def DispatchError.isLockstepAbort : DispatchError → Bool
  | lockstepAbort _ => true
  | _ => false

/-- Whether the worker does what workers do only where all hosts have to succeed. -/
def Worker.isInLockstep : Worker → Bool
  | claiming | signalling _ | aborting _ | raising => true
  | _ => false

/-- Whether the worker has given its slot back. -/
def Worker.hasLeft : Worker → Bool
  | announcing _ | gone _ => true
  | _ => false

/-- How many steps it takes at most, with a fault in the queue, until the dispatcher is over: its
own and those of the workers that it waits for. -/
def Dispatcher.ahead (nhosts unfinished : Nat) : Dispatcher → Nat
  | returned _ => 0
  | admitting _ (.registered _) => 2
  | draining (.registered _) => nhosts + 3
  | joining => unfinished + 2
  | _ => 1

theorem Dispatcher.ahead_notice (nhosts unfinished : Nat) (d : Dispatcher) :
    d.notice.ahead nhosts unfinished = d.ahead nhosts unfinished := by
  cases d with
  | admitting _ waiting | draining waiting => cases waiting <;> rfl
  | _ => rfl

theorem Dispatcher.ahead_of_ne_joining {d : Dispatcher} (away : d ≠ .joining)
    (nhosts unfinished unfinished' : Nat) :
    d.ahead nhosts unfinished = d.ahead nhosts unfinished' := by
  cases d with
  | joining => exact absurd rfl away
  | admitting _ waiting | draining waiting => cases waiting <;> rfl
  | _ => rfl

theorem Dispatcher.notice_ne_joining {d : Dispatcher} (away : d ≠ .joining) :
    d.notice ≠ .joining := by
  cases d with
  | joining => exact absurd rfl away
  | _ => exact Dispatcher.noConfusion

theorem Dispatcher.hasReturned_notice (d : Dispatcher) : d.notice.hasReturned = d.hasReturned := by
  cases d <;> rfl

namespace State

/-- The worker of a host of this name has crashed and is over. -/
def HasLost (s : State) (name : String) : Prop :=
  ∃ (i : Nat) (lane : Lane), s.lanes[i]? = some lane ∧ lane.worker = .gone true ∧
    lane.record.hostname = name

/-- A host of this name has failed. -/
def HasFailed (s : State) (name : String) : Prop :=
  ∃ (i : Nat) (lane : Lane), s.lanes[i]? = some lane ∧ lane.record.phase = .failed ∧
    lane.record.hostname = name

/-- Where a fault comes from with which the dispatcher is over. -/
def Justifies (s : State) : Dispatcher → Prop
  | .returned (.error e) => s.fatal.head? = some e ∨
      s.IsOver ∧ ∃ name, e = .worker name "crashed" ∧ s.HasLost name
  | _ => True

/-- The hosts before `n` have got a slot. -/
def Admitted (s : State) (n : Nat) : Prop :=
  ∀ (i : Nat) (lane : Lane), i < n → s.lanes[i]? = some lane → lane.worker ≠ .waiting

/-- All workers have given their slots back. -/
def IsLeft (s : State) : Prop :=
  ∀ (i : Nat) (lane : Lane), s.lanes[i]? = some lane → lane.worker.hasLeft = true

/-- How far the workers have come when the dispatcher has come so far. -/
def Reached (s : State) : Dispatcher → Prop
  | .admitting next _ => s.Admitted next
  | .draining _ => s.Admitted s.lanes.length
  | .joining => s.IsLeft
  | _ => True

/-- How many workers are not over. -/
def unfinished (s : State) : Nat := s.workers.countP fun worker => !worker.isGone

/-- How many steps it takes at most, with a fault in the queue, until the dispatcher is over. -/
def ahead (s : State) : Nat := s.dispatcher.ahead s.lanes.length s.unfinished

/-- Who has to take the next of these steps: the dispatcher, unless it waits for a worker. -/
def Delays (s : State) : Actor → Prop
  | .dispatcher => s.dispatcher = .joining → s.unfinished = 0
  | .worker i => s.dispatcher = .joining ∧ ∃ crashed, s.workers[i]? = some (.announcing crashed)
  | _ => False

theorem justifies_notice {s : State} {d : Dispatcher} (justified : s.Justifies d) :
    s.Justifies d.notice := by
  cases d <;> exact justified

theorem reached_notice {s : State} {d : Dispatcher} (reached : s.Reached d) :
    s.Reached d.notice := by
  cases d <;> exact reached

theorem Admitted.mono {s : State} {m n : Nat} (admitted : s.Admitted n) (below : m ≤ n) :
    s.Admitted m :=
  fun i lane bound => admitted i lane (Nat.lt_of_lt_of_le bound below)

/-- Whoever has got a slot and has none has left. -/
theorem isLeft_of_holders {s : State} (admitted : s.Admitted s.lanes.length)
    (free : s.holders = 0) : s.IsLeft := by
  intro i lane found
  have inside := (List.getElem?_eq_some_iff.mp found).1
  have begun := admitted i lane inside found
  have listed : lane.worker ∈ s.workers := List.mem_of_getElem? (workers_getElem? found)
  have none := List.countP_eq_zero.mp free lane.worker listed
  cases here : lane.worker with
  | waiting => exact absurd here begun
  | announcing | gone => rfl
  | _ => rw [here] at none; exact absurd rfl none

theorem unfinished_le (s : State) : s.unfinished ≤ s.lanes.length := by
  have most : s.unfinished ≤ s.workers.length := List.countP_le_length
  rwa [workers, List.length_map] at most

end State

namespace Setup

variable {setup : Setup} {s s' s₀ : State} {past : List Moment}

/-! ## The queue -/

/-- What an event can do to the queue of faults. -/
inductive Queues (s : State) (e : Event) (s' : State) : Prop where
  /-- Nothing. -/
  | same (queue : s'.fatal = s.fatal)
  /-- A worker that takes the run down tells the dispatcher. -/
  | fleet {i : Nat} {lane : Lane} (own : e = .act (.worker i)) (found : s.lanes[i]? = some lane)
      (here : lane.worker = .raising)
      (queue : s'.fatal = s.fatal ++ [.lockstepAbort lane.record.hostname])
  /-- The task for interrupts tells the dispatcher. -/
  | user {next : Nat} (here : s.interrupter = .aborting next) (past : s.lanes.length ≤ next)
      (queue : s'.fatal = s.fatal ++ [.interrupted]) (gone : s'.interrupter = .gone)

/-- **An event adds one fault to the queue, or leaves it as it is.** -/
theorem Step.queues {e : Event} (step : setup.Step s e s') : Queues s e s' := by
  cases step with
  | work found turn =>
    cases turn with
    | raise here => exact .fleet rfl found here rfl
    | _ => exact .same rfl
  | raise here past => exact .user here past rfl rfl
  | _ => exact .same rfl

/-- Nothing is taken from the queue. -/
theorem Step.queue_prefix {e : Event} (step : setup.Step s e s') : s.fatal <+: s'.fatal := by
  cases step.queues with
  | same queue => exact ⟨[], by rw [queue, List.append_nil]⟩
  | fleet _ _ _ queue | user _ _ queue _ => exact ⟨_, queue.symm⟩

/-- The fault that came first stays the first. -/
theorem Step.queue_head {e : Event} {first : DispatchError} (step : setup.Step s e s')
    (head : s.fatal.head? = some first) : s'.fatal.head? = some first := by
  obtain ⟨later, queue⟩ := step.queue_prefix
  rw [← queue, List.head?_append, head]
  rfl

/-! ## Where faults come from -/

theorem Step.hasFailed {e : Event} {name : String} (step : setup.Step s e s')
    (orderly : s.Orderly) (failed : s.HasFailed name) : s'.HasFailed name := by
  obtain ⟨i, lane, found, phase, named⟩ := failed
  obtain ⟨lane', found', passage⟩ := step.lane orderly found
  refine ⟨i, lane', found', ?_⟩
  cases passage with
  | turn _ turn _ =>
    have ended : lane.record.phase.isTerminal = true := by rw [phase]; rfl
    refine ⟨(turn.edits.moves.of_isTerminal ended).trans phase, ?_⟩
    rw [← named, Record.hostname, turn.edits.sameHost.host, Record.hostname]
  | same | asked | granted => exact ⟨phase, named⟩

theorem Turn.isInLockstep {i : Nat} {lane lane' : Lane} {t : State}
    (turn : setup.Turn s i lane lane' t) (after : lane'.worker.isInLockstep = true) :
    lane.worker.isInLockstep = true ∨ setup.backend.lockstep = true := by
  cases turn with
  | tell =>
    rw [Lane.moveTo_worker] at after
    split at after
    · next lockstep => exact .inr lockstep
    · cases after
  | @attach since plan =>
    have after : (setup.firstWork since plan).isInLockstep = true := after
    rcases setup.firstWork_cases since plan with ⟨_, -, same⟩ | ⟨_, _, same⟩ | same <;>
      rw [same] at after <;> cases after
  | claim here | signal here | signalled here | abort here | aborted here =>
    rw [here]
    exact .inl rfl
  | _ => cases after

/-- Workers look who takes the run down only where all hosts have to succeed. -/
theorem Run.isInLockstep {dispatch : Dispatch} (run : setup.Run s₀ past s)
    (starts : dispatch.Starts setup s₀) {i : Nat} {lane : Lane} (found : s.lanes[i]? = some lane)
    (here : lane.worker.isInLockstep = true) : setup.backend.lockstep = true := by
  have holds : lane.worker.isInLockstep = true → setup.backend.lockstep = true := by
    apply run.lane_induction starts (Q := fun lane =>
      lane.worker.isInLockstep = true → setup.backend.lockstep = true) _ _ _ _ found
    · intro lane fresh here
      rw [fresh.worker] at here
      cases here
    · intro lane held
      exact held
    · intro lane _ _ here
      cases here
    · intro s i lane lane' t turn held after
      exact (turn.isInLockstep after).elim held id
  exact holds here

/-- Where one failed host does not end the run for all, no worker takes it down. -/
theorem Run.plain {dispatch : Dispatch} (run : setup.Run s₀ past s)
    (starts : dispatch.Starts setup s₀) (apart : dispatch.backend.lockstep = false) (i : Nat)
    (lane : Lane) (found : s.lanes[i]? = some lane) : lane.worker.isInLockstep = false := by
  refine Bool.eq_false_iff.mpr fun here => ?_
  cases apart.symm.trans (starts.backend ▸ run.isInLockstep starts found here)

/-- Once the task for interrupts is over it stays so. -/
theorem Step.interrupter_gone {e : Event} (step : setup.Step s e s')
    (gone : s.interrupter = .gone) : s'.interrupter = .gone := by
  cases step with
  | work _ turn => exact turn.interrupter.trans gone
  | head here | survey here | surveyed here | reported here | report here | signal here
  | signalled here | announce here | abort here | ask here | stop here =>
    cases gone.symm.trans here
  | raise => rfl
  | _ => exact gone

/-- **Who has told of a fault**: the task for interrupts, which is over then, or a worker of a run
where all hosts have to succeed, and its host has failed. -/
theorem Run.named {dispatch : Dispatch} (run : setup.Run s₀ past s)
    (starts : dispatch.Starts setup s₀) : ∀ e ∈ s.fatal,
      (e = .interrupted ∧ s.interrupter = .gone) ∨
        setup.backend.lockstep = true ∧ ∃ name, e = .lockstepAbort name ∧ s.HasFailed name := by
  induction run with
  | nil =>
    obtain ⟨prepared⟩ := starts
    exact fun _ among => absurd among List.not_mem_nil
  | @snoc past t t' e run step ih =>
    have step := step?_step step
    have orderly := run.orderly starts
    have kept : ∀ e ∈ t.fatal, (e = .interrupted ∧ t'.interrupter = .gone) ∨
        setup.backend.lockstep = true ∧ ∃ name, e = .lockstepAbort name ∧ t'.HasFailed name := by
      intro e among
      rcases ih e among with ⟨same, gone⟩ | ⟨lockstep, name, same, failed⟩
      · exact .inl ⟨same, step.interrupter_gone gone⟩
      · exact .inr ⟨lockstep, name, same, step.hasFailed orderly failed⟩
    intro e among
    cases step.queues with
    | same queue =>
      rw [queue] at among
      exact kept e among
    | @fleet i lane own found here queue =>
      rw [queue] at among
      rcases List.mem_append.mp among with before | last
      · exact kept e before
      · -- whoever tells of the fault has failed its own host
        have failed := run.agrees starts found
        unfold Lane.Agrees at failed
        rw [here] at failed
        refine .inr ⟨run.isInLockstep starts found (by rw [here]; rfl), _,
          List.mem_singleton.mp last, step.hasFailed orderly ⟨i, lane, found, failed.1, rfl⟩⟩
    | user _ _ queue gone =>
      rw [queue] at among
      rcases List.mem_append.mp among with before | last
      · exact kept e before
      · exact .inl ⟨List.mem_singleton.mp last, gone⟩

/-! ## What the dispatcher returns -/

theorem Step.hasLost {e : Event} {name : String} (step : setup.Step s e s') (orderly : s.Orderly)
    (lost : s.HasLost name) : s'.HasLost name := by
  obtain ⟨i, lane, found, gone, named⟩ := lost
  obtain ⟨lane', found', passage⟩ := step.lane orderly found
  refine ⟨i, lane', found', ?_⟩
  cases passage with
  | turn _ turn _ =>
    have running := turn.not_gone
    rw [gone] at running
    cases running
  | same | asked => exact ⟨gone, named⟩
  | granted _ idle => cases gone.symm.trans idle

theorem Step.isOver {e : Event} (step : setup.Step s e s') (orderly : s.Orderly)
    (ended : s.IsOver) : s'.IsOver := by
  intro i lane' found
  exact step.gone (P := fun worker => worker.isGone = true) orderly found (fun _ gone => gone)
    (ended i)

theorem Step.justifies_of_same {e : Event} {d : Dispatcher} (step : setup.Step s e s')
    (orderly : s.Orderly) (justified : s.Justifies d) : s'.Justifies d := by
  unfold State.Justifies at *
  split
  · refine justified.imp step.queue_head ?_
    rintro ⟨ended, name, same, lost⟩
    exact ⟨step.isOver orderly ended, name, same, step.hasLost orderly lost⟩
  · trivial

/-- **The dispatcher returns faults that there are.** -/
theorem Step.justifies {e : Event} (step : setup.Step s e s') (orderly : s.Orderly)
    (justified : s.Justifies s.dispatcher) : s'.Justifies s'.dispatcher := by
  have kept := step.justifies_of_same orderly justified
  cases step with
  | work found turn =>
    rcases turn.dispatcher with same | noticed
    · exact (congrArg _ same).mpr kept
    · exact (congrArg _ noticed).mpr (State.justifies_notice kept)
  | fault queued looks => exact .inl (by rw [State.finish, queued]; rfl)
  | blame here ended found =>
    obtain ⟨i, there⟩ := List.mem_iff_getElem?.mp (List.mem_of_find?_eq_some found)
    have crashed := List.find?_some found
    refine .inr ⟨fun i lane there => ended lane (List.mem_of_getElem? there), _, rfl, i, _, there,
      ?_, rfl⟩
    unfold Worker.hasCrashed at crashed
    split at crashed
    · next gone => rw [gone, crashed]
    · cases crashed
  | grant here free =>
    show State.Justifies _ (Dispatcher.before _ _)
    unfold Dispatcher.before
    split <;> trivial
  | pass | lineUp | park | lineUpLast | drain | parkLast | join => trivial
  | _ => exact kept

/-- **With what fault the dispatcher is over**: the first in the queue, or that the worker of a host
crashed, and then all workers are over. -/
theorem Run.verdict {dispatch : Dispatch} {e : DispatchError} (run : setup.Run s₀ past s)
    (starts : dispatch.Starts setup s₀) (returned : s.dispatcher = .returned (.error e)) :
    s.fatal.head? = some e ∨ s.IsOver ∧ ∃ name, e = .worker name "crashed" ∧ s.HasLost name := by
  have holds : s.Orderly ∧ s.Justifies s.dispatcher := by
    apply run.preserves (P := fun u => u.Orderly ∧ u.Justifies u.dispatcher)
    · exact ⟨starts.orderly, by rw [starts.dispatcher]; trivial⟩
    · rintro u e u' step ⟨orderly, justified⟩
      exact ⟨step.orderly orderly, step.justifies orderly justified⟩
  have justified := holds.2
  rw [returned] at justified
  exact justified

/-- The dispatcher that returns without a fault has just looked for one and found none. -/
theorem Step.passes {e : Event} (step : setup.Step s e s')
    (ended : s'.dispatcher = .returned (.ok ())) : s.dispatcher = .returned (.ok ()) ∨
      e = .act .dispatcher ∧ s.dispatcher = .checking ∧ s.fatal = [] ∧
        s' = s.finish (.ok ()) := by
  cases step with
  | pass here quiet => exact .inr ⟨rfl, here, quiet, rfl⟩
  | work found turn =>
    rcases turn.dispatcher with same | noticed
    · exact .inl (same.symm.trans ended)
    · have notice : s.dispatcher.notice = .returned (.ok ()) := noticed.symm.trans ended
      cases here : s.dispatcher with
      | returned =>
        rw [here] at notice
        exact .inl notice
      | _ =>
        rw [here] at notice
        cases notice
  | grant =>
    have ended : Dispatcher.before _ _ = .returned (.ok ()) := ended
    unfold Dispatcher.before at ended
    split at ended <;> cases ended
  | fault | blame | lineUp | park | lineUpLast | drain | parkLast | join => cases ended
  | _ => exact .inl ended

/-! ## How far the workers have come -/

/-- No turn leads back to where a worker waits for its slot. -/
theorem Turn.begun {i : Nat} {lane lane' : Lane} {t : State}
    (turn : setup.Turn s i lane lane' t) : lane'.worker ≠ .waiting := by
  cases turn with
  | @attach since plan =>
    show setup.firstWork since plan ≠ .waiting
    rcases setup.firstWork_cases since plan with ⟨_, -, same⟩ | ⟨_, _, same⟩ | same <;>
      rw [same] <;> exact Worker.noConfusion
  | tell =>
    rw [Lane.moveTo_worker]
    split <;> exact Worker.noConfusion
  | _ => exact Worker.noConfusion

/-- Whoever has left goes nowhere but to its end. -/
theorem Turn.hasLeft {i : Nat} {lane lane' : Lane} {t : State}
    (turn : setup.Turn s i lane lane' t) (left : lane.worker.hasLeft = true) :
    ∃ crashed, lane.worker = .announcing crashed ∧ lane'.worker = .gone crashed := by
  cases turn with
  | announce here => exact ⟨_, here, rfl⟩
  | _ =>
    rw [‹lane.worker = _›] at left
    cases left

theorem Step.admitted {e : Event} {n : Nat} (step : setup.Step s e s') (orderly : s.Orderly)
    (admitted : s.Admitted n) : s'.Admitted n := by
  intro i lane' bound found
  apply step.lane_keeps (Q := fun lane => lane.worker ≠ .waiting) orderly found
  · intro lane there
    exact admitted i lane bound there
  · intro lane begun
    exact begun
  · intro lane _ _
    exact Worker.noConfusion
  · intro lane lane' t turn _
    exact turn.begun

theorem Step.isLeft {e : Event} (step : setup.Step s e s') (orderly : s.Orderly)
    (left : s.IsLeft) : s'.IsLeft := by
  intro i lane' found
  apply step.lane_keeps (Q := fun lane => lane.worker.hasLeft = true) orderly found (left i)
  · intro lane left
    exact left
  · intro lane idle left
    rw [idle] at left
    cases left
  · intro lane lane' t turn left
    obtain ⟨crashed, -, gone⟩ := turn.hasLeft left
    rw [gone]
    rfl

theorem Step.reached_of_same {e : Event} {d : Dispatcher} (step : setup.Step s e s')
    (orderly : s.Orderly) (reached : s.Reached d) : s'.Reached d := by
  cases d with
  | admitting => exact step.admitted orderly reached
  | draining =>
    show s'.Admitted s'.lanes.length
    rw [step.length]
    exact step.admitted orderly reached
  | joining => exact step.isLeft orderly reached
  | _ => trivial

/-- **The dispatcher goes on when the workers have come far enough.** -/
theorem Step.reached {e : Event} (step : setup.Step s e s') (orderly : s.Orderly)
    (counted : s.gate.active = s.holders) (reached : s.Reached s.dispatcher) :
    s'.Reached s'.dispatcher := by
  have kept := step.reached_of_same orderly reached
  have admitted {n : Nat} := step.admitted (n := n) orderly
  have length := step.length
  cases step with
  | work found turn =>
    rcases turn.dispatcher with same | noticed
    · exact (congrArg _ same).mpr kept
    · exact (congrArg _ noticed).mpr (State.reached_notice kept)
  | @grant next noticed gate here free =>
    rw [here] at reached
    have inside := (orderly _ _ here).1
    have more : State.Admitted { s.moveWorker next .admitted with
        gate, dispatcher := .before (next + 1) s.lanes.length } (next + 1) := by
      -- those before got theirs earlier, and the next one has just got its own
      intro i lane bound found
      rcases Nat.lt_succ_iff_lt_or_eq.mp bound with before | rfl
      · exact admitted reached i lane before found
      · have same := State.moveWorker_eq_putLane (List.getElem?_eq_getElem inside) .admitted
        have new := State.putLane_lane (List.getElem?_eq_getElem inside)
          (s.lanes[i].moveTo .admitted)
        rw [← same] at new
        rw [← Option.some.inj (new.symm.trans found)]
        exact Worker.noConfusion
    show State.Reached _ (Dispatcher.before (next + 1) s.lanes.length)
    unfold Dispatcher.before
    split
    · exact more
    · next last => exact more.mono (Nat.le_trans (Nat.le_of_eq length) (Nat.le_of_not_lt last))
  | lineUp here | park here | lineUpLast here | parkLast here =>
    rw [here] at kept
    exact kept
  | drain here empty =>
    rw [here] at reached
    exact State.isLeft_of_holders reached (counted.symm.trans empty)
  | fault | blame | join | pass => trivial
  | _ => exact kept

theorem Run.reached {dispatch : Dispatch} (run : setup.Run s₀ past s)
    (starts : dispatch.Starts setup s₀) : s.Reached s.dispatcher := by
  induction run with
  | nil =>
    rw [starts.dispatcher]
    exact fun _ _ bound => absurd bound (Nat.not_lt_zero _)
  | snoc run step ih =>
    exact (step?_step step).reached (run.orderly starts) (run.accounted starts).1 ih

/-! ## With a fault in the queue the dispatcher returns -/

/-- An event that is no turn of a worker and no step of the dispatcher moves neither. -/
theorem Step.bystander {e : Event} (step : setup.Step s e s') (idle : e ≠ .act .dispatcher)
    (rest : ∀ i, e ≠ .act (.worker i)) :
    s'.dispatcher = s.dispatcher ∧ s'.workers = s.workers := by
  cases step with
  | work => exact absurd rfl (rest _)
  | fire | abort => exact ⟨rfl, s.abortHost_workers _⟩
  | wake | spot | spare | rest | head | survey | surveyed | reported | report | signal | signalled
  | announce | raise | lost | ask | stop | clock => exact ⟨rfl, rfl⟩
  | _ => exact absurd rfl idle

/-- The dispatcher comes nearer to its end with each step, or is over with a fault. -/
theorem Step.dispatcher_nearer (step : setup.Step s (.act .dispatcher) s')
    (queued : s.fatal ≠ []) : (∃ e, s'.dispatcher = .returned (.error e)) ∨
      s'.dispatcher.hasReturned = false ∧ s'.ahead < s.ahead := by
  unfold State.ahead
  cases step with
  | fault | blame => exact .inl ⟨_, rfl⟩
  | lineUp _ _ quiet | lineUpLast _ _ quiet | pass _ quiet => exact absurd quiet queued
  | @grant next _ gate here _ =>
    refine .inr ?_
    rw [here]
    show (Dispatcher.before (next + 1) s.lanes.length).hasReturned = false ∧
      (Dispatcher.before (next + 1) s.lanes.length).ahead _ _ < 2
    unfold Dispatcher.before
    split <;> exact ⟨rfl, Nat.one_lt_two⟩
  | park here | parkLast here | join here =>
    rw [here]
    exact .inr ⟨rfl, by simp only [Dispatcher.ahead]; omega⟩
  | drain here =>
    rw [here]
    exact .inr ⟨rfl, Nat.add_lt_add_of_le_of_lt s.unfinished_le (by decide)⟩

/-- A worker does not put the end of the dispatcher off, and one that it waits for brings it
nearer. -/
theorem Step.worker_nearer {i : Nat} (step : setup.Step s (.act (.worker i)) s')
    (reached : s.Reached s.dispatcher) (running : s.dispatcher.hasReturned = false) :
    s'.dispatcher.hasReturned = false ∧
      (s.dispatcher = .joining ∧ s'.ahead < s.ahead ∨
        s.dispatcher ≠ .joining ∧ s'.dispatcher ≠ .joining ∧ s'.ahead = s.ahead) := by
  unfold State.ahead
  rw [step.length]
  obtain ⟨lane, lane', t, found, turn, rfl⟩ := step.own
  have moves : t.dispatcher = s.dispatcher ∨ t.dispatcher = s.dispatcher.notice := turn.dispatcher
  by_cases here : s.dispatcher = .joining
  · have stays : t.dispatcher = .joining := by
      rcases moves with same | noticed
      · exact same.trans here
      · exact noticed.trans (by rw [here]; rfl)
    rw [here] at reached
    obtain ⟨crashed, announcing, gone⟩ := turn.hasLeft (reached i lane found)
    have moved : (t.putLane i lane').workers = s.workers.set i lane'.worker := by
      rw [State.putLane_workers, turn.workers]
    have count := State.countP_workers_set (fun worker => !worker.isGone)
      (State.workers_getElem? found) moved
    rw [announcing, gone] at count
    have fewer : (t.putLane i lane').unfinished + 1 = s.unfinished := count
    refine ⟨congrArg Dispatcher.hasReturned stays, .inl ⟨here, ?_⟩⟩
    rw [here, show (t.putLane i lane').dispatcher = .joining from stays]
    simp only [Dispatcher.ahead]
    omega
  · rw [State.putLane]
    rcases moves with same | noticed
    · rw [same]
      exact ⟨running, .inr ⟨here, here, Dispatcher.ahead_of_ne_joining here ..⟩⟩
    · rw [noticed, Dispatcher.hasReturned_notice, Dispatcher.ahead_notice]
      exact ⟨running, .inr ⟨here, Dispatcher.notice_ne_joining here,
        Dispatcher.ahead_of_ne_joining here ..⟩⟩

/-- Somebody always has the next step to take. -/
theorem exists_delays (reached : s.Reached s.dispatcher) : ∃ actor, s.Delays actor := by
  by_cases here : s.dispatcher = .joining
  · rw [here] at reached
    cases left : s.unfinished with
    | zero => exact ⟨.dispatcher, fun _ => left⟩
    | succ _ =>
      have some : 0 < s.unfinished := left ▸ Nat.zero_lt_succ _
      obtain ⟨worker, among, running⟩ := List.countP_pos_iff.mp some
      obtain ⟨lane, there, rfl⟩ := List.mem_map.mp among
      obtain ⟨i, found⟩ := List.mem_iff_getElem?.mp there
      refine ⟨.worker i, here, ?_⟩
      rw [State.workers_getElem? found]
      have left := reached i lane found
      cases here : lane.worker with
      | announcing crashed => exact ⟨crashed, rfl⟩
      | gone => rw [here] at running; cases running
      | _ => rw [here] at left; cases left
  · exact ⟨.dispatcher, fun joining => absurd joining here⟩

private theorem all_isGone (ended : s.unfinished = 0) :
    (s.lanes.all fun lane => lane.worker.isGone) = true := by
  apply List.all_eq_true.mpr
  intro lane among
  have notRunning := List.countP_eq_zero.mp ended lane.worker (List.mem_map_of_mem among)
  simpa using notRunning

/-- Whoever has the next step to take can take it. -/
theorem delays_able {actor : Actor} (delays : s.Delays actor) (queued : s.fatal ≠ [])
    (running : s.dispatcher.hasReturned = false) :
    (setup.step? s (.act actor)).isSome = true := by
  cases actor with
  | dispatcher =>
    show (dispatcherStep? s).isSome = true
    unfold dispatcherStep?
    cases queue : s.fatal with
    | nil => exact absurd queue queued
    | cons e rest =>
      unfold dispatch?
      cases here : s.dispatcher with
      | admitting next waiting =>
        cases waiting with
        | registered => cases s.gate.grant? .admission <;> rfl
        | _ => rfl
      | draining waiting =>
        cases waiting with
        | registered => cases s.gate.grant? .drained <;> rfl
        | _ => rfl
      | joining =>
        have all : (s.lanes.all fun lane => lane.worker.isGone) = true := all_isGone (delays here)
        simp only [looksAtQueue, all, Bool.false_eq_true, if_false, if_true]
        cases s.lanes.find? fun lane => lane.worker.hasCrashed <;> rfl
      | checking => rfl
      | returned => rw [here] at running; cases running
  | worker i =>
    obtain ⟨-, crashed, there⟩ := delays
    rw [State.workers, List.getElem?_map] at there
    obtain ⟨lane, found, here⟩ := Option.map_eq_some_iff.mp there
    show (setup.workerStep? s i).isSome = true
    unfold workerStep?
    rw [found, Option.bind_some, here]
    rfl
  | _ => exact delays.elim

/-- **With a fault in the queue every event brings the end of the dispatcher nearer**, or leaves it
to the same task. -/
theorem Step.nearer {e : Event} {actor : Actor} (step : setup.Step s e s')
    (reached : s.Reached s.dispatcher) (reached' : s'.Reached s'.dispatcher)
    (queued : s.fatal ≠ []) (running : s.dispatcher.hasReturned = false)
    (delays : s.Delays actor) : (∃ e, s'.dispatcher = .returned (.error e)) ∨
      s'.dispatcher.hasReturned = false ∧ ∃ actor', s'.Delays actor' ∧
        (s'.ahead < s.ahead ∨ s'.ahead = s.ahead ∧ actor' = actor ∧ e ≠ .act actor) := by
  obtain ⟨next, delays'⟩ := exists_delays reached'
  by_cases own : e = .act .dispatcher
  · subst own
    refine (step.dispatcher_nearer queued).imp_right ?_
    rintro ⟨running', fewer⟩
    exact ⟨running', next, delays', .inl fewer⟩
  by_cases work : ∃ i, e = .act (.worker i)
  · obtain ⟨i, rfl⟩ := work
    obtain ⟨running', ⟨-, fewer⟩ | ⟨away, away', same⟩⟩ := step.worker_nearer reached running
    · exact .inr ⟨running', next, delays', .inl fewer⟩
    · -- the dispatcher waits for nobody, so the step is its own, before the event and after it
      cases actor with
      | dispatcher =>
        exact .inr ⟨running', .dispatcher, fun joining => absurd joining away',
          .inr ⟨same, rfl, own⟩⟩
      | worker => exact absurd delays.1 away
      | _ => exact delays.elim
  · obtain ⟨same, kept⟩ := step.bystander own (fun i worker => work ⟨i, worker⟩)
    have unfinished : s'.unfinished = s.unfinished := congrArg (List.countP _) kept
    refine .inr ⟨by rw [same]; exact running, actor, ?_, .inr ⟨?_, rfl, ?_⟩⟩
    · unfold State.Delays at *
      rw [same, kept, unfinished]
      exact delays
    · rw [State.ahead, State.ahead, same, step.length, unfinished]
    · rintro rfl
      cases actor with
      | dispatcher => exact own rfl
      | worker i => exact work ⟨i, rfl⟩
      | _ => exact delays.elim

/-- **In a fair course a fault in the queue ends the run**: the dispatcher returns a fault. -/
theorem Unending.Fair.returns {dispatch : Dispatch} {course : setup.Unending s}
    (starts : dispatch.Starts setup s₀) (run : setup.Run s₀ past s) (fair : course.Fair) {n : Nat}
    (queued : (course.state n).fatal ≠ [])
    (running : (course.state n).dispatcher.hasReturned = false) :
    ∃ m, n ≤ m ∧ ∃ e, (course.state m).dispatcher = .returned (.error e) := by
  have reached (m : Nat) : (course.state m).Reached (course.state m).dispatcher :=
    (run.append (course.run m)).reached starts
  obtain ⟨actor, delays⟩ := exists_delays (reached n)
  refine fair.reaches (fun m k actor => (course.state m).fatal ≠ [] ∧
    (course.state m).dispatcher.hasReturned = false ∧ (course.state m).ahead = k ∧
    (course.state m).Delays actor) ?_ ?_ ⟨queued, running, rfl, delays⟩
  · rintro m k actor ⟨queued, running, -, delays⟩
    exact delays_able delays queued running
  · rintro m k actor ⟨queued, running, rfl, delays⟩
    have step := step?_step (course.step m)
    refine (step.nearer (reached m) (reached (m + 1)) queued running delays).imp_right ?_
    rintro ⟨running', actor', delays', near⟩
    exact ⟨_, actor', ⟨step.fatal queued, running', rfl, delays'⟩, near⟩

end Setup

end Fleet
