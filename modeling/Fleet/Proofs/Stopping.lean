import Fleet.Proofs.Faults

/-!
# What comes of a user who stops a run

When the user stops a run, the task for interrupts signals the remote sides, announces the end, asks
every host to abort, and only then tells the dispatcher. All that time the dispatcher knows nothing
of it. If the workers get over meanwhile, be it because their hosts were done or because they were
asked to abort, it can find the slots free and the queue empty and return without a fault.

**The law** (`Run.stopped`): that is the only way in which a run that the user has stopped ends
without a fault. Once the dispatcher has been told, it returns a fault, and in a fair course it does
return.
-/

namespace Fleet

namespace InterruptTask

/-- Whether the task is on its way to tell the dispatcher that the user stops the run. -/
def isStopping : InterruptTask → Bool
  | signalling _ | announcing | aborting _ => true
  | _ => false

/-- Whether the user has stopped the run. -/
def hasDecided : InterruptTask → Bool
  | signalling _ | announcing | aborting _ | gone => true
  | _ => false

/-- How many steps it takes at most to tell the dispatcher. -/
def untold (nhosts : Nat) : InterruptTask → Nat
  | signalling next => (nhosts - next) + nhosts + 3
  | announcing => nhosts + 2
  | aborting next => (nhosts - next) + 1
  | _ => 0

theorem ne_listening {task : InterruptTask} (stopping : task.isStopping = true) :
    task ≠ .listening := by
  rintro rfl
  cases stopping

theorem isStopping_or_gone {task : InterruptTask} (decided : task.hasDecided = true) :
    task.isStopping = true ∨ task = .gone := by
  cases task with
  | signalling | announcing | aborting => exact .inl rfl
  | gone => exact .inr rfl
  | _ => cases decided

end InterruptTask

namespace Setup

variable {setup : Setup} {s s' s₀ : State} {past later : List Moment}

/-! ## The way to the dispatcher -/

/-- A task for interrupts that does something stays with it while it rests. -/
theorem Step.undisturbed {e : Event} (step : setup.Step s e s') (rests : e ≠ .act .interrupter)
    (busy : s.interrupter ≠ .listening) : s'.interrupter = s.interrupter := by
  cases step with
  | work _ turn => exact turn.interrupter
  | head | survey | surveyed | reported | report | signal | signalled | announce | abort
  | raise => exact absurd rfl rests
  | ask here | stop here => exact absurd here busy
  | _ => rfl

/-- Each of its steps brings it closer to the dispatcher, and with the last one it is over. -/
theorem Step.stopping_nearer (step : setup.Step s (.act .interrupter) s')
    (stopping : s.interrupter.isStopping = true) : s'.interrupter = .gone ∨
      s'.interrupter.isStopping = true ∧
        s'.interrupter.untold s.lanes.length < s.interrupter.untold s.lanes.length := by
  cases step with
  | head here | survey here | surveyed here | reported here | report here =>
    rw [here] at stopping
    cases stopping
  | signal here found =>
    have inside := (List.getElem?_eq_some_iff.mp found).1
    rw [here]
    exact .inr ⟨rfl, by simp only [InterruptTask.untold]; omega⟩
  | signalled here | announce here | abort here =>
    rw [here]
    exact .inr ⟨rfl, by simp only [InterruptTask.untold]; omega⟩
  | raise => exact .inl rfl

/-- It does not have to wait. -/
theorem stopping_able (stopping : s.interrupter.isStopping = true) :
    (setup.step? s (.act .interrupter)).isSome = true := by
  show (setup.interrupterStep? s).isSome = true
  unfold interrupterStep?
  cases here : s.interrupter with
  | signalling next => cases there : s.lanes[next]? <;> simp only [there] <;> rfl
  | announcing => rfl
  | aborting next => by_cases bound : next < s.lanes.length <;> simp [bound]
  | _ =>
    rw [here] at stopping
    cases stopping

/-- What the user has decided stays decided. -/
theorem Step.hasDecided {e : Event} (step : setup.Step s e s')
    (decided : s.interrupter.hasDecided = true) : s'.interrupter.hasDecided = true := by
  rcases InterruptTask.isStopping_or_gone decided with stopping | gone
  · by_cases own : e = .act .interrupter
    · subst own
      cases step with
      | head here | survey here | surveyed here | reported here | report here =>
        rw [here] at stopping
        cases stopping
      | _ => rfl
    · rw [step.undisturbed own (InterruptTask.ne_listening stopping)]
      exact decided
  · rw [step.interrupter_gone gone]
    rfl

/-- When the task for interrupts is over, the dispatcher has been told. -/
theorem Run.told_by_user {dispatch : Dispatch} (run : setup.Run s₀ past s)
    (starts : dispatch.Starts setup s₀) (gone : s.interrupter = .gone) : s.fatal ≠ [] := by
  induction run with
  | nil =>
    obtain ⟨prepared⟩ := starts
    cases gone
  | @snoc past t t' e run step ih =>
    have step := step?_step step
    by_cases before : t.interrupter = .gone
    · exact step.fatal (ih before)
    · cases step with
      | work _ turn => exact absurd (turn.interrupter.symm.trans gone) before
      | raise => exact List.append_ne_nil_of_right_ne_nil _ (List.cons_ne_nil _ _)
      | head | survey | surveyed | reported | report | signal | signalled | announce | abort
      | ask | stop => cases gone
      | _ => exact absurd gone before

/-! ## How a stopped run ends -/

/-- A run that has been stopped passes the last look of the dispatcher only if the dispatcher was
not told before. -/
theorem Run.passes {dispatch : Dispatch} (starts : dispatch.Starts setup s₀)
    (first : setup.Run s₀ past s) (decided : s.interrupter.hasDecided = true)
    (running : s.dispatcher.hasReturned = false) (second : setup.Run s later s')
    (ended : s'.dispatcher = .returned (.ok ())) :
    ∃ moment ∈ later, moment.event = .act .dispatcher ∧
      moment.after.dispatcher = .returned (.ok ()) ∧ moment.before.fatal = [] ∧
      moment.before.interrupter.isStopping = true ∧
      ∀ lane ∈ moment.before.lanes, lane.record.phase.isTerminal = true := by
  induction second with
  | nil =>
    rw [ended] at running
    cases running
  | @snoc later u u' e run step ih =>
    have still := run.preserves (P := fun u => u.interrupter.hasDecided = true) decided
      fun _ _ _ step decided => step.hasDecided decided
    have whole := first.append run
    have happened := step?_step step
    rcases happened.passes ended with before | ⟨rfl, here, quiet, rfl⟩
    · obtain ⟨moment, among, rest⟩ := ih before
      exact ⟨moment, List.mem_append_left _ among, rest⟩
    · refine ⟨_, List.mem_append_right _ (List.mem_singleton_self _), rfl, rfl, quiet, ?_, ?_⟩
      -- a task for interrupts that is over would have left its fault in the queue
      · refine (InterruptTask.isStopping_or_gone still).resolve_right ?_
        intro gone
        exact whole.told_by_user starts gone quiet
      · intro lane among
        obtain ⟨i, found⟩ := List.mem_iff_getElem?.mp among
        have sound : u.IsSound := by
          have settled := whole.settled starts
          rwa [here] at settled
        rcases whole.phase_of_isSound starts sound found with phase | phase <;> rw [phase] <;> rfl

/-- **In a fair course a run that the user has stopped is stopped to the end**: all that is to be
done for it comes about. -/
theorem Unending.Fair.gone {course : setup.Unending s} (fair : course.Fair)
    (decided : s.interrupter.hasDecided = true) : ∃ m, (course.state m).interrupter = .gone := by
  rw [← course.begins] at decided
  rcases InterruptTask.isStopping_or_gone decided with stopping | gone
  · suffices ∃ m, 0 ≤ m ∧ (course.state m).interrupter = .gone from
      this.imp fun _ reached => reached.2
    refine fair.reaches (fun m left actor => actor = .interrupter ∧
      (course.state m).interrupter.isStopping = true ∧
      (course.state m).interrupter.untold (course.state m).lanes.length = left) ?_ ?_
      ⟨rfl, stopping, rfl⟩
    · rintro m left actor ⟨rfl, stopping, -⟩
      exact stopping_able stopping
    · rintro m left actor ⟨rfl, stopping, rfl⟩
      have step := step?_step (course.step m)
      by_cases own : course.event m = .act .interrupter
      · rw [own] at step
        refine step.stopping_nearer stopping |>.imp_right ?_
        rintro ⟨stopping', closer⟩
        refine ⟨_, .interrupter, ⟨rfl, stopping', rfl⟩, .inl ?_⟩
        rw [step.length]
        exact closer
      · have same := step.undisturbed own (InterruptTask.ne_listening stopping)
        have still : (course.state (m + 1)).interrupter.isStopping = true := by rwa [same]
        refine .inr ⟨_, .interrupter, ⟨rfl, still, rfl⟩, .inr ⟨?_, rfl, own⟩⟩
        rw [same, step.length]
  · exact ⟨0, gone⟩

/-- **In a fair course the run that the user has stopped comes to its end.** -/
theorem Unending.Fair.stops {dispatch : Dispatch} {course : setup.Unending s}
    (starts : dispatch.Starts setup s₀) (run : setup.Run s₀ past s) (fair : course.Fair)
    (decided : s.interrupter.hasDecided = true) :
    ∃ m, (course.state m).dispatcher.hasReturned = true := by
  obtain ⟨m, gone⟩ := fair.gone decided
  have queued := (run.append (course.run m)).told_by_user starts gone
  cases here : (course.state m).dispatcher.hasReturned with
  | true => exact ⟨m, here⟩
  | false =>
    obtain ⟨m', -, e, returned⟩ := fair.returns starts run queued here
    exact ⟨m', by rw [returned]; rfl⟩

/-- **How a run ends that the user has stopped**, in every order of its events.

It ends without a fault only if the dispatcher looks into the queue for the last time, and finds it
empty, while the task for interrupts is still on its way to tell it; and then all hosts are done or
have failed. Once the dispatcher has been told, that cannot happen any more. A fault that it returns
is the interrupt; or that a host failed, where all have to succeed; or that a worker crashed, which
it sees when all workers are over. And in a fair course it returns. -/
theorem Run.stopped {dispatch : Dispatch} (starts : dispatch.Starts setup s₀)
    (run : setup.Run s₀ past s) (decided : s.interrupter.hasDecided = true)
    (running : s.dispatcher.hasReturned = false) :
    (∀ later s', setup.Run s later s' → s'.dispatcher = .returned (.ok ()) →
      ∃ moment ∈ later, moment.event = .act .dispatcher ∧
        moment.after.dispatcher = .returned (.ok ()) ∧ moment.before.fatal = [] ∧
        moment.before.interrupter.isStopping = true ∧
        ∀ lane ∈ moment.before.lanes, lane.record.phase.isTerminal = true) ∧
    (s.fatal ≠ [] → ∀ later s', setup.Run s later s' → s'.dispatcher ≠ .returned (.ok ())) ∧
    (∀ later s' e, setup.Run s later s' → s'.dispatcher = .returned (.error e) →
      e = .interrupted ∨
        (setup.backend.lockstep = true ∧ ∃ name, e = .lockstepAbort name ∧ s'.HasFailed name) ∨
        s'.IsOver ∧ ∃ name, e = .worker name "crashed" ∧ s'.HasLost name) ∧
    ∀ course : setup.Unending s, course.Fair →
      ∃ m, (course.state m).dispatcher.hasReturned = true := by
  refine ⟨?_, ?_, ?_, ?_⟩
  · intro later s' second ended
    exact Run.passes starts run decided running second ended
  · intro queued later s' second ended
    obtain ⟨moment, among, -, -, quiet, -⟩ :=
      Run.passes starts run decided running second ended
    obtain ⟨earlier, -, before, -⟩ := second.split among
    exact before.preserves (P := fun u => u.fatal ≠ []) queued (fun _ _ _ step => step.fatal) quiet
  · intro later s' e second returned
    have whole := run.append second
    rcases whole.verdict starts returned with head | crashed
    · rcases whole.named starts e (List.mem_of_mem_head? head) with ⟨same, -⟩ | failed
      · exact .inl same
      · exact .inr (.inl failed)
    · exact .inr (.inr crashed)
  · intro course fair
    exact fair.stops starts run decided

/-- One host whose session is open for a second, in a run that ends at the first interrupt. -/
def openSecond : Dispatch :=
  .ofScript (fun _ => ⟨some 0, .session { stdout := ⟨[], .closed Time.second⟩ }⟩) ["a"]
    { batch := true, localUser := "u" }

/-- The user stops the run while the host is executing, and the dispatcher is told: whatever happens
then, the run does not end without a fault. -/
theorem Run.stopped_openSecond :
    ∃ setup s₀ past s, openSecond.Starts setup s₀ ∧ setup.Run s₀ past s ∧
      s.interrupter.hasDecided = true ∧ s.dispatcher.hasReturned = false ∧
      s.fatal = [.interrupted] ∧
      ∀ later s', setup.Run s later s' → s'.dispatcher ≠ .returned (.ok ()) := by
  have starts := Dispatch.ofScript.starts
    (fun _ => ⟨some 0, .session { stdout := ⟨[], .closed Time.second⟩ }⟩)
    { batch := true, localUser := "u" } "a" []
  obtain ⟨past, run, -⟩ := starts.run.further
    ([.act .dispatcher, .act .dispatcher] ++ List.replicate 5 (.act (.worker 0)) ++ [.interrupt]
      ++ List.replicate 5 (.act .interrupter)) rfl
  obtain ⟨-, told, -, -⟩ := stopped starts run rfl rfl
  exact ⟨_, _, past, _, starts, run, rfl, rfl, rfl, told (List.cons_ne_nil _ _)⟩

/-- **A run that the user has stopped can end without a fault.** The interrupt comes while the host
is executing. Its worker is asked to abort and fails it, and the dispatcher finds the slot free and
the queue empty before the task for interrupts has told it. -/
theorem stopped_fails :
    ¬ ∀ (dispatch : Dispatch) (setup : Setup) (s₀ s s' : State) (past later : List Moment),
      dispatch.Starts setup s₀ → setup.Run s₀ past s → s.interrupter.hasDecided = true →
      s.dispatcher.hasReturned = false →
      (∃ lane ∈ s.lanes, lane.record.phase.isTerminal = false) → setup.Run s later s' →
        s'.dispatcher ≠ .returned (.ok ()) := by
  intro stopped
  have starts := Dispatch.ofScript.starts
    (fun _ => ⟨some 0, .session { stdout := ⟨[], .closed Time.second⟩ }⟩)
    { batch := true, localUser := "u" } "a" []
  obtain ⟨past, first, -⟩ := starts.run.further
    ([.act .dispatcher, .act .dispatcher] ++ List.replicate 5 (.act (.worker 0))
      ++ [.clock Time.second, .interrupt]) rfl
  obtain ⟨later, second, -⟩ := first.further
    (List.replicate 4 (.act .interrupter) ++ List.replicate 6 (.act (.worker 0))
      ++ List.replicate 4 (.act .dispatcher)) rfl
  exact stopped _ _ _ _ _ _ _ starts first rfl rfl ⟨_, List.mem_cons_self, rfl⟩ second rfl

end Setup

end Fleet
