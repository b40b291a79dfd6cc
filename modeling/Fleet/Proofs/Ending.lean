import Fleet.Proofs.Lifecycle

/-!
# How runs end

The dispatcher returns without a fault only after every worker was over and none had crashed
(`Run.settled`). It returns with a fault because a worker crashed, and then all workers are over as
well, or because somebody took the run down; and who takes a run down asks every host to abort
before the dispatcher is told (`Run.alarmed`). So nobody is left unattended when the dispatcher is
over.
-/

namespace Fleet

namespace State

/-- All workers are over. -/
def IsOver (s : State) : Prop :=
  ∀ (i : Nat) (lane : Lane), s.lanes[i]? = some lane → lane.worker.isGone = true

/-- All workers are over and none has crashed. -/
def IsSound (s : State) : Prop :=
  ∀ (i : Nat) (lane : Lane), s.lanes[i]? = some lane → lane.worker = .gone false

/-- What is so when a dispatcher has come so far. -/
def Knows (s : State) : Dispatcher → Prop
  | .checking | .returned (.ok _) => s.IsSound
  | .returned (.error _) => s.fatal ≠ [] ∨ s.IsOver
  | _ => True

/-- The hosts before `n` were asked to abort. -/
def Asked (s : State) (n : Nat) : Prop :=
  ∀ (i : Nat) (lane : Lane), i < n → s.lanes[i]? = some lane → lane.record.aborted = true

/-- Whoever takes the run down asks the hosts to abort in order, and tells the dispatcher last. -/
structure Alarmed (s : State) : Prop where
  worker : ∀ (i : Nat) (lane : Lane) next, s.lanes[i]? = some lane → lane.worker = .aborting next →
    s.Asked next
  raising : ∀ (i : Nat) (lane : Lane), s.lanes[i]? = some lane → lane.worker = .raising →
    s.Asked s.lanes.length
  interrupter : ∀ next, s.interrupter = .aborting next → s.Asked next
  fatal : s.fatal ≠ [] → s.Asked s.lanes.length

theorem knows_notice {s : State} {d : Dispatcher} (knows : s.Knows d) : s.Knows d.notice := by
  cases d <;> exact knows

theorem knows_before (s : State) (next nhosts : Nat) : s.Knows (.before next nhosts) := by
  unfold Dispatcher.before
  split <;> trivial

end State

namespace Setup

variable {setup : Setup} {s s' s₀ : State} {past : List Moment}

/-! ## Workers that are over -/

/-- A worker that is over takes no turn. -/
theorem Turn.not_gone {i : Nat} {lane lane' : Lane} {t : State}
    (turn : setup.Turn s i lane lane' t) : lane.worker.isGone = false := by
  cases turn <;> simp only [*, Worker.isGone]

/-- What holds of a worker that is over, and of no other, goes on to hold. -/
theorem Step.gone {e : Event} {i : Nat} {lane' : Lane} {P : Worker → Prop}
    (step : setup.Step s e s') (orderly : s.Orderly) (found : s'.lanes[i]? = some lane')
    (ends : ∀ worker, P worker → worker.isGone = true)
    (held : ∀ lane, s.lanes[i]? = some lane → P lane.worker) : P lane'.worker := by
  apply step.lane_keeps (Q := fun lane => P lane.worker) orderly found held
  · intro lane holds
    exact holds
  · intro lane idle holds
    have gone := ends lane.worker holds
    rw [idle] at gone
    cases gone
  · intro lane lane' t turn holds
    have gone := ends lane.worker holds
    rw [turn.not_gone] at gone
    cases gone

/-! ## What the dispatcher knows -/

/-- A turn adds a fault to the queue when it takes the run down, and none otherwise. -/
theorem Turn.fatal {i : Nat} {lane lane' : Lane} {t : State}
    (turn : setup.Turn s i lane lane' t) :
    t.fatal = s.fatal ∨ lane.worker = .raising ∧ ∃ e, t.fatal = s.fatal ++ [e] := by
  cases turn with
  | raise here => exact .inr ⟨here, _, rfl⟩
  | _ => exact .inl rfl

/-- A fault stays in the queue. -/
theorem Step.fatal {e : Event} (step : setup.Step s e s') (queued : s.fatal ≠ []) :
    s'.fatal ≠ [] := by
  cases step with
  | @work _ _ _ t found turn =>
    rcases turn.fatal with same | ⟨-, e, more⟩
    · exact (congrArg (· ≠ []) same).mpr queued
    · exact (congrArg (· ≠ []) more).mpr (List.append_ne_nil_of_left_ne_nil queued _)
  | raise => exact List.append_ne_nil_of_left_ne_nil queued _
  | _ => exact queued

theorem Step.knows {e : Event} (step : setup.Step s e s') (orderly : s.Orderly) {d : Dispatcher}
    (knows : s.Knows d) : s'.Knows d := by
  have sound (before : s.IsSound) : s'.IsSound := by
    intro i lane' found
    apply step.gone (P := fun worker => worker = .gone false) orderly found _ (before i)
    rintro worker rfl
    rfl
  have ended (before : s.IsOver) : s'.IsOver := by
    intro i lane' found
    exact step.gone (P := fun worker => worker.isGone = true) orderly found (fun _ gone => gone)
      (before i)
  unfold State.Knows at *
  split
  · exact sound knows
  · exact sound knows
  · exact knows.imp step.fatal ended
  · trivial

/-- A turn leaves the dispatcher where it is, or gives it a notice. -/
theorem Turn.dispatcher {i : Nat} {lane lane' : Lane} {t : State}
    (turn : setup.Turn s i lane lane' t) :
    t.dispatcher = s.dispatcher ∨ t.dispatcher = s.dispatcher.notice := by
  cases turn with
  | announce => exact .inr rfl
  | _ => exact .inl rfl

/-- What the dispatcher has returned stays. -/
theorem Step.returned {e : Event} {result : Except DispatchError Unit}
    (step : setup.Step s e s') (ended : s.dispatcher = .returned result) :
    s'.dispatcher = .returned result := by
  cases step with
  | work _ turn =>
    rcases turn.dispatcher with same | noticed
    · exact same.trans ended
    · exact noticed.trans (by rw [ended]; rfl)
  | fault _ looks =>
    rw [ended] at looks
    cases looks
  | lineUp here | grant here | park here | lineUpLast here | drain here | parkLast here
  | blame here | join here | pass here => cases ended.symm.trans here
  | _ => exact ended

/-- The dispatcher is not over before it is. -/
theorem Step.running {e : Event} (step : setup.Step s e s')
    (running : s'.dispatcher.hasReturned = false) : s.dispatcher.hasReturned = false := by
  cases here : s.dispatcher with
  | returned result =>
    rw [step.returned here] at running
    cases running
  | _ => rfl

/-- **The dispatcher ends on what it knows.** -/
theorem Step.settled {e : Event} (step : setup.Step s e s') (orderly : s.Orderly)
    (settled : s.Knows s.dispatcher) : s'.Knows s'.dispatcher := by
  have kept := step.knows orderly settled
  cases step with
  | work found turn =>
    rcases turn.dispatcher with same | noticed
    · exact (congrArg _ same).mpr kept
    · exact (congrArg _ noticed).mpr (State.knows_notice kept)
  | fault queued looks => exact .inl (by rw [State.finish, queued]; exact List.cons_ne_nil _ _)
  | blame here ended found => exact .inr fun i lane there => ended lane (List.mem_of_getElem? there)
  | join here ended sound =>
    -- all are over, and the search for one that crashed found none
    intro i lane there
    have among := List.mem_of_getElem? there
    have gone := ended lane among
    have whole := List.find?_eq_none.mp sound lane among
    cases worker : lane.worker with
    | gone crashed =>
      rw [worker] at whole
      cases crashed with
      | false => rfl
      | true => exact absurd rfl whole
    | _ => rw [worker] at gone; cases gone
  | pass here quiet =>
    rw [here] at settled
    exact settled
  | lineUp | park | lineUpLast | drain | parkLast => trivial
  | grant here free => exact State.knows_before _ _ _
  | _ => exact kept

theorem Run.settled {dispatch : Dispatch} (run : setup.Run s₀ past s)
    (starts : dispatch.Starts setup s₀) : s.Knows s.dispatcher := by
  refine (run.preserves (P := fun u => u.Orderly ∧ u.Knows u.dispatcher)
    ⟨starts.orderly, by rw [starts.dispatcher]; trivial⟩ ?_).2
  intro u e u' step ⟨orderly, settled⟩
  exact ⟨step.orderly orderly, step.settled orderly settled⟩

/-- When all workers are over and none has crashed, each host is done or has failed. -/
theorem Run.phase_of_isSound {dispatch : Dispatch} (run : setup.Run s₀ past s)
    (starts : dispatch.Starts setup s₀) (sound : s.IsSound) {i : Nat} {lane : Lane}
    (found : s.lanes[i]? = some lane) :
    lane.record.phase = .done ∨ lane.record.phase = .failed := by
  have agrees := run.agrees starts found
  unfold Lane.Agrees at agrees
  rw [sound i lane found] at agrees
  exact agrees.imp And.left And.left

/-! ## Taking a run down -/

/-- What an event makes of the record of a host. -/
theorem Step.moves {e : Event} {i : Nat} {lane' : Lane} (step : setup.Step s e s')
    (orderly : s.Orderly) (found : s'.lanes[i]? = some lane') :
    ∃ lane, s.lanes[i]? = some lane ∧ lane.record.Moves s.now lane'.record ∧
      (lane.record.aborted = true → lane'.record.aborted = true) := by
  obtain ⟨lane, old, passage⟩ := step.lane_before orderly found
  refine ⟨lane, old, ?_⟩
  cases passage with
  | turn _ turn _ => exact ⟨turn.edits.moves, turn.edits.aborted⟩
  | same => exact ⟨.stays rfl rfl rfl, id⟩
  | asked => exact ⟨.stays rfl rfl rfl, fun _ => rfl⟩
  | granted => exact ⟨.stays rfl rfl rfl, id⟩

theorem Step.asked {e : Event} (step : setup.Step s e s') (orderly : s.Orderly) {n : Nat}
    (asked : s.Asked n) : s'.Asked n := by
  intro i lane' bound found
  apply step.lane_keeps (Q := fun lane => lane.record.aborted = true) orderly found
  · intro lane there
    exact asked i lane bound there
  · intro lane _
    rfl
  · intro lane _ asked
    exact asked
  · intro lane lane' t turn asked
    exact turn.edits.aborted asked

/-- A worker that asks the hosts to abort begins with the first, and has asked those before. -/
theorem Turn.aborting {i n : Nat} {lane lane' : Lane} {t : State}
    (turn : setup.Turn s i lane lane' t) (after : lane'.worker = .aborting n) :
    n = 0 ∨ ∃ m, n = m + 1 ∧ lane.worker = .aborting m ∧ t = s.abortHost m ∧
      (m = i → lane'.record.aborted = true) := by
  cases turn with
  | signalled => cases after; exact .inl rfl
  | @abort next here bound =>
    cases after
    exact .inr ⟨next, rfl, here, rfl, fun own => by rw [if_pos own]; rfl⟩
  | @attach since plan here =>
    have after : setup.firstWork since plan = .aborting n := after
    rcases setup.firstWork_cases since plan with ⟨_, -, same⟩ | ⟨_, _, same⟩ | same <;>
      rw [same] at after <;> cases after
  | tell =>
    rw [Lane.moveTo_worker] at after
    split at after <;> cases after
  | _ => cases after

/-- A worker tells the dispatcher when it has asked all. -/
theorem Turn.raising {i : Nat} {lane lane' : Lane} {t : State}
    (turn : setup.Turn s i lane lane' t) (after : lane'.worker = .raising) :
    ∃ n, lane.worker = .aborting n ∧ s.lanes.length ≤ n := by
  cases turn with
  | aborted here past => exact ⟨_, here, past⟩
  | @attach since plan here =>
    have after : setup.firstWork since plan = .raising := after
    rcases setup.firstWork_cases since plan with ⟨_, -, same⟩ | ⟨_, _, same⟩ | same <;>
      rw [same] at after <;> cases after
  | tell =>
    rw [Lane.moveTo_worker] at after
    split at after <;> cases after
  | _ => cases after

end Setup

namespace State

theorem Asked.mono {s : State} {m n : Nat} (asked : s.Asked n) (below : m ≤ n) : s.Asked m :=
  fun i lane bound => asked i lane (Nat.lt_of_lt_of_le bound below)

theorem asked_zero (s : State) : s.Asked 0 := fun _ _ bound => absurd bound (Nat.not_lt_zero _)

/-- Who was asked is one more. -/
theorem Asked.succ {s : State} {n : Nat} (asked : s.Asked n)
    (last : ∀ lane, s.lanes[n]? = some lane → lane.record.aborted = true) : s.Asked (n + 1) := by
  intro i lane bound found
  rcases Nat.lt_succ_iff_lt_or_eq.mp bound with before | rfl
  · exact asked i lane before found
  · exact last lane found

/-- A host that was just asked to abort has been asked. -/
theorem abortHost_aborted {s : State} {n : Nat} {lane : Lane}
    (found : (s.abortHost n).lanes[n]? = some lane) : lane.record.aborted = true := by
  rw [abortHost_lane] at found
  obtain ⟨before, -, rfl⟩ := Option.map_eq_some_iff.mp found
  rw [if_pos rfl]
  rfl

end State

namespace Setup

variable {setup : Setup} {s s' s₀ : State} {past : List Moment}

theorem Turn.interrupter {i : Nat} {lane lane' : Lane} {t : State}
    (turn : setup.Turn s i lane lane' t) : t.interrupter = s.interrupter := by
  cases turn <;> rfl

/-- Workers that ask hosts to abort do so in order. -/
private theorem Step.alarmed_worker {e : Event} (step : setup.Step s e s') (orderly : s.Orderly)
    (alarmed : s.Alarmed) (i : Nat) (lane' : Lane) (n : Nat) (found : s'.lanes[i]? = some lane')
    (after : lane'.worker = .aborting n) : s'.Asked n := by
  obtain ⟨lane, old, passage⟩ := step.lane_before orderly found
  cases passage with
  | turn _ turn same =>
    subst same
    rcases turn.aborting after with rfl | ⟨m, rfl, here, rfl, own⟩
    · exact State.asked_zero _
    · -- those before `m` were asked already, and `m` is asked in this very turn
      apply (step.asked orderly (alarmed.worker i lane m old here)).succ
      intro last there
      by_cases same : i = m
      · subst same
        obtain rfl : last = lane' := Option.some.inj (there.symm.trans found)
        exact own rfl
      · rw [State.putLane_lane_ne _ same] at there
        exact State.abortHost_aborted there
  | same | asked => exact step.asked orderly (alarmed.worker i _ n old after)
  | granted => cases after

/-- **Taking a run down keeps its order**: whoever tells the dispatcher has asked all hosts. -/
theorem Step.alarmed {e : Event} (step : setup.Step s e s') (orderly : s.Orderly)
    (alarmed : s.Alarmed) : s'.Alarmed where
  worker := step.alarmed_worker orderly alarmed
  raising := by
    intro i lane' found after
    obtain ⟨lane, old, passage⟩ := step.lane_before orderly found
    rw [step.length]
    cases passage with
    | turn _ turn _ =>
      obtain ⟨n, here, past⟩ := turn.raising after
      exact step.asked orderly ((alarmed.worker i lane n old here).mono past)
    | same | asked => exact step.asked orderly (alarmed.raising i _ old after)
    | granted => cases after
  interrupter := by
    intro n after
    have kept := fun m => step.asked (n := m) orderly
    cases step with
    | work found turn => exact kept n (alarmed.interrupter n (turn.interrupter.symm.trans after))
    | announce => cases after; exact State.asked_zero _
    | @abort next here bound =>
      cases after
      apply (kept next (alarmed.interrupter next here)).succ
      intro last there
      exact State.abortHost_aborted there
    | head | survey | surveyed | reported | report | signal | signalled | raise | ask | stop =>
      cases after
    | _ => exact kept n (alarmed.interrupter n after)
  fatal := by
    intro queued
    rw [step.length]
    have kept := step.asked (n := s.lanes.length) orderly
    cases step with
    | @work i lane _ t found turn =>
      rcases turn.fatal with same | ⟨here, -⟩
      · exact kept (alarmed.fatal ((congrArg (· ≠ []) same).mp queued))
      · exact kept (alarmed.raising i lane found here)
    | raise here past => exact kept ((alarmed.interrupter _ here).mono past)
    | _ => exact kept (alarmed.fatal queued)

theorem Run.alarmed {dispatch : Dispatch} (run : setup.Run s₀ past s)
    (starts : dispatch.Starts setup s₀) : s.Alarmed := by
  refine (run.preserves (P := fun u => u.Orderly ∧ u.Alarmed) ⟨starts.orderly, ?_⟩ ?_).2
  · have idle {i : Nat} {lane : Lane} (found : s₀.lanes[i]? = some lane) :=
      (starts.fresh found).worker
    refine ⟨?_, ?_, ?_, ?_⟩
    · intro i lane n found here
      cases (idle found).symm.trans here
    · intro i lane found here
      cases (idle found).symm.trans here
    · obtain ⟨prepared⟩ := starts
      intro n here
      cases here
    · obtain ⟨prepared⟩ := starts
      intro queued
      exact absurd rfl queued
  · rintro u e u' step ⟨orderly, alarmed⟩
    exact ⟨step.orderly orderly, step.alarmed orderly alarmed⟩

/-- **When the dispatcher is over nobody is left unattended**: a host has been asked to abort, or
its worker is over. -/
theorem Run.attended {dispatch : Dispatch} (run : setup.Run s₀ past s)
    (starts : dispatch.Starts setup s₀) (returned : s.dispatcher.hasReturned = true) {i : Nat}
    {lane : Lane} (found : s.lanes[i]? = some lane) :
    lane.record.aborted = true ∨ lane.worker.isGone = true := by
  have settled := run.settled starts
  have inside := (List.getElem?_eq_some_iff.mp found).1
  cases here : s.dispatcher with
  | returned result =>
    rw [here] at settled
    cases result with
    | ok =>
      have gone : lane.worker = .gone false := settled i lane found
      rw [gone]
      exact .inr rfl
    | error e =>
      -- a fault is queued after everybody was asked, and a crash is found when all are over
      rcases settled with queued | ended
      · exact .inl ((run.alarmed starts).fatal queued i lane inside found)
      · exact .inr (ended i lane found)
  | _ => rw [here] at returned; cases returned

end Setup

end Fleet
