import Fleet.Proofs.Step

/-!
# Runs in any order

`Dispatch.run` follows one order of events. The theorems about a run hold for every order: a
`Setup.Run` is a sequence of events, each possible where it happens, and whichever task takes the
next step, whenever the user interrupts and however time passes, the sequence is a run. `past` keeps
the moments of it, so that a theorem can speak of what has been.

Two things are proved once and used everywhere. `Run.preserves` carries a property of states along a
run, and `Step.lane` says what becomes of the lane of one host in one event. The second rests on the
order in which slots are given (`Step.orderly`): whoever gets a slot has waited for it.
-/

namespace Fleet

/-- One event of a run, with the states before and after it. -/
structure Moment where
  before : State
  /-- What happened. -/
  event : Event
  after : State

/-- Whether an event is a turn of the worker of a host. -/
def Event.isTurn (i : Nat) : Event → Bool
  | .act (.worker j) => j == i
  | _ => false

theorem Event.isTurn_eq_false {i : Nat} {e : Event} (rests : e ≠ .act (.worker i)) :
    e.isTurn i = false := by
  unfold isTurn
  split
  · next j => exact beq_eq_false_iff_ne.mpr fun same => rests (by rw [same])
  · rfl

/-- What is picked from a history that is longer by one. -/
theorem filterMap_snoc {α β : Type} (pick : α → Option β) (past : List α) (last : α) :
    (past ++ [last]).filterMap pick = past.filterMap pick ++ (pick last).toList := by
  rw [List.filterMap_append]
  cases picked : pick last with
  | none => rw [List.filterMap_cons_none picked, List.filterMap_nil, Option.toList_none]
  | some b => rw [List.filterMap_cons_some picked, List.filterMap_nil, Option.toList_some]

/-- What is not among the events of a history happens at none of its moments. -/
theorem Moment.event_ne {past : List Moment} {e : Event} (absent : e ∉ past.map Moment.event) :
    ∀ moment ∈ past, moment.event ≠ e :=
  fun _ among same => absent (same ▸ List.mem_map_of_mem among)

namespace Setup

/-- `setup.Run s past s'`: the events of `past` lead from `s` to `s'`. -/
inductive Run (setup : Setup) (s : State) : List Moment → State → Prop where
  /-- Nothing has happened. -/
  | nil : Run setup s [] s
  /-- One more event. -/
  | snoc {past : List Moment} {t t' : State} {e : Event} (run : Run setup s past t)
      (step : setup.step? t e = some t') : Run setup s (past ++ [⟨t, e, t'⟩]) t'

/-- The state after a list of events, if each of them is possible. -/
def replay? (setup : Setup) : State → List Event → Option State
  | s, [] => some s
  | s, e :: rest => (setup.step? s e).bind fun t => replay? setup t rest

/-- The moments of a list of events, as far as they are possible. -/
def moments (setup : Setup) : State → List Event → List Moment
  | _, [] => []
  | s, e :: rest =>
    match setup.step? s e with
    | some t => ⟨s, e, t⟩ :: moments setup t rest
    | none => []

namespace Run

variable {setup : Setup} {s t : State} {past : List Moment}

theorem single {e : Event} (step : setup.step? s e = some t) : setup.Run s [⟨s, e, t⟩] t :=
  .snoc .nil step

theorem append {u : State} {later : List Moment} (first : setup.Run s past t)
    (second : setup.Run t later u) : setup.Run s (past ++ later) u := by
  induction second with
  | nil => rwa [List.append_nil]
  | snoc _ step ih =>
    rw [← List.append_assoc]
    exact .snoc ih step

/-- Events that are possible one after another are a run. -/
theorem of_moments {events : List Event} (replayed : setup.replay? s events = some t) :
    setup.Run s (setup.moments s events) t ∧
      (setup.moments s events).map Moment.event = events := by
  induction events generalizing s with
  | nil => cases replayed; exact ⟨.nil, rfl⟩
  | cons e rest ih =>
    obtain ⟨u, step, replayed⟩ := Option.bind_eq_some_iff.mp replayed
    obtain ⟨run, same⟩ := ih replayed
    simp only [moments, step]
    exact ⟨(single step).append run, by rw [List.map_cons, same]⟩

theorem of_replay? {events : List Event} (replayed : setup.replay? s events = some t) :
    ∃ past, setup.Run s past t ∧ past.map Moment.event = events :=
  ⟨_, of_moments replayed⟩

/-- Events that are possible one after another carry a run on. -/
theorem further (_ : setup.Run s past t) (events : List Event) {u : State}
    (replayed : setup.replay? t events = some u) :
    ∃ later, setup.Run t later u ∧ later.map Moment.event = events :=
  of_replay? replayed

/-- **What every event keeps, a run keeps.** -/
theorem preserves {P : State → Prop} (run : setup.Run s past t) (start : P s)
    (keeps : ∀ u e u', setup.Step u e u' → P u → P u') : P t := by
  induction run with
  | nil => exact start
  | snoc _ step ih => exact keeps _ _ _ (step?_step step) ih

/-- **A run cut at one of its moments**: up to it, and from there on. -/
theorem cut {earlier later : List Moment} {moment : Moment} (run : setup.Run s past t)
    (whole : past = earlier ++ moment :: later) :
    setup.Run s earlier moment.before ∧
      setup.Step moment.before moment.event moment.after ∧ setup.Run moment.after later t := by
  induction run generalizing later with
  | nil => cases earlier <;> cases whole
  | @snoc past u u' e run step ih =>
    rcases List.eq_nil_or_concat later with rfl | ⟨rest, last, rfl⟩
    · obtain ⟨rfl, same⟩ := List.append_inj' whole rfl
      obtain rfl := (List.cons.inj same).1
      exact ⟨run, step?_step step, .nil⟩
    · rw [List.concat_eq_append, ← List.cons_append, ← List.append_assoc] at whole
      obtain ⟨before, same⟩ := List.append_inj' whole rfl
      obtain rfl := (List.cons.inj same).1
      obtain ⟨first, one, second⟩ := ih before
      exact ⟨first, one, List.concat_eq_append ▸ second.snoc step⟩

theorem split {moment : Moment} (run : setup.Run s past t) (among : moment ∈ past) :
    ∃ earlier later, setup.Run s earlier moment.before ∧
      setup.Step moment.before moment.event moment.after ∧ setup.Run moment.after later t ∧
      past = earlier ++ moment :: later := by
  obtain ⟨earlier, later, whole⟩ := List.append_of_mem among
  obtain ⟨first, one, second⟩ := run.cut whole
  exact ⟨earlier, later, first, one, second, whole⟩

theorem length (run : setup.Run s past t) : t.lanes.length = s.lanes.length :=
  run.preserves (P := fun u => u.lanes.length = s.lanes.length) rfl
    fun _ _ _ step same => step.length.trans same

end Run

end Setup

/-! ## The dispatcher takes the hosts in order -/

namespace State

/-- The dispatcher waits for a slot for some host, and no host from that one on has got one. -/
def Orderly (s : State) : Prop :=
  ∀ next waiting, s.dispatcher = .admitting next waiting → next < s.lanes.length ∧
    ∀ i lane, next ≤ i → s.lanes[i]? = some lane → lane.worker = .waiting

end State

namespace Dispatcher

/-- Where the dispatcher waits for slots, a notice does not change for which. -/
theorem notice_eq_admitting {d : Dispatcher} {next : Nat} {waiting : Waiting}
    (after : d.notice = .admitting next waiting) : ∃ before, d = .admitting next before := by
  cases d with
  | admitting next' before =>
    obtain ⟨rfl, -⟩ := Dispatcher.admitting.inj after
    exact ⟨before, rfl⟩
  | _ => cases after

/-- The dispatcher that goes on to the next host. -/
theorem before_eq_admitting {next nhosts host : Nat} {waiting : Waiting}
    (after : before next nhosts = .admitting host waiting) : host = next ∧ next < nhosts := by
  unfold before at after
  split at after
  · next bound => exact ⟨(Dispatcher.admitting.inj after).1.symm, bound⟩
  · cases after

end Dispatcher

namespace Setup

variable {setup : Setup} {s s' : State}

/-- A turn leaves the dispatcher with the host it waits for. -/
theorem Turn.admitting {i : Nat} {lane lane' : Lane} {t : State} {next : Nat} {waiting : Waiting}
    (turn : setup.Turn s i lane lane' t) (after : t.dispatcher = .admitting next waiting) :
    ∃ before, s.dispatcher = .admitting next before := by
  cases turn
  case announce => exact Dispatcher.notice_eq_admitting after
  all_goals exact ⟨_, after⟩

/-- The worker that takes a turn has got its slot. -/
theorem Turn.ne_waiting {i : Nat} {lane lane' : Lane} {t : State}
    (turn : setup.Turn s i lane lane' t) : lane.worker ≠ .waiting := by
  intro idle
  cases turn <;> simp_all

/-- **The dispatcher gives slots in order.** -/
theorem Step.orderly {e : Event} (step : setup.Step s e s') (orderly : s.Orderly) :
    s'.Orderly := by
  intro next waiting after
  -- whoever waits for a slot after the event waited for it before, or was the next to come
  have before : (∃ earlier, s.dispatcher = .admitting next earlier) ∨
      ∃ n noticed, s.dispatcher = .admitting n (.registered noticed) ∧ next = n + 1 ∧
        next < s.lanes.length := by
    cases step with
    | work _ turn => exact .inl (turn.admitting after)
    | grant here _ =>
      obtain ⟨rfl, bound⟩ := Dispatcher.before_eq_admitting after
      exact .inr ⟨_, _, here, rfl, bound⟩
    | lineUp here _ _ | park here _ =>
      obtain ⟨rfl, -⟩ := Dispatcher.admitting.inj after
      exact .inl ⟨_, here⟩
    | _ => first | exact .inl ⟨_, after⟩ | cases after
  have idle : ∀ i lane, next ≤ i → s.lanes[i]? = some lane → lane.worker = .waiting := by
    intro i lane bound old
    rcases before with ⟨_, here⟩ | ⟨n, _, here, rfl, -⟩
    · exact (orderly _ _ here).2 i lane bound old
    · exact (orderly _ _ here).2 i lane (by omega) old
  constructor
  · rw [step.length]
    rcases before with ⟨_, here⟩ | ⟨_, _, _, _, bound⟩
    · exact (orderly _ _ here).1
    · exact bound
  · intro i lane' bound found
    have inside := (List.getElem?_eq_some_iff.mp found).1
    have old := List.getElem?_eq_getElem (step.length ▸ inside)
    by_cases own : e = .act (.worker i)
    · subst own
      obtain ⟨lane, _, _, there, turn, -⟩ := step.own
      exact absurd (idle i lane bound there) turn.ne_waiting
    · obtain ⟨lane, there, change⟩ := step.other own old
      obtain rfl : lane = lane' := Option.some.inj (there.symm.trans found)
      cases change with
      | same => exact idle i _ bound old
      | asked => exact (Lane.abort_worker _).trans (idle i _ bound old)
      | granted _ ahead =>
        have := Dispatcher.before_eq_admitting (ahead.symm.trans after)
        omega

/-- What becomes of the lane of one host in one event, when slots are given in order. -/
inductive Passage (setup : Setup) (s : State) (e : Event) (s' : State) (i : Nat) (lane : Lane) :
    Lane → Prop where
  /-- Its own worker takes a turn. -/
  | turn {lane' : Lane} {t : State} (own : e = .act (.worker i))
      (turn : setup.Turn s i lane lane' t) (after : s' = t.putLane i lane') :
      Passage setup s e s' i lane lane'
  /-- Nothing. -/
  | same (rests : e ≠ .act (.worker i)) : Passage setup s e s' i lane lane
  | asked (rests : e ≠ .act (.worker i)) : Passage setup s e s' i lane lane.abort
  /-- It gets the slot that it waits for. -/
  | granted (rests : e ≠ .act (.worker i)) (idle : lane.worker = .waiting) :
      Passage setup s e s' i lane (lane.moveTo .admitted)

/-- **What becomes of one lane in one event.** -/
theorem Step.lane {e : Event} {i : Nat} {lane : Lane} (step : setup.Step s e s')
    (orderly : s.Orderly) (found : s.lanes[i]? = some lane) :
    ∃ lane', s'.lanes[i]? = some lane' ∧ setup.Passage s e s' i lane lane' := by
  by_cases own : e = .act (.worker i)
  · subst own
    obtain ⟨lane₂, lane', t, there, turn, rfl⟩ := step.own
    obtain rfl : lane₂ = lane := Option.some.inj (there.symm.trans found)
    exact ⟨lane', turn.lane found, .turn rfl turn rfl⟩
  · obtain ⟨lane', there, change⟩ := step.other own found
    refine ⟨lane', there, ?_⟩
    cases change with
    | same => exact .same own
    | asked => exact .asked own
    | granted here _ =>
      have idle := (orderly _ _ here).2 i lane (Nat.le_refl i) found
      exact .granted own idle

/-- The same, seen from the state after the event. -/
theorem Step.lane_before {e : Event} {i : Nat} {lane' : Lane} (step : setup.Step s e s')
    (orderly : s.Orderly) (found : s'.lanes[i]? = some lane') :
    ∃ lane, s.lanes[i]? = some lane ∧ setup.Passage s e s' i lane lane' := by
  have inside := (List.getElem?_eq_some_iff.mp found).1
  have old := List.getElem?_eq_getElem (step.length ▸ inside)
  obtain ⟨lane₂, there, passage⟩ := step.lane orderly old
  obtain rfl : lane₂ = lane' := Option.some.inj (there.symm.trans found)
  exact ⟨_, old, passage⟩

/-- **What everything that can happen to a lane keeps, an event keeps.** -/
theorem Step.lane_keeps {e : Event} {i : Nat} {lane' : Lane} {Q : Lane → Prop}
    (step : setup.Step s e s') (orderly : s.Orderly) (found : s'.lanes[i]? = some lane')
    (held : ∀ lane, s.lanes[i]? = some lane → Q lane) (asked : ∀ lane, Q lane → Q lane.abort)
    (granted : ∀ lane, lane.worker = .waiting → Q lane → Q (lane.moveTo .admitted))
    (turn : ∀ lane lane' t, setup.Turn s i lane lane' t → Q lane → Q lane') : Q lane' := by
  obtain ⟨lane, there, passage⟩ := step.lane_before orderly found
  have holds := held lane there
  cases passage with
  | turn _ turns _ => exact turn lane lane' _ turns holds
  | same => exact holds
  | asked => exact asked lane holds
  | granted _ idle => exact granted lane idle holds

end Setup

end Fleet
