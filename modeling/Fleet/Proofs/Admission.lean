import Fleet.Proofs.Faults
import Fleet.Proofs.Gate

/-!
# No slot stands idle

In a run one task waits before the gate, the dispatcher: for a slot for each host in turn, and in
the end for all slots to be free. The workers give the slots back. What holds of the tasks before
any gate holds of it: it is parked without a notice only for a reason, or a worker has a free slot
to tell of (`Run.isBarred`).

**The law** (`Run.full`): a dispatch that has come to rest is short of no slot. If hosts are left
that have had none, as many slots are taken as the fanout allows. Which hosts these are is told by
their number: the slots are given in the order of the targets (`Run.admitted_in_order`).
-/

namespace Fleet

/-! ## The dispatcher before the gate -/

namespace Dispatcher

/-- What the dispatcher wants of the gate, and where it stands, as long as it waits there. -/
def wish? : Dispatcher → Option (Gate.Wish × Waiting)
  | admitting _ waiting => some (.admission, waiting)
  | draining waiting => some (.drained, waiting)
  | _ => none

/-- A notice wakes the dispatcher. -/
theorem wish?_notice_ne (d : Dispatcher) (wish : Gate.Wish) :
    d.notice.wish? ≠ some (wish, .parked false) := by
  intro asleep
  cases d with
  | admitting _ waiting | draining waiting =>
    exact waiting.notice_ne_parked (Prod.mk.inj (Option.some.inj asleep)).2
  | _ => cases asleep

theorem wish?_before_ne (next nhosts : Nat) (wish : Gate.Wish) :
    (before next nhosts).wish? ≠ some (wish, .parked false) := by
  unfold before
  split <;> exact fun asleep => by cases asleep

end Dispatcher

/-- Whether the worker has given its slot back and has not told yet. -/
def Worker.isAnnouncing : Worker → Bool
  | announcing _ => true
  | _ => false

namespace State

/-- Some worker has given its slot back and has not told yet. -/
def HasRelease (s : State) : Prop := ∃ worker ∈ s.workers, worker.isAnnouncing = true

/-- If the dispatcher is parked without a notice, it waits for something that is not so, or a notice
is to come. -/
def IsBarred (s : State) : Prop :=
  ∀ wish, s.dispatcher.wish? = some (wish, .parked false) → s.gate.Bars wish ∨ s.HasRelease

end State

namespace Setup

variable {setup : Setup} {s s' s₀ : State} {past : List Moment}

/-- What a turn of a worker can mean to those who wait before the gate. -/
inductive Turn.AtGate (s : State) (lane lane' : Lane) (t : State) : Prop where
  /-- Nothing. -/
  | away (gate : t.gate = s.gate) (dispatcher : t.dispatcher = s.dispatcher)
      (other : lane.worker.isAnnouncing = false)
  /-- It gives its slot back. -/
  | leaves (dispatcher : t.dispatcher = s.dispatcher) (after : lane'.worker.isAnnouncing = true)
  /-- It tells that it did. -/
  | tells (dispatcher : t.dispatcher = s.dispatcher.notice)

theorem Turn.atGate {i : Nat} {lane lane' : Lane} {t : State}
    (turn : setup.Turn s i lane lane' t) : Turn.AtGate s lane lane' t := by
  cases turn with
  | leave here => exact .leaves rfl rfl
  | announce here => exact .tells rfl
  | _ => exact .away rfl rfl (by rw [‹lane.worker = _›]; rfl)

/-- **Every event leaves the dispatcher asleep only for a reason.** -/
theorem Step.isBarred {e : Event} (step : setup.Step s e s') (barred : s.IsBarred) :
    s'.IsBarred := by
  intro wish asleep
  cases step with
  | @work i lane lane' t found turn =>
    have workers : (t.putLane i lane').workers = s.workers.set i lane'.worker := by
      rw [State.putLane_workers, turn.workers]
    have there := State.workers_getElem? found
    cases turn.atGate with
    | away gate dispatcher other =>
      have before : s.dispatcher.wish? = some (wish, .parked false) := dispatcher ▸ asleep
      refine (barred wish before).imp (fun bars => gate.symm ▸ bars) ?_
      -- whoever has not told yet is another worker, and still there
      rintro ⟨worker, among, untold⟩
      obtain ⟨j, placed⟩ := List.mem_iff_getElem?.mp among
      have apart : i ≠ j := by
        rintro rfl
        obtain rfl := Option.some.inj (there.symm.trans placed)
        cases other.symm.trans untold
      refine ⟨worker, List.mem_of_getElem? (i := j) ?_, untold⟩
      rw [workers, List.getElem?_set_ne apart, placed]
    | leaves _ after =>
      refine .inr ⟨lane'.worker, ?_, after⟩
      rw [workers]
      exact List.mem_set (List.getElem?_eq_some_iff.mp there).1 _
    | tells dispatcher =>
      have after : s.dispatcher.notice.wish? = some (wish, .parked false) := dispatcher ▸ asleep
      exact absurd after (s.dispatcher.wish?_notice_ne wish)
  | grant here free => exact absurd asleep (Dispatcher.wish?_before_ne _ _ wish)
  | park here full => cases asleep; exact .inl (Gate.grant?_eq_none_iff.mp full)
  | parkLast here taken => cases asleep; exact .inl (Nat.pos_of_ne_zero taken)
  | fault | lineUp | lineUpLast | drain | blame | join | pass => cases asleep
  | @fire _ next | @abort next =>
    refine (barred wish asleep).imp_right ?_
    rintro ⟨worker, among, untold⟩
    exact ⟨worker, s.abortHost_workers next ▸ among, untold⟩
  | _ => exact barred wish asleep

theorem Run.isBarred {dispatch : Dispatch} (run : setup.Run s₀ past s)
    (starts : dispatch.Starts setup s₀) : s.IsBarred := by
  refine run.preserves ?_ fun _ _ _ step barred => step.isBarred barred
  intro wish asleep
  rw [starts.dispatcher] at asleep
  cases asleep

/-- A dispatcher that has to wait before the gate is parked and without a notice. -/
theorem parked_of_rests {wish : Gate.Wish} {waiting : Waiting}
    (rests : setup.step? s (.act .dispatcher) = none)
    (waits : s.dispatcher.wish? = some (wish, waiting)) : waiting = .parked false := by
  have stuck : dispatch? s = none := by
    change dispatcherStep? s = none at rests
    unfold dispatcherStep? at rests
    split at rests
    · split at rests
      · cases rests
      · exact rests
    · exact rests
  cases here : s.dispatcher with
  | admitting next place | draining place =>
    rw [here] at waits
    cases waits
    simp only [dispatch?, here, Option.map_eq_none_iff] at stuck
    exact Waiting.turn?_eq_none_iff.mp stuck
  | _ =>
    rw [here] at waits
    cases waits

/-- **A dispatch that has come to rest is short of no slot.** If the dispatcher has to wait and no
worker has a free slot to tell of, hosts that have had no slot find all of them taken; and if it
waits for the end of the hosts, some host still has one. -/
theorem Run.full {dispatch : Dispatch} (run : setup.Run s₀ past s)
    (starts : dispatch.Starts setup s₀) (rests : setup.step? s (.act .dispatcher) = none)
    (told : ¬ s.HasRelease) (sound : ∀ e, s.dispatcher ≠ .returned (.error e)) :
    (∀ (i : Nat) (lane : Lane), s.lanes[i]? = some lane → lane.worker = .waiting →
        s.gate.active = dispatch.options.fanoutLimit dispatch.targets.length) ∧
      ∀ waiting, s.dispatcher = .draining waiting → 0 < s.gate.active := by
  have ⟨_, bounded, _, limit⟩ := run.accounted starts
  have bars (wish : Gate.Wish) {waiting : Waiting}
      (waits : s.dispatcher.wish? = some (wish, waiting)) : s.gate.Bars wish := by
    obtain rfl := parked_of_rests rests waits
    exact (run.isBarred starts wish waits).resolve_right told
  refine ⟨fun i lane found idle => ?_, fun waiting here => bars .drained (by rw [here]; rfl)⟩
  have reached := run.reached starts
  have settled := run.settled starts
  cases here : s.dispatcher with
  | admitting next waiting =>
    have full : s.gate.limit ≤ s.gate.active := bars .admission (by rw [here]; rfl)
    exact (Nat.le_antisymm bounded full).trans limit
  | draining waiting =>
    rw [here] at reached
    exact absurd idle (reached i lane (List.getElem?_eq_some_iff.mp found).1 found)
  | joining =>
    rw [here] at reached
    have left := reached i lane found
    rw [idle] at left
    cases left
  | checking =>
    rw [here] at settled
    cases idle.symm.trans (settled i lane found)
  | returned result =>
    cases result with
    | ok =>
      rw [here] at settled
      cases idle.symm.trans (settled i lane found)
    | error e => exact absurd here (sound e)

end Setup

/-! ## The order of the hosts -/

/-- Whether the worker has had no slot. -/
def Worker.isWaiting : Worker → Bool
  | waiting => true
  | _ => false

/-- Whether a host has had no slot. -/
def State.isWaiting (s : State) (i : Nat) : Bool := s.workers[i]?.any Worker.isWaiting

/-- The hosts that get a slot in a moment. -/
def Moment.admitted (moment : Moment) : List Nat :=
  (List.range moment.before.lanes.length).filter fun i =>
    moment.before.isWaiting i && !moment.after.isWaiting i

/-- The hosts that got slots, in the order in which they did. -/
def admissions (past : List Moment) : List Nat := past.flatMap Moment.admitted

theorem Worker.isWaiting_eq_false {worker : Worker} (begun : worker ≠ .waiting) :
    worker.isWaiting = false := by
  cases worker with
  | waiting => exact absurd rfl begun
  | _ => rfl

theorem State.isWaiting_iff {s : State} {i : Nat} : s.isWaiting i = true ↔
    ∃ lane, s.lanes[i]? = some lane ∧ lane.worker = .waiting := by
  unfold isWaiting workers
  rw [List.getElem?_map]
  cases s.lanes[i]? with
  | none => simp
  | some lane => cases here : lane.worker <;> simp [here, Worker.isWaiting]

theorem State.isWaiting_of_workers {s s' : State} {i : Nat} {before after : Worker}
    (found : s.workers[i]? = some before) (moved : s'.workers = s.workers.set i after)
    (same : after.isWaiting = before.isWaiting) : s'.isWaiting = s.isWaiting := by
  funext j
  unfold isWaiting
  rw [moved]
  by_cases own : i = j
  · subst own
    rw [List.getElem?_set_self (List.getElem?_eq_some_iff.mp found).1, found, Option.any_some,
      Option.any_some, same]
  · rw [List.getElem?_set_ne own]

/-- A host that gets a slot is the only one that does. -/
theorem State.isWaiting_of_granted {s s' : State} {n : Nat} (inside : n < s.lanes.length)
    (moved : s'.workers = s.workers.set n .admitted) (i : Nat) :
    s'.isWaiting i = (s.isWaiting i && i != n) := by
  unfold isWaiting
  rw [moved]
  by_cases own : i = n
  · subst own
    rw [List.getElem?_set_self (by rw [workers, List.length_map]; exact inside), bne_self_eq_false,
      Bool.and_false]
    rfl
  · rw [List.getElem?_set_ne (Ne.symm own), bne_iff_ne.mpr own, Bool.and_true]

theorem Moment.admitted_eq_singleton {moment : Moment} {n : Nat}
    (inside : n < moment.before.lanes.length) (waits : moment.before.isWaiting n = true)
    (after : ∀ i, moment.after.isWaiting i = (moment.before.isWaiting i && i != n)) :
    moment.admitted = [n] := by
  have only : moment.admitted = (List.range moment.before.lanes.length).filter (· == n) := by
    refine List.filter_congr fun i _ => ?_
    rw [after]
    by_cases own : i = n
    · subst own
      rw [waits, bne_self_eq_false, beq_self_eq_true]
      rfl
    · rw [bne_iff_ne.mpr own, beq_eq_false_iff_ne.mpr own, Bool.and_true, Bool.and_not_self]
  have once : (List.range moment.before.lanes.length).count n = 1 := by
    rw [List.nodup_range.count, if_pos (List.mem_range.mpr inside)]
  rw [only, List.filter_beq, once, List.replicate_one]

theorem Moment.admitted_eq_nil {moment : Moment}
    (same : moment.after.isWaiting = moment.before.isWaiting) : moment.admitted = [] := by
  refine List.filter_eq_nil_iff.mpr fun i _ => ?_
  rw [same, Bool.and_not_self]
  exact Bool.false_ne_true

namespace Setup

variable {setup : Setup} {s s' s₀ : State} {past : List Moment}

/-- Hosts get slots from the dispatcher, one in a moment. -/
theorem Step.isWaiting {e : Event} (step : setup.Step s e s') (orderly : s.Orderly) :
    s'.isWaiting = s.isWaiting ∨ ∃ next noticed,
      s.dispatcher = .admitting next (.registered noticed) ∧
        s'.workers = s.workers.set next .admitted := by
  cases step with
  | @work i lane lane' t found turn =>
    have moved : (t.putLane i lane').workers = s.workers.set i lane'.worker := by
      rw [State.putLane_workers, turn.workers]
    refine .inl (State.isWaiting_of_workers (State.workers_getElem? found) moved ?_)
    rw [Worker.isWaiting_eq_false turn.begun, Worker.isWaiting_eq_false turn.ne_waiting]
  | @grant next noticed gate here free =>
    have found := List.getElem?_eq_getElem (orderly _ _ here).1
    refine .inr ⟨next, noticed, here, ?_⟩
    show (s.moveWorker next .admitted).workers = _
    rw [State.moveWorker_eq_putLane found, State.putLane_workers, Lane.moveTo_worker]
  | @fire _ next | @abort next =>
    have same := s.abortHost_workers next
    exact .inl (funext fun i => congrArg (fun workers => workers[i]?.any Worker.isWaiting) same)
  | _ => exact .inl rfl

theorem admissions_snoc (past : List Moment) (moment : Moment) :
    admissions (past ++ [moment]) = admissions past ++ moment.admitted := by
  rw [admissions, admissions, List.flatMap_append, List.flatMap_singleton]

/-- **The hosts get their slots in the order of the targets**, each one once: those that have had
one are the first so many. -/
theorem Run.admitted_in_order {dispatch : Dispatch} (run : setup.Run s₀ past s)
    (starts : dispatch.Starts setup s₀) : ∃ n, n ≤ s.lanes.length ∧
      admissions past = List.range n ∧ ∀ i, s.isWaiting i = true ↔ n ≤ i ∧ i < s.lanes.length := by
  induction run with
  | nil =>
    refine ⟨0, Nat.zero_le _, rfl, fun i => ⟨fun idle => ?_, fun ⟨_, inside⟩ => ?_⟩⟩
    · obtain ⟨lane, found, -⟩ := State.isWaiting_iff.mp idle
      exact ⟨Nat.zero_le i, (List.getElem?_eq_some_iff.mp found).1⟩
    · have found := List.getElem?_eq_getElem inside
      exact State.isWaiting_iff.mpr ⟨_, found, (starts.fresh found).worker⟩
  | @snoc past t t' e run step ih =>
    obtain ⟨n, bound, order, idle⟩ := ih
    have orderly := run.orderly starts
    have reached := run.reached starts
    have step := step?_step step
    rw [step.length, admissions_snoc, order]
    rcases step.isWaiting orderly with same | ⟨next, noticed, here, moved⟩
    · refine ⟨n, bound, ?_, same ▸ idle⟩
      rw [Moment.admitted_eq_nil same, List.append_nil]
    · rw [here] at reached
      obtain ⟨inside, ahead⟩ := orderly _ _ here
      have found := List.getElem?_eq_getElem inside
      have waits : t.isWaiting next = true :=
        State.isWaiting_iff.mpr ⟨_, found, ahead next _ (Nat.le_refl next) found⟩
      -- the host that gets the slot is the first that has had none
      obtain rfl : n = next := by
        refine Nat.le_antisymm ((idle next).mp waits).1 (Nat.le_of_not_lt fun before => ?_)
        obtain ⟨lane, there, begun⟩ :=
          State.isWaiting_iff.mp ((idle n).mpr ⟨Nat.le_refl n, Nat.lt_trans before inside⟩)
        exact reached n lane before there begun
      have after := State.isWaiting_of_granted inside moved
      refine ⟨n + 1, inside, ?_, fun i => ?_⟩
      · rw [Moment.admitted_eq_singleton inside waits after, List.range_succ]
      · rw [after, Bool.and_eq_true, idle, bne_iff_ne]
        omega

end Setup

/-- **No slot stands idle and no end is missed.** Before any gate, in every order of the moments: a
task that waits for a slot, parked and without a notice, finds all slots taken, unless one was given
back and the notice is to come; and one that waits for all slots to be free finds one taken, with
the same exception. The same holds of the dispatcher in every state that a dispatch can come to, and
the hosts get their slots in the order of the targets. So where the dispatcher has to wait, no
worker has a slot to tell of and no fault was returned, as many slots are taken as the fanout allows
if there is a host that has had none. -/
theorem no_idle_slot :
    (∀ (Id : Type) [DecidableEq Id] (limit : Nat) (hall : Hall Id), Hall.Reachable limit hall →
      ∀ task ∈ hall.tasks, task.waiting = .parked false →
        (task.wish = .admission → hall.gate.active = max limit 1 ∨ 0 < hall.unannounced) ∧
        (task.wish = .drained → 0 < hall.gate.active ∨ 0 < hall.unannounced)) ∧
    ∀ (dispatch : Dispatch) (setup : Setup) (s₀ : State) (past : List Moment) (s : State),
      dispatch.Starts setup s₀ → setup.Run s₀ past s →
      let limit := dispatch.options.fanoutLimit dispatch.targets.length
      (∀ next, s.dispatcher = .admitting next (.parked false) →
        s.gate.active = limit ∨ s.HasRelease) ∧
      (s.dispatcher = .draining (.parked false) → 0 < s.gate.active ∨ s.HasRelease) ∧
      (∃ n, admissions past = List.range n ∧ ∀ (i : Nat) (lane : Lane), s.lanes[i]? = some lane →
        (lane.worker = .waiting ↔ n ≤ i)) ∧
      (setup.step? s (.act .dispatcher) = none → ¬ s.HasRelease →
        (∀ e, s.dispatcher ≠ .returned (.error e)) → ∀ (i : Nat) (lane : Lane),
          s.lanes[i]? = some lane → lane.worker = .waiting → s.gate.active = limit) := by
  constructor
  · intro Id _ limit hall reachable task among asleep
    have sound := reachable.isSound
    have barred := sound.barred task among asleep
    refine ⟨fun wish => barred.imp_left fun bars => ?_, fun wish => barred.imp_left fun bars => ?_⟩
    · rw [wish] at bars
      exact (Nat.le_antisymm sound.bounded bars).trans sound.limit
    · rw [wish] at bars
      exact bars
  · intro dispatch setup s₀ past s starts run limit
    have ⟨_, bounded, _, same⟩ := run.accounted starts
    have barred := run.isBarred starts
    obtain ⟨n, -, order, idle⟩ := run.admitted_in_order starts
    refine ⟨fun next here => ?_, fun here => ?_, ⟨n, order, fun i lane found => ?_⟩,
      fun rests told sound => (run.full starts rests told sound).1⟩
    · refine (barred .admission (by rw [here]; rfl)).imp_left fun bars => ?_
      exact (Nat.le_antisymm bounded bars).trans same
    · exact barred .drained (by rw [here]; rfl)
    · have inside := (List.getElem?_eq_some_iff.mp found).1
      constructor
      · intro waits
        exact ((idle i).mp (State.isWaiting_iff.mpr ⟨lane, found, waits⟩)).1
      · intro later
        obtain ⟨lane', found', waits⟩ := State.isWaiting_iff.mp ((idle i).mpr ⟨later, inside⟩)
        obtain rfl := Option.some.inj (found.symm.trans found')
        exact waits

/-- Before a gate with one slot, which the first of two tasks gets, the second is parked. Of two
hosts that take turns the second waits for the first. -/
theorem no_idle_slot_secondWaits :
    (∃ hall : Hall Nat, Hall.Reachable 1 hall ∧ hall.tasks = [⟨1, .admission, .parked false⟩] ∧
      hall.gate.active = 1) ∧
    ∃ setup s₀ past s, (Setup.twoInTurn fun _ => ⟨none, .crash⟩).Starts setup s₀ ∧
      setup.Run s₀ past s ∧ setup.step? s (.act .dispatcher) = none ∧ admissions past = [0] ∧
      s.isWaiting 1 = true ∧ s.gate.active = 1 := by
  constructor
  · have reachable : Hall.Reachable 1 (_ : Hall Nat) :=
      .step (.step (.step (.step (.step (.step .start (.ask 0 .admission) rfl)
        (.turn 0) rfl) (.turn 0) rfl) (.ask 1 .admission) rfl) (.turn 0) rfl) (.turn 0) rfl
    have full := (no_idle_slot.1 Nat 1 _ reachable _ (List.mem_singleton_self _) rfl).1 rfl
    exact ⟨_, reachable, rfl, full.resolve_right (by decide)⟩
  · have starts := Dispatch.ofScript.starts (fun _ => ⟨none, .crash⟩)
      { fanout := 1, localUser := "u" } "a" ["b"]
    obtain ⟨past, run, -⟩ := starts.run.further [.act .dispatcher, .act .dispatcher,
      .act .dispatcher, .act .dispatcher] rfl
    obtain ⟨-, -, ⟨n, order, idle⟩, full⟩ := no_idle_slot.2 _ _ _ _ _ starts run
    have one : n = 1 := by
      have first : ¬ n ≤ 0 := fun none => by cases (idle 0 _ rfl).mpr none
      have second : n ≤ 1 := (idle 1 _ rfl).mp rfl
      omega
    subst one
    refine ⟨_, _, past, _, starts, run, rfl, order, rfl, ?_⟩
    refine full rfl ?_ (fun _ no => by cases no) 1 _ rfl rfl
    rintro ⟨worker, among, untold⟩
    rcases List.mem_cons.mp among with rfl | among
    · cases untold
    · obtain rfl := List.mem_singleton.mp among
      cases untold

end Fleet
