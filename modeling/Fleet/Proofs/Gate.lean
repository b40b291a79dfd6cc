import Fleet.Proofs.Slots
import Fleet.Proofs.Waiting

/-!
# Waiting before a gate

Whoever waits before a gate registers for the next notice, tests, and parks if the test was in vain;
whoever gives a slot back counts it as free and gives notice afterwards. Between any two of these
moments other tasks may take theirs. A task counts as parked from its test on: whether it has gone
to sleep by the time a notice comes makes no difference, as it registered for it before.

**The law** (`Reachable.isSound`): a task that is parked without a notice has reason to be, or the
notice is on its way. Either the gate still does not grant its wish, or somebody has counted a slot
as free and not told yet. The test that lets a task park and the count that would have let it
through are ordered by the gate, and the notice follows the count; so no order of the moments loses
one.

Tasks come to rest by themselves (`queue_isOrderly`), and then all slots are taken if somebody waits
for one (`Reachable.play`).
-/

namespace Fleet

namespace Gate

/-- The gate does not grant a wish now. -/
def Bars (gate : Gate) : Wish → Prop
  | .admission => gate.limit ≤ gate.active
  | .drained => 0 < gate.active

variable {gate next : Gate} {wish : Wish}

theorem grant?_eq_none_iff : gate.grant? wish = none ↔ gate.Bars wish := by
  cases wish with
  | admission =>
    simp only [grant?, take?, Bars]
    split <;> simp <;> omega
  | drained =>
    simp only [grant?, Bars]
    split <;> simp <;> omega

/-- Whose wish is not granted, waits on when somebody else gets a slot. -/
theorem Bars.take? (bars : gate.Bars wish) (taken : gate.take? = some next) : next.Bars wish := by
  obtain ⟨-, limit, active, -⟩ := take?_eq_some taken
  cases wish with
  | admission =>
    show next.limit ≤ next.active
    rw [limit, active]
    exact Nat.le_succ_of_le bars
  | drained =>
    show 0 < next.active
    rw [active]
    exact Nat.succ_pos _

end Gate

/-! ## Tasks before a gate -/

namespace Hall

variable {Id : Type} {hall hall' : Hall Id}

/-- `hall.Turn place hall'`: what the turn of the task at a place can come to. -/
inductive Turn (hall : Hall Id) (place : Nat) : Hall Id → Prop where
  /-- It registers. -/
  | register {task : GateTask Id} (found : hall.tasks[place]? = some task)
      (ready : task.waiting = .arriving ∨ task.waiting = .parked true) :
      Turn hall place (hall.stand place task (.registered false))
  /-- It gets a slot. -/
  | enter {task : GateTask Id} {noticed : Bool} {gate : Gate}
      (found : hall.tasks[place]? = some task) (here : task.waiting = .registered noticed)
      (wish : task.wish = .admission) (free : hall.gate.take? = some gate) :
      Turn hall place { hall with
        gate, tasks := hall.tasks.eraseIdx place, held := hall.held ++ [task.id] }
  /-- It sees that all slots are free. -/
  | drain {task : GateTask Id} {noticed : Bool} (found : hall.tasks[place]? = some task)
      (here : task.waiting = .registered noticed) (wish : task.wish = .drained)
      (empty : hall.gate.active = 0) :
      Turn hall place { hall with
        tasks := hall.tasks.eraseIdx place, drained := hall.drained ++ [task.id] }
  /-- Its wish is not granted. -/
  | park {task : GateTask Id} {noticed : Bool} (found : hall.tasks[place]? = some task)
      (here : task.waiting = .registered noticed) (barred : hall.gate.Bars task.wish) :
      Turn hall place (hall.stand place task (.parked noticed))

/-- **The list of turns is complete.** -/
theorem turn?_turn {place : Nat} (turn : hall.turn? place = some hall') :
    hall.Turn place hall' := by
  obtain ⟨task, found, turn⟩ := Option.bind_eq_some_iff.mp turn
  obtain ⟨result, tested, rfl⟩ := Option.map_eq_some_iff.mp turn
  cases result with
  | stands waiting =>
    rcases Waiting.turn?_eq_stands_iff.mp tested with ⟨ready, rfl⟩ | ⟨noticed, here, barred, rfl⟩
    · exact .register found ready
    · exact .park found here (Gate.grant?_eq_none_iff.mp barred)
  | passes gate =>
    obtain ⟨noticed, here, granted⟩ := Waiting.turn?_eq_passes_iff.mp tested
    cases wish : task.wish with
    | admission =>
      rw [wish] at granted
      simp only [letThrough, wish]
      exact .enter found here wish granted
    | drained =>
      rw [wish, Gate.grant?] at granted
      split at granted
      · next empty =>
        cases granted
        simp only [letThrough, wish]
        exact .drain found here wish empty
      · cases granted

theorem Turn.unannounced {place : Nat} (turn : hall.Turn place hall') :
    hall'.unannounced = hall.unannounced := by
  cases turn <;> rfl

/-- A turn is possible unless the task is parked without a notice. -/
theorem turn?_eq_none_iff {place : Nat} {task : GateTask Id}
    (found : hall.tasks[place]? = some task) :
    hall.turn? place = none ↔ task.waiting = .parked false := by
  rw [turn?, found, Option.bind_some, Option.map_eq_none_iff, Waiting.turn?_eq_none_iff]

/-- **Every turn pays for itself.** -/
theorem debt_lt_of_turn? {place : Nat} (turn : hall.turn? place = some hall') :
    Waiting.debt (hall'.tasks.map GateTask.waiting)
      < Waiting.debt (hall.tasks.map GateTask.waiting) := by
  obtain ⟨task, found, turn⟩ := Option.bind_eq_some_iff.mp turn
  obtain ⟨result, tested, rfl⟩ := Option.map_eq_some_iff.mp turn
  have stood : (hall.tasks.map GateTask.waiting)[place]? = some task.waiting := by
    rw [List.getElem?_map, found, Option.map_some]
  cases result with
  | stands waiting =>
    simp only [stand, List.map_set]
    exact Waiting.debt_lt_of_stands stood tested
  | passes gate =>
    have left : (hall.letThrough place task gate).tasks = hall.tasks.eraseIdx place := by
      unfold letThrough
      cases task.wish <;> rfl
    simp only [left, ← List.eraseIdx_map]
    exact Waiting.debt_lt_of_passes stood tested

/-- **The tasks before a gate wait in order.** -/
theorem queue_isOrderly [DecidableEq Id] : (queue : Queue (Hall Id) (Move Id)).IsOrderly where
  able {hall place waiting} there := by
    obtain ⟨task, found, rfl⟩ := Option.map_eq_some_iff.mp (List.getElem?_map.symm.trans there)
    exact turn?_eq_none_iff found
  paid turn := debt_lt_of_turn? turn

/-! ### What every moment keeps -/

variable {limit : Nat}

/-- Slots are counted, and nobody is parked without reason. -/
structure IsSound (limit : Nat) (hall : Hall Id) : Prop where
  limit : hall.gate.limit = max limit 1
  counted : hall.gate.active = hall.held.length
  bounded : hall.gate.active ≤ hall.gate.limit
  /-- Whoever is parked without a notice waits for something that is not so, or a notice is to
  come. -/
  barred : ∀ task ∈ hall.tasks, task.waiting = .parked false →
    hall.gate.Bars task.wish ∨ 0 < hall.unannounced

theorem isSound_start (limit : Nat) : ({ gate := .ofLimit limit } : Hall Id).IsSound limit where
  limit := rfl
  counted := rfl
  bounded := Nat.zero_le _
  barred := fun _ among => absurd among List.not_mem_nil

theorem Turn.isSound {place : Nat} (turn : hall.Turn place hall') (sound : hall.IsSound limit) :
    hall'.IsSound limit := by
  cases turn with
  | register found ready =>
    refine ⟨sound.limit, sound.counted, sound.bounded, fun task among asleep => ?_⟩
    rcases List.mem_or_eq_of_mem_set among with old | rfl
    · exact sound.barred task old asleep
    · cases asleep
  | enter found here wish free =>
    obtain ⟨room, limit, active, -⟩ := Gate.take?_eq_some free
    refine ⟨limit.trans sound.limit, ?_, ?_, fun task among asleep => ?_⟩
    · rw [active, sound.counted, List.length_append, List.length_singleton]
    · rw [active, limit]
      exact room
    · exact (sound.barred task (List.mem_of_mem_eraseIdx among) asleep).imp_left fun bars =>
        bars.take? free
  | drain found here wish empty =>
    exact ⟨sound.limit, sound.counted, sound.bounded, fun task among =>
      sound.barred task (List.mem_of_mem_eraseIdx among)⟩
  | park found here barred =>
    refine ⟨sound.limit, sound.counted, sound.bounded, fun task among asleep => ?_⟩
    rcases List.mem_or_eq_of_mem_set among with old | rfl
    · exact sound.barred task old asleep
    · exact .inl barred

variable [DecidableEq Id]

/-- **Every moment keeps the gate sound.** -/
theorem isSound_step {move : Move Id} (step : hall.step? move = some hall')
    (sound : hall.IsSound limit) : hall'.IsSound limit := by
  cases move with
  | ask id wish =>
    cases step
    refine ⟨sound.limit, sound.counted, sound.bounded, fun task among asleep => ?_⟩
    rcases List.mem_append.mp among with old | new
    · exact sound.barred task old asleep
    · obtain rfl := List.mem_singleton.mp new
      cases asleep
  | turn place => exact (turn?_turn step).isSound sound
  | release id =>
    simp only [step?] at step
    split at step
    · next holds =>
      cases step
      refine ⟨sound.limit, ?_, Nat.le_trans (Nat.sub_le ..) sound.bounded, fun _ _ _ =>
        .inr (Nat.succ_pos _)⟩
      rw [Gate.release, sound.counted, List.length_erase_of_mem holds]
    · cases step
  | announce =>
    simp only [step?] at step
    split at step
    · cases step
    · cases step
      refine ⟨sound.limit, sound.counted, sound.bounded, fun task among asleep => ?_⟩
      obtain ⟨before, -, rfl⟩ := List.mem_map.mp among
      exact absurd asleep before.waiting.notice_ne_parked

/-- What can come about before a gate with so many slots, where nobody was at first. -/
inductive Reachable (limit : Nat) : Hall Id → Prop where
  | start : Reachable limit { gate := .ofLimit limit }
  | step {hall hall' : Hall Id} (before : Reachable limit hall) (move : Move Id)
      (step : hall.step? move = some hall') : Reachable limit hall'

/-- **Nobody sleeps before a gate without reason.** -/
theorem Reachable.isSound (reachable : Reachable limit hall) : hall.IsSound limit := by
  induction reachable with
  | start => exact isSound_start limit
  | step _ _ step ih => exact isSound_step step ih

/-- The slots given back of which notice is to come. -/
theorem queue_owes : (queue : Queue (Hall Id) (Move Id)).Owes unannounced where
  move {hall move hall'} step := by
    cases move with
    | ask id wish => cases step; exact Nat.le_succ _
    | turn place => exact Nat.le_succ_of_le (Nat.le_of_eq (turn?_turn step).unannounced)
    | release id =>
      simp only [queue, step?] at step
      split at step
      · cases step; exact Nat.le_refl _
      · cases step
    | announce =>
      simp only [queue, step?] at step
      split at step
      · cases step
      · cases step; exact Nat.le_succ_of_le (Nat.sub_le ..)
  turn step := (turn?_turn step).unannounced
  announce hall := by
    simp only [queue, step?]
    split
    · next none => rw [Option.getD_none, none]
    · rfl

/-- **A gate at rest is short of no slot.** After each move, its notice and what follows from it,
all slots are taken if somebody waits for one, and some slot is taken if somebody waits for all to
be free. -/
theorem Reachable.play (reachable : Reachable limit hall) (told : hall.unannounced = 0)
    (move : Move Id) :
    Reachable limit (hall.play move) ∧ (hall.play move).unannounced = 0 ∧
      ∀ task ∈ (hall.play move).tasks, (hall.play move).gate.Bars task.wish := by
  have later : Reachable limit (hall.play move) :=
    Queue.play_induction (fun before step => .step before _ step) reachable move
  have paid : (hall.play move).unannounced = 0 := queue_owes.play told move
  refine ⟨later, paid, fun task among => ?_⟩
  have asleep := queue_isOrderly.play_rests hall move task.waiting (List.mem_map_of_mem among)
  refine (later.isSound.barred task among asleep).resolve_right fun untold => ?_
  rw [paid] at untold
  cases untold

end Hall

end Fleet
