import Fleet.Waiting
import Mathlib.Algebra.BigOperators.Group.List.Basic

/-!
# Coming to rest

Tasks that wait take turns. Each turn is paid for by a notice (`Waiting.turns_lt_of_stands`,
`Waiting.turns_pos_of_passes`), so they cannot keep one another busy. A queue in which a task with
something to do can take its turn, and in which no turn makes the others go round again, comes to
rest of itself (`Queue.IsOrderly.settle_rests`): then each of its tasks is parked without a notice.
-/

namespace Fleet

namespace Waiting

variable {α : Type} {answer : Option α} {waiting : Waiting}

/-- A notice wakes. -/
theorem notice_ne_parked (waiting : Waiting) : waiting.notice ≠ .parked false := by
  cases waiting <;> exact fun no => by cases no

/-- A task has something to do unless it is parked without a notice. -/
theorem isRunnable_iff : waiting.isRunnable = true ↔ waiting ≠ .parked false := by
  cases waiting with
  | parked noticed => cases noticed <;> simp [isRunnable]
  | _ => simp [isRunnable]

theorem turn?_eq_none_iff : waiting.turn? answer = none ↔ waiting = .parked false := by
  cases waiting with
  | arriving => simp [turn?]
  | registered noticed => cases answer <;> simp [turn?]
  | parked noticed => cases noticed <;> simp [turn?]

/-- A task stands elsewhere after its turn if it registers, or if its test was in vain. -/
theorem turn?_eq_stands_iff {later : Waiting} : waiting.turn? answer = some (.stands later) ↔
    ((waiting = .arriving ∨ waiting = .parked true) ∧ later = .registered false) ∨
      ∃ noticed, waiting = .registered noticed ∧ answer = none ∧ later = .parked noticed := by
  cases waiting with
  | arriving => simp [turn?, eq_comm]
  | registered noticed => cases answer <;> simp [turn?, eq_comm]
  | parked noticed => cases noticed <;> simp [turn?, eq_comm]

/-- A task need not wait if it is registered and its test is answered. -/
theorem turn?_eq_passes_iff {found : α} : waiting.turn? answer = some (.passes found) ↔
    ∃ noticed, waiting = .registered noticed ∧ answer = some found := by
  cases waiting with
  | arriving => simp [turn?]
  | registered noticed => cases answer <;> simp [turn?]
  | parked noticed => cases noticed <;> simp [turn?]

/-- A turn costs a task something. -/
theorem turns_lt_of_stands {later : Waiting} (turn : waiting.turn? answer = some (.stands later)) :
    later.turns < waiting.turns := by
  rcases turn?_eq_stands_iff.mp turn with ⟨rfl | rfl, rfl⟩ | ⟨noticed, rfl, -, rfl⟩
  · decide
  · decide
  · cases noticed <;> decide

theorem turns_pos_of_passes {found : α} (turn : waiting.turn? answer = some (.passes found)) :
    0 < waiting.turns := by
  obtain ⟨noticed, rfl, -⟩ := turn?_eq_passes_iff.mp turn
  cases noticed <;> decide

variable {tasks : List Waiting} {place : Nat}

/-- What the tasks owe when one of them stands elsewhere. -/
theorem debt_set (found : tasks[place]? = some waiting) (later : Waiting) :
    debt (tasks.set place later) + waiting.turns = debt tasks + later.turns := by
  induction tasks generalizing place with
  | nil => cases found
  | cons first rest ih =>
    cases place with
    | zero =>
      cases found
      simp only [List.set_cons_zero, debt]
      omega
    | succ place =>
      have later := ih found
      simp only [List.set_cons_succ, debt]
      omega

/-- What the tasks owe when one of them is gone. -/
theorem debt_eraseIdx (found : tasks[place]? = some waiting) :
    debt (tasks.eraseIdx place) + waiting.turns = debt tasks := by
  induction tasks generalizing place with
  | nil => cases found
  | cons first rest ih =>
    cases place with
    | zero =>
      cases found
      simp only [List.eraseIdx_cons_zero, debt]
      omega
    | succ place =>
      have later := ih found
      simp only [List.eraseIdx_cons_succ, debt]
      omega

/-- **A turn after which a task stands elsewhere pays for itself.** -/
theorem debt_lt_of_stands (there : tasks[place]? = some waiting) {later : Waiting}
    (turn : waiting.turn? answer = some (.stands later)) :
    debt (tasks.set place later) < debt tasks := by
  have sum := debt_set there later
  have less := turns_lt_of_stands turn
  omega

/-- **So does the turn after which it is gone.** -/
theorem debt_lt_of_passes (there : tasks[place]? = some waiting) {found : α}
    (turn : waiting.turn? answer = some (.passes found)) :
    debt (tasks.eraseIdx place) < debt tasks := by
  have sum := debt_eraseIdx there
  have some := turns_pos_of_passes turn
  omega

end Waiting

namespace Queue

variable {σ μ : Type} {queue : Queue σ μ} {s : σ}

/-- The task at a place has something to do exactly if it can take a turn, and a turn makes no other
task go round again. -/
structure IsOrderly (queue : Queue σ μ) : Prop where
  able : ∀ {s place waiting}, (queue.standing s)[place]? = some waiting →
    (queue.step? s (queue.turn place) = none ↔ waiting = .parked false)
  paid : ∀ {s place next}, queue.step? s (queue.turn place) = some next →
    Waiting.debt (queue.standing next) < Waiting.debt (queue.standing s)

/-- What every turn of a task keeps is so when the tasks have run. -/
theorem settleFor_induction {P : σ → Prop}
    (kept : ∀ {s place next}, P s → queue.step? s (queue.turn place) = some next → P next)
    (turns : Nat) (start : P s) : P (queue.settleFor turns s) := by
  induction turns generalizing s with
  | zero => exact start
  | succ turns ih =>
    unfold settleFor
    cases turn : queue.next? s with
    | none => exact start
    | some next =>
      obtain ⟨place, -, step⟩ := Option.bind_eq_some_iff.mp turn
      exact ih (kept start step)

/-- What every move keeps is so after a move, its notice and what follows from it. -/
theorem play_induction {P : σ → Prop}
    (kept : ∀ {s move next}, P s → queue.step? s move = some next → P next) (start : P s)
    (move : μ) : P (queue.play s move) := by
  -- a move that is not possible changes nothing
  have getD {s : σ} (move : μ) (start : P s) : P ((queue.step? s move).getD s) := by
    cases step : queue.step? s move with
    | none => exact start
    | some next => exact kept start step
  exact settleFor_induction kept _ (getD queue.announce (getD move start))

/-- So many changes have been made of which notice is still to be given: a move makes one at most,
and tasks that take turns make none. -/
structure Owes (queue : Queue σ μ) (owed : σ → Nat) : Prop where
  move : ∀ {s move next}, queue.step? s move = some next → owed next ≤ owed s + 1
  turn : ∀ {s place next}, queue.step? s (queue.turn place) = some next → owed next = owed s
  announce : ∀ s, owed ((queue.step? s queue.announce).getD s) = owed s - 1

/-- After a move and its notice nothing is owed. -/
theorem Owes.play {owed : σ → Nat} (owes : queue.Owes owed) (told : owed s = 0) (move : μ) :
    owed (queue.play s move) = 0 := by
  have few : owed ((queue.step? s move).getD s) ≤ 1 := by
    cases step : queue.step? s move with
    | none =>
      rw [Option.getD_none, told]
      exact Nat.zero_le 1
    | some next =>
      have more := owes.move step
      rwa [told] at more
  have paid := (owes.announce ((queue.step? s move).getD s)).trans (Nat.sub_eq_zero_of_le few)
  exact settleFor_induction (P := (owed · = 0)) (fun before turn => (owes.turn turn).trans before) _
    paid

namespace IsOrderly

/-- If the first task that has something to do can take no turn, none has. -/
theorem asleep (orderly : queue.IsOrderly) (stuck : queue.next? s = none) :
    ∀ waiting ∈ queue.standing s, waiting = .parked false := by
  unfold next? at stuck
  cases first : (queue.standing s).findIdx? Waiting.isRunnable with
  | none =>
    intro waiting among
    by_contra awake
    have idle := List.findIdx?_eq_none_iff.mp first waiting among
    cases (Waiting.isRunnable_iff.mpr awake).symm.trans idle
  | some place =>
    rw [first, Option.bind_some] at stuck
    obtain ⟨inside, busy, -⟩ := List.findIdx?_eq_some_iff_getElem.mp first
    have parked := (orderly.able (List.getElem?_eq_getElem inside)).mp stuck
    exact absurd parked (Waiting.isRunnable_iff.mp busy)

theorem settleFor_rests (orderly : queue.IsOrderly) (turns : Nat)
    (enough : Waiting.debt (queue.standing s) ≤ turns) :
    ∀ waiting ∈ queue.standing (queue.settleFor turns s), waiting = .parked false := by
  induction turns generalizing s with
  | zero =>
    cases turn : queue.next? s with
    | none => exact orderly.asleep turn
    | some next =>
      obtain ⟨place, -, step⟩ := Option.bind_eq_some_iff.mp turn
      have fewer := orderly.paid step
      omega
  | succ turns ih =>
    unfold settleFor
    cases turn : queue.next? s with
    | none => exact orderly.asleep turn
    | some next =>
      obtain ⟨place, -, step⟩ := Option.bind_eq_some_iff.mp turn
      have fewer := orderly.paid step
      exact ih (by omega)

/-- **Tasks that wait come to rest**: after so many turns none can go on. -/
theorem settle_rests (orderly : queue.IsOrderly) (s : σ) :
    ∀ waiting ∈ queue.standing (queue.settle s), waiting = .parked false :=
  orderly.settleFor_rests _ (Nat.le_refl _)

/-- So they do after every move and its notice. -/
theorem play_rests (orderly : queue.IsOrderly) (s : σ) (move : μ) :
    ∀ waiting ∈ queue.standing (queue.play s move), waiting = .parked false :=
  orderly.settle_rests _

end IsOrderly

end Queue

end Fleet
