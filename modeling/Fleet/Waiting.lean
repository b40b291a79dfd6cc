/-!
# Waiting for a condition

A task that waits for a condition which others bring about goes round in a loop: it registers for
the next notice, tests the condition, and parks if the test fails; a notice sends it round again. A
notice reaches exactly those who have registered before it is given, parked or not. Registering
before the test is what makes the loop safe: a change that comes between the two is followed by a
notice that finds the task registered.

`Waiting.turn?` is the loop. `Queue` is what holds of any number of tasks that go round in it: how
they take their turns until none can go on, and how a move of somebody else is followed by its
notice.
-/

namespace Fleet

/-- Where a task stands that waits for a condition. -/
inductive Waiting where
  /-- Not registered. -/
  | arriving
  /-- Registered, and about to test; a notice may have been given since. -/
  | registered (noticed : Bool)
  /-- Tested in vain; waits for a notice, unless one was given. -/
  | parked (noticed : Bool)
  deriving Repr, DecidableEq

namespace Waiting

/-- The task after a notice was given. -/
def notice : Waiting → Waiting
  | arriving => arriving
  | registered _ => registered true
  | parked _ => parked true

/-- What a turn of a task comes to. -/
inductive Turn (α : Type) where
  /-- It stands somewhere else. -/
  | stands (waiting : Waiting)
  /-- Its test was answered, and it need not wait. -/
  | passes (answer : α)

/-- The turn of a task, with what its test is answered now: none when the task has to wait for a
notice. -/
def turn? {α : Type} (answer : Option α) : Waiting → Option (Turn α)
  | arriving | parked true => some (.stands (registered false))
  | parked false => none
  | registered noticed =>
    match answer with
    | some answer => some (.passes answer)
    | none => some (.stands (parked noticed))

/-- Whether the task has something to do. -/
def isRunnable : Waiting → Bool
  | arriving => true
  | registered _ => true
  | parked noticed => noticed

/-- How many turns the task can take before it has to wait for a notice. -/
def turns : Waiting → Nat
  | parked false => 0
  | registered false => 1
  | arriving => 2
  | parked true => 2
  | registered true => 3

/-- How many turns tasks can take before each has to wait for a notice. -/
def debt : List Waiting → Nat
  | [] => 0
  | task :: tasks => task.turns + debt tasks

end Waiting

/-- Tasks that wait, each at a place, in states `σ` that moves `μ` lead from one to another. -/
structure Queue (σ μ : Type) where
  /-- Where the tasks stand. -/
  standing : σ → List Waiting
  /-- One move; none when it is not possible. -/
  step? : σ → μ → Option σ
  /-- The task at a place takes a turn. -/
  turn : Nat → μ
  /-- Notice is given of a change. -/
  announce : μ

namespace Queue

variable {σ μ : Type} (queue : Queue σ μ)

/-- The turn of the first task that has something to do. -/
def next? (s : σ) : Option σ :=
  ((queue.standing s).findIdx? Waiting.isRunnable).bind fun place => queue.step? s (queue.turn place)

/-- Lets tasks run for so many turns, the first in the queue first. -/
def settleFor : Nat → σ → σ
  | 0, s => s
  | turns + 1, s =>
    match queue.next? s with
    | some next => settleFor turns next
    | none => s

/-- Lets the tasks run until each of them has to wait. -/
def settle (s : σ) : σ := queue.settleFor (Waiting.debt (queue.standing s)) s

/-- A move, the notice that it calls for, and what follows from it. A move that is not possible
changes nothing. -/
def play (s : σ) (move : μ) : σ :=
  let moved := (queue.step? s move).getD s
  queue.settle ((queue.step? moved queue.announce).getD moved)

end Queue

end Fleet
