import Fleet.Waiting

/-!
# Abort signals

An abort signal is raised once and stays raised: who waits for it afterwards need not wait. Raising
it takes two moments, setting the flag and giving notice, and other tasks may run between them.
-/

namespace Fleet

/-- An abort signal and those who wait for it. -/
structure AbortSignal (Id : Type) where
  raised : Bool := false
  /-- How many times the flag was set without notice being given yet. -/
  unannounced : Nat := 0
  /-- Those who wait, in the order in which they came. -/
  waiters : List (Id × Waiting) := []
  /-- Those who have seen the signal, in order. -/
  woken : List Id := []
  deriving Repr

namespace AbortSignal

variable {Id : Type}

/-- What can happen around a signal. -/
inductive Move (Id : Type) where
  /-- Somebody comes to wait. -/
  | wait (id : Id)
  /-- The waiter at a place takes a turn. -/
  | turn (place : Nat)
  /-- The waiter at a place gives up. -/
  | cancel (place : Nat)
  /-- The flag is set. -/
  | raise
  /-- Notice is given of the flag. -/
  | announce

/-- The signal with the waiter at a place standing elsewhere. -/
def stand (signal : AbortSignal Id) (place : Nat) (id : Id) (waiting : Waiting) : AbortSignal Id :=
  { signal with waiters := signal.waiters.set place (id, waiting) }

/-- The signal when the waiter at a place has returned. -/
def leave (signal : AbortSignal Id) (place : Nat) (id : Id) : AbortSignal Id :=
  { signal with waiters := signal.waiters.eraseIdx place, woken := signal.woken ++ [id] }

/-- What a waiter finds that tests the flag. -/
def seen? (signal : AbortSignal Id) : Option Unit := if signal.raised then some () else none

/-- The turn of one waiter: none when it has to wait for a notice. -/
def turn? (signal : AbortSignal Id) (place : Nat) : Option (AbortSignal Id) :=
  signal.waiters[place]?.bind fun (id, waiting) =>
    (waiting.turn? signal.seen?).map fun
      | .stands waiting => signal.stand place id waiting
      | .passes () => signal.leave place id

/-- One move; none when it is not possible. -/
def step? (signal : AbortSignal Id) : Move Id → Option (AbortSignal Id)
  | .wait id => some { signal with waiters := signal.waiters ++ [(id, .arriving)] }
  | .turn place => signal.turn? place
  | .cancel place =>
    if place < signal.waiters.length then
      some { signal with waiters := signal.waiters.eraseIdx place }
    else none
  | .raise => some { signal with raised := true, unannounced := signal.unannounced + 1 }
  | .announce =>
    if signal.unannounced = 0 then none
    else some { signal with
      unannounced := signal.unannounced - 1,
      waiters := signal.waiters.map fun (id, waiting) => (id, waiting.notice) }

/-- Those who wait for the signal as tasks that wait. -/
def queue : Queue (AbortSignal Id) (Move Id) where
  standing signal := signal.waiters.map Prod.snd
  step? := step?
  turn := .turn
  announce := .announce

/-- Lets the waiters run until each of them has to wait. -/
def settle (signal : AbortSignal Id) : AbortSignal Id := queue.settle signal

/-- A move, the notice that it calls for, and what follows from it. -/
def play (signal : AbortSignal Id) (move : Move Id) : AbortSignal Id := queue.play signal move

end AbortSignal

end Fleet
