import Fleet.Waiting

/-!
# The gate

The gate bounds how many workers are alive at a time. It counts the slots that are taken and
remembers the highest count. `Gate` is the counter; `Hall` is the gate with the tasks that wait
before it, which want a slot or want all slots to be free, taken apart into the single moments
between which other tasks may run: registering, testing, parking, and for a release the count and
the notice.

`Hall.settle` lets the waiting tasks run, in the order in which they asked, until none can.
-/

namespace Fleet

/-- The counter of a gate. -/
structure Gate where
  /-- The most slots that may be taken. -/
  limit : Nat
  /-- The slots that are taken. -/
  active : Nat := 0
  /-- The most slots that were ever taken at once. -/
  peak : Nat := 0
  deriving Repr, DecidableEq

namespace Gate

/-- A gate with at least one slot. -/
def ofLimit (limit : Nat) : Gate := { limit := max limit 1 }

/-- Takes a slot if one is free. -/
def take? (gate : Gate) : Option Gate :=
  if gate.active < gate.limit then
    some { gate with active := gate.active + 1, peak := max gate.peak (gate.active + 1) }
  else none

/-- Gives a slot back. -/
def release (gate : Gate) : Gate := { gate with active := gate.active - 1 }

/-- What a task before the gate wants. -/
inductive Wish where
  /-- A slot. -/
  | admission
  /-- That no slot is taken. -/
  | drained
  deriving Repr, DecidableEq

/-- The gate after a wish was granted; none if it is not granted now. -/
def grant? (gate : Gate) : Wish → Option Gate
  | .admission => gate.take?
  | .drained => if gate.active = 0 then some gate else none

end Gate

/-- A task before the gate. -/
structure GateTask (Id : Type) where
  id : Id
  /-- What it wants. -/
  wish : Gate.Wish
  /-- Where it stands. -/
  waiting : Waiting := .arriving
  deriving Repr

/-- The gate with the tasks before it and those it has let through. -/
structure Hall (Id : Type) where
  /-- The counter. -/
  gate : Gate
  /-- Those whose wish is not granted yet, in the order in which they asked. -/
  tasks : List (GateTask Id) := []
  /-- Those who hold a slot, in the order in which they got it. -/
  held : List Id := []
  /-- Those who have seen all slots free, in order. -/
  drained : List Id := []
  /-- Slots given back of which no notice has been given yet. -/
  unannounced : Nat := 0
  deriving Repr

namespace Hall

variable {Id : Type}

/-- What can happen at the gate. -/
inductive Move (Id : Type) where
  /-- Somebody comes with a wish. -/
  | ask (id : Id) (wish : Gate.Wish)
  /-- The task at a place takes a turn. -/
  | turn (place : Nat)
  /-- A slot is given back. -/
  | release (id : Id)
  /-- The notice of a slot given back. -/
  | announce

/-- The hall with the task at a place standing elsewhere. -/
def stand (hall : Hall Id) (place : Nat) (task : GateTask Id) (waiting : Waiting) : Hall Id :=
  { hall with tasks := hall.tasks.set place { task with waiting } }

/-- The hall when the task at a place was let through, with the gate after that. -/
def letThrough (hall : Hall Id) (place : Nat) (task : GateTask Id) (gate : Gate) : Hall Id :=
  let left := { hall with gate, tasks := hall.tasks.eraseIdx place }
  match task.wish with
  | .admission => { left with held := hall.held ++ [task.id] }
  | .drained => { left with drained := hall.drained ++ [task.id] }

/-- The turn of one task: none when it has to wait for a notice. -/
def turn? (hall : Hall Id) (place : Nat) : Option (Hall Id) :=
  hall.tasks[place]?.bind fun task =>
    (task.waiting.turn? (hall.gate.grant? task.wish)).map fun
      | .stands waiting => hall.stand place task waiting
      | .passes gate => hall.letThrough place task gate

/-- One move; none when it is not possible. -/
def step? [DecidableEq Id] (hall : Hall Id) : Move Id → Option (Hall Id)
  | .ask id wish => some { hall with tasks := hall.tasks ++ [{ id, wish }] }
  | .turn place => hall.turn? place
  | .release id =>
    if id ∈ hall.held then
      some { hall with
        gate := hall.gate.release, held := hall.held.erase id, unannounced := hall.unannounced + 1 }
    else none
  | .announce =>
    if hall.unannounced = 0 then none
    else some { hall with
      unannounced := hall.unannounced - 1,
      tasks := hall.tasks.map fun task => { task with waiting := task.waiting.notice } }

/-- The tasks before the gate as tasks that wait. -/
def queue [DecidableEq Id] : Queue (Hall Id) (Move Id) where
  standing hall := hall.tasks.map GateTask.waiting
  step? := step?
  turn := .turn
  announce := .announce

/-- Lets the tasks run until each of them has to wait. -/
def settle [DecidableEq Id] (hall : Hall Id) : Hall Id := queue.settle hall

/-- A move, the notice that it calls for, and what follows from it. A move that is not possible
changes nothing. -/
def play [DecidableEq Id] (hall : Hall Id) (move : Move Id) : Hall Id := queue.play hall move

/-- Those who wait for a slot, in the order in which they asked. -/
def waiting (hall : Hall Id) : List Id :=
  (hall.tasks.filter fun task => task.wish == .admission).map GateTask.id

end Hall

end Fleet
