import Fleet.Dispatch.Step

/-!
# Running

Of the many orders in which the tasks of a run can take their steps, `Course.follow` takes one: a
task goes on until it has to wait; then comes the first in a fixed order that can do something.
Where no task can, the clock jumps to the next moment at which one may. User interrupts come at
given times.

A run that goes on without end is cut off at a deadline, and after a number of steps.
-/

namespace Fleet

/-- A run on its way. -/
structure Course where
  /-- The state of the run. -/
  state : State
  /-- The task that took the last step. -/
  current : Option Actor := none
  /-- When the user will interrupt, in order. -/
  arrivals : List Time := []

namespace Course

/-- The tasks of a run, in the order in which they are asked. -/
def actors (nhosts : Nat) : List Actor :=
  [.interrupter, .dispatcher] ++ (List.range nhosts).map .worker ++ [.watchdog]

/-- The next step of any task. -/
def act? (setup : Setup) (course : Course) : Option Course :=
  (course.current.toList ++ actors course.state.lanes.length).findSome? fun actor =>
    (setup.step? course.state (.act actor)).map fun state =>
      { course with state, current := some actor }

/-- A user interrupt that is due. -/
def interrupt? (setup : Setup) (course : Course) : Option Course :=
  match course.arrivals with
  | time :: later =>
    if time ≤ course.state.now then
      (setup.step? course.state .interrupt).map fun state =>
        { course with state, arrivals := later }
    else none
  | [] => none

/-- When something may happen next, given that nothing can happen now. -/
def nextTime? (course : Course) : Option Time :=
  let now := course.state.now
  let watch := match course.state.watchdog with
    | .asleep wake => [wake]
    | _ => []
  let times := course.arrivals ++ watch ++
    course.state.lanes.flatMap fun lane => lane.worker.nextTimes now
  (times.filter (now < ·)).min?

/-- The next event of the run: a step of a task, an interrupt, or the clock jumping on; none when
there is nothing to come before the deadline. -/
def next? (setup : Setup) (deadline : Time) (course : Course) : Option Course :=
  (act? setup course).or <| (interrupt? setup course).or <|
    (nextTime? course).bind fun time =>
      if time ≤ deadline then
        (setup.step? course.state (.clock time)).map fun state => { course with state }
      else none

/-- Follows the run until a condition holds or nothing is to come before the deadline, for at most
so many steps. -/
def follow (setup : Setup) (deadline : Time) (until? : State → Bool) : Nat → Course → Course
  | 0, course => course
  | steps + 1, course =>
    if until? course.state then course
    else match next? setup deadline course with
      | some next => follow setup deadline until? steps next
      | none => course

end Course

end Fleet
