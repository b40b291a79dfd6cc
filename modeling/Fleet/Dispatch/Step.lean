import Fleet.Dispatch.State

/-!
# The steps of a run

`Setup.step?` says what one task does next, or that it has to wait. Together with the clock and the
user these are all the things that happen in a run; every run is a sequence of them, in any order.

Three rules keep the outcome in order. The dispatcher looks at the queue of faults before it looks
at the gate. A worker that fails notes the failure before its record leaves the working phases. And
where all hosts have to succeed, the worker that takes the run down asks every host to abort before
it puts the fault into the queue.

Tasks run on several processors at once, so a step touches what is shared only once: one flag, one
queue, one line on the console, one record. Reading a record is a single moment, with all the fields
that are looked at; and so is sending a signal, which does not wait for the other side. A worker
crashes only where it waits for the backend to open its session. Tasks that the dispatcher leaves
behind may go on when it is over, but the watchdog and the task for interrupts begin nothing new.
The program's log is left out; nothing depends on it.
-/

namespace Fleet

/-- The tasks of a run. -/
inductive Actor where
  | dispatcher
  | worker (i : Nat)
  | watchdog
  /-- The task that waits for user interrupts. -/
  | interrupter
  deriving Repr, DecidableEq

/-- What can happen in a run. -/
inductive Event where
  /-- A task takes a step. -/
  | act (actor : Actor)
  /-- The user interrupts. -/
  | interrupt
  /-- Time passes. -/
  | clock (time : Time)
  deriving Repr, DecidableEq

namespace Setup

variable (setup : Setup) (s : State)

/-! ## The dispatcher -/

/-- The dispatcher with nothing in the queue of faults. -/
def dispatch? : Option State :=
  match s.dispatcher with
  | .admitting next waiting =>
    (waiting.turn? (s.gate.grant? .admission)).map fun
      | .stands waiting => { s with dispatcher := .admitting next waiting }
      | .passes gate => { s.moveWorker next .admitted with
          gate, dispatcher := .before (next + 1) s.lanes.length }
  | .draining waiting =>
    (waiting.turn? (s.gate.grant? .drained)).map fun
      | .stands waiting => { s with dispatcher := .draining waiting }
      | .passes _ => { s with dispatcher := .joining }
  | .joining =>
    if s.lanes.all fun lane => lane.worker.isGone then
      match s.lanes.find? fun lane => lane.worker.hasCrashed with
      | some lane => some (s.finish (.error (.worker lane.record.hostname "crashed")))
      | none => some { s with dispatcher := .checking }
    else none
  | .checking => some (s.finish (.ok ()))
  | .returned _ => none

/-- Whether the dispatcher looks at the queue of faults next. -/
def looksAtQueue : Dispatcher → Bool
  | .admitting _ .arriving | .admitting _ (.parked _) => true
  | .draining .arriving | .draining (.parked _) => true
  | .checking => true
  | _ => false

/-- The next step of the dispatcher. -/
def dispatcherStep? : Option State :=
  match s.fatal with
  | e :: _ => if looksAtQueue s.dispatcher then some (s.finish (.error e)) else dispatch? s
  | [] => dispatch? s

/-! ## Workers -/

/-- What the backend was asked before a request. -/
def history : List OpenRequest := setup.earlier ++ s.opens.map Opened.request

/-- A worker asks the backend for a session. -/
def ask (i : Nat) (lane : Lane) : State :=
  let request := setup.request s.lanes.length lane
  { s.moveWorker i (.opening s.now (setup.backend.attempt (setup.history s) request)) with
    opens := s.opens ++ [⟨s.now, request⟩] }

/-- A worker has an answer of the backend. -/
def answered (i : Nat) (since : Time) : Opening → State
  | .refused e => s.moveWorker i (.failing e)
  | .crash => s.moveWorker i (.leaving true)
  | .session plan => s.moveWorker i (.opened since plan)

/-- What a worker does with a session that it was given. -/
def firstWork (since : Time) (plan : SessionPlan) : Worker :=
  let out := LineReader.ofSource (plan.stdout.start since)
  let err := plan.stderr.map fun source => LineReader.ofSource (source.start since)
  match setup.shipment with
  | none => .relaying ⟨some out, err⟩ plan.reap
  | some shipment =>
    match plan.stdin with
    | none => .failing (.protocol .noInput)
    | some room =>
      .sending false (.start shipment.preserve shipment.entries out { room }) err plan.reap

/-- A worker takes up a session. -/
def attach (i : Nat) (since : Time) (plan : SessionPlan) : State :=
  s.modifyLane i fun lane => { lane with
    record := match plan.backchannel with
      | some backchannel => lane.record.setBackchannel backchannel
      | none => lane.record
    worker := setup.firstWork since plan }

/-- A worker passes a warning on, if there is one, and goes on with what was taken as input. -/
def carryOn (i : Nat) (lane : Lane) (warning : Option String) (received : Bytes)
    (worker : Worker) : State :=
  let told := match warning with
    | some text => s.tell (lane.remark text)
    | none => s
  told.modifyLane i fun lane => { lane with received, worker }

/-- A worker sends files, as far as it can. -/
def send? (i : Nat) (lane : Lane) (busy : Bool) (sending : Sending) (err : Option LineReader)
    (ending : SessionEnd) : Option State :=
  if !busy && lane.record.aborted then some (s.moveWorker i (.failing (.interrupted .executing)))
  else match sending.poll setup.fs s.now with
    | .advanced warning next =>
      some (carryOn s i lane warning next.sink.written (.sending true next err ending))
    | .finished warning rest sink =>
      some (carryOn s i lane warning sink.written (.relaying ⟨some rest, err⟩ ending))
    | .failed warning e sink => some (carryOn s i lane warning sink.written (.failing e))
    | .waiting next =>
      if busy then some (s.moveWorker i (.sending false next err ending)) else none

/-- A worker relays a line, as far as there is one. -/
def relay? (i : Nat) (lane : Lane) (relay : Relay) (ending : SessionEnd) : Option State :=
  match relay.poll (setup.routing lane) s.now lane.record s.console with
  | .advanced record console next =>
    some { s.modifyLane i fun lane =>
      { lane with record, worker := .relaying next ending } with console }
  | .finished => some (s.moveWorker i (.reaping (s.now + ending.delay) ending.outcome))
  | .failed record e =>
    some (s.modifyLane i fun lane => { lane with record, worker := .failing e })
  | .waiting _ => none

/-- A worker learns how its session ended. -/
def reaped (i : Nat) (lane : Lane) (outcome : Except HostError Termination) : State :=
  match outcome.bind fun termination => termination.verdict lane.record with
  | .ok record => s.modifyLane i fun lane => { lane with record, worker := .succeeding }
  | .error e => s.moveWorker i (.failing e)

/-- The next step of the worker of a host. -/
def workerStep? (i : Nat) : Option State :=
  s.lanes[i]?.bind fun lane =>
    match lane.worker with
    | .waiting => none
    | .admitted =>
      some (s.modifyLane i fun lane => (lane.advance s.now .connecting).moveTo .connecting)
    | .connecting =>
      if lane.record.aborted then some (s.moveWorker i (.failing (.interrupted .connecting)))
      else some (setup.ask s i lane)
    | .opening since attempt =>
      if lane.record.aborted then some (s.moveWorker i (.failing (.interrupted .connecting)))
      else attempt.delay.bind fun delay =>
        if since + delay ≤ s.now then some (answered s i (since + delay) attempt.opening) else none
    | .opened since plan =>
      some (s.modifyLane i fun lane =>
        (lane.advance s.now .executing).moveTo (.attaching since plan))
    | .attaching since plan => some (setup.attach s i since plan)
    | .sending busy sending err ending => setup.send? s i lane busy sending err ending
    | .relaying relay ending => setup.relay? s i lane relay ending
    | .reaping due outcome => if due ≤ s.now then some (reaped s i lane outcome) else none
    | .succeeding =>
      some (s.modifyLane i fun lane => (lane.advance s.now .done).moveTo (.leaving false))
    | .failing e =>
      some (s.modifyLane i fun lane =>
        { lane with record := lane.record.setFailure e.message, worker := .marking e })
    | .marking e =>
      some (s.modifyLane i fun lane => (lane.advance s.now .failed).moveTo (.telling e))
    | .telling e =>
      some ((s.tell (lane.remark e.message)).moveWorker i
        (if setup.backend.lockstep then .claiming else .leaving false))
    | .claiming =>
      if s.fleetAborted then some (s.moveWorker i (.leaving false))
      else some { s.moveWorker i (.signalling 0) with fleetAborted := true }
    | .signalling next =>
      match s.lanes[next]? with
      | some other => some ((s.signalHost other).moveWorker i (.signalling (next + 1)))
      | none => some (s.moveWorker i (.aborting 0))
    | .aborting next =>
      if next < s.lanes.length then some ((s.abortHost next).moveWorker i (.aborting (next + 1)))
      else some (s.moveWorker i .raising)
    | .raising =>
      some ((s.raise (.lockstepAbort lane.record.hostname)).moveWorker i (.leaving false))
    | .leaving crashed =>
      some { s.moveWorker i (.announcing crashed) with gate := s.gate.release }
    | .announcing crashed =>
      some { s.moveWorker i (.gone crashed) with dispatcher := s.dispatcher.notice }
    | .gone _ => none

/-! ## Watchdog and interrupts -/

/-- The next step of the watchdog. Once the dispatcher is over it begins no further look. -/
def watchdogStep? : Option State :=
  match s.watchdog with
  | .off => none
  | .asleep wake =>
    if wake ≤ s.now && !s.dispatcher.hasReturned then
      some { s with watchdog := .scanning s.now 0 }
    else none
  | .scanning began next =>
    match s.lanes[next]? with
    | some lane =>
      if setup.options.limits.catches lane.record began then
        some { s with watchdog := .firing began next }
      else some { s with watchdog := .scanning began (next + 1) }
    | none => some { s with watchdog := .asleep (s.now + Watchdog.interval) }
  | .firing began next =>
    some { s.abortHost next with watchdog := .scanning began (next + 1) }

/-- The next step of the task that waits for user interrupts. -/
def interrupterStep? : Option State :=
  match s.interrupter with
  | .listening | .gone => none
  | .heading came =>
    some { s.tell Interrupt.reportHeading with interrupter := .surveying came 0 [] }
  | .surveying came next lines =>
    match s.lanes[next]? with
    | some lane =>
      let line? := Interrupt.statusLine? setup.options.limits came setup.verbose lane.record
      some { s with interrupter := .surveying came (next + 1) (lines ++ line?.toList) }
    | none => some { s with interrupter := .reporting lines }
  | .reporting [] => some { s with interrupter := .listening }
  | .reporting (line :: lines) => some { s.tell line with interrupter := .reporting lines }
  | .signalling next =>
    match s.lanes[next]? with
    | some other => some { s.signalHost other with interrupter := .signalling (next + 1) }
    | none => some { s with interrupter := .announcing }
  | .announcing =>
    some { s.tell Interrupt.terminationNotice with interrupter := .aborting 0 }
  | .aborting next =>
    if next < s.lanes.length then
      some { s.abortHost next with interrupter := .aborting (next + 1) }
    else some { s.raise .interrupted with interrupter := .gone }

/-- What becomes of a user interrupt. It is lost on a task that is not waiting for one. -/
def interrupted : State :=
  match s.interrupter with
  | .listening =>
    if s.dispatcher.hasReturned then s
    else
      let (action, coordinator) := s.coordinator.handle s.now
      match action with
      | .report => { s with coordinator, interrupter := .heading s.now }
      | .terminate => { s with coordinator, interrupter := .signalling 0 }
  | _ => s

/-! ## Events -/

/-- The next step of a task; none if it has to wait. -/
def actorStep? : Actor → Option State
  | .dispatcher => dispatcherStep? s
  | .worker i => setup.workerStep? s i
  | .watchdog => setup.watchdogStep? s
  | .interrupter => setup.interrupterStep? s

/-- What an event leads to; none if it is not possible. -/
def step? : Event → Option State
  | .act actor => setup.actorStep? s actor
  | .interrupt => some (interrupted s)
  | .clock time => if s.now < time then some { s with now := time } else none

end Setup

end Fleet
