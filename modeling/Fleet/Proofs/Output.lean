import Fleet.Proofs.Labels
import Fleet.Proofs.Probe
import Fleet.Proofs.Reports

/-!
# What comes on the console

All hosts of a run write to one console, and their workers take turns in any order. A turn writes
one line or none, and a line is whole. So the console is a sequence of lines, each of which somebody
said: a host on one of its streams, or a task that tells something of its own (`Step.tells`).

What was said on one stream of one host depends on nothing but that stream (`Run.account`). It is
what is to be shown of its pieces, in order; and it is all of them when the worker is through with
the streams, unless the host was to abort or one of its streams failed.

**The law** (`Run.multiplexed`) says this of every run that sends a command, whose console takes
every line and whose labels are free of newlines.
-/

namespace Fleet

/-! ## How a host's output is written -/

/-- How the output of the host in a place is written when a command is sent. -/
def Dispatch.routing (dispatch : Dispatch) (rank : Nat) (host : Host) : Routing where
  label := if dispatch.options.displayLabels then some (Palette.label dispatch.palette rank host)
    else none
  separateStderr := dispatch.options.separateStderr
  extractStatus := dispatch.options.maxRemoteStatus

theorem Dispatch.newline_not_mem_label (dispatch : Dispatch) (rank : Nat) {host : Host}
    (free : '\n' ∉ host.label.toList) :
    ∀ label ∈ (dispatch.routing rank host).label, '\n' ∉ label.toList := by
  intro label given
  simp only [routing, Option.mem_ite_none_right, Option.mem_some] at given
  obtain ⟨-, rfl⟩ := given
  exact Palette.newline_not_mem_label _ rank free

/-- A command comes without files. -/
theorem Preparation.make_command {backend : Backend} {options : Options} {fs : FileSystem}
    {command : String} {targets : TargetList} {preparation : Preparation}
    (made : make backend options fs (.command command) targets = .ok preparation) :
    preparation.shipment = none := by
  obtain ⟨-, source, contents, -⟩ := make_lanes made
  obtain ⟨template, -, parsed⟩ := andThen_eq_ok.mp contents
  have same := Except.ok.inj parsed
  exact (congrArg Prod.snd same).symm

namespace Setup

variable {setup : Setup} {s s' s₀ : State} {past : List Moment} {dispatch : Dispatch}

theorem Starts.shipment {command : String} (starts : dispatch.Starts setup s₀)
    (sends : dispatch.payload = .command command) : setup.shipment = none := by
  obtain ⟨prepared⟩ := starts
  rw [sends] at prepared
  exact Preparation.make_command prepared

/-- **How the output of a host is written does not change.** -/
theorem Run.routing {command : String} (run : setup.Run s₀ past s)
    (starts : dispatch.Starts setup s₀) (sends : dispatch.payload = .command command) {i : Nat}
    {lane : Lane} (found : s.lanes[i]? = some lane) :
    setup.routing lane = dispatch.routing i lane.record.host := by
  obtain ⟨place, labels⟩ := run.place starts found
  have files : setup.shipment.isNone = true := by
    rw [Starts.shipment starts sends]
    rfl
  rw [Setup.routing, Dispatch.routing, files, Bool.and_true, starts.options, Setup.label,
    starts.palette, place, labels]

end Setup

namespace Worker

/-- Whether the worker has the streams of a session in its hands. -/
def holdsStreams : Worker → Bool
  | sending .. | relaying .. => true
  | _ => false

/-- Whether the worker is sending files. -/
def isSending : Worker → Bool
  | sending .. => true
  | _ => false

/-- Whether the worker has done with the session of its host, if there was one. -/
def isThrough : Worker → Bool
  | reaping .. | succeeding | failing _ | marking _ | telling _ | claiming | signalling _
  | aborting _ | raising | leaving _ | announcing _ | gone _ => true
  | _ => false

theorem isSending_of_holdsStreams {worker : Worker} (away : worker.holdsStreams = false) :
    worker.isSending = false := by
  cases worker with
  | sending => cases away
  | _ => rfl

theorem holdsStreams_of_isThrough {worker : Worker} (through : worker.isThrough = true) :
    worker.holdsStreams = false := by
  cases worker with
  | sending | relaying => cases through
  | _ => rfl

end Worker

/-! ## Who says what -/

namespace Moment

/-- What is written in a moment. -/
def written (moment : Moment) : List Written :=
  moment.after.console.lines.drop moment.before.console.lines.length

/-- The host, and the stream of it, that is relayed in a moment. -/
def speaker (moment : Moment) : Option (Nat × Stream) :=
  match moment.event with
  | .act (.worker i) =>
    match moment.before.lanes[i]?.map Lane.worker with
    | some (.relaying relay _) => some (i, relay.speaker moment.before.now)
    | _ => none
  | _ => none

/-- The session that a host takes up in a moment. -/
def session (i : Nat) (moment : Moment) : Option SessionPlan :=
  match moment.event.isTurn i, moment.before.lanes[i]?.map Lane.worker with
  | true, some (.attaching _ plan) => some plan
  | _, _ => none

/-- What a task tells of its own in a moment. -/
inductive Tells (moment : Moment) : String → Prop where
  /-- A host has failed. -/
  | failure {i : Nat} {lane : Lane} {e : HostError} (turn : moment.event = .act (.worker i))
      (found : moment.before.lanes[i]? = some lane) (here : lane.worker = .telling e) :
      Tells moment (lane.remark e.message)
  /-- The user is about to get a report. -/
  | heading {came : Time} (step : moment.event = .act .interrupter)
      (here : moment.before.interrupter = .heading came) : Tells moment Interrupt.reportHeading
  /-- The user gets a report. -/
  | report {line : String} {lines : List String} (step : moment.event = .act .interrupter)
      (here : moment.before.interrupter = .reporting (line :: lines)) : Tells moment line
  /-- The user ends the run. -/
  | notice (step : moment.event = .act .interrupter)
      (here : moment.before.interrupter = .announcing) :
      Tells moment Interrupt.terminationNotice

end Moment

namespace Setup

variable {setup : Setup} {s s' s₀ : State} {past : List Moment} {dispatch : Dispatch}

/-- Everything that was written, in order, with the host and the stream that said it. -/
def said (past : List Moment) : List (Option (Nat × Stream) × Written) :=
  past.flatMap fun moment => moment.written.map (moment.speaker, ·)

/-- The sessions that a host took up. -/
def sessions (i : Nat) (past : List Moment) : List SessionPlan :=
  past.filterMap (Moment.session i)

/-- What was written for a stream of a host. -/
def linesFrom (past : List Moment) (i : Nat) (v : Stream) : List (Stream × String) :=
  linesOf (some (i, v)) (said past)

theorem said_snoc (past : List Moment) (moment : Moment) :
    said (past ++ [moment]) = said past ++ moment.written.map (moment.speaker, ·) := by
  rw [said, List.flatMap_append, List.flatMap_singleton, said]

theorem sessions_snoc (i : Nat) (past : List Moment) (moment : Moment) :
    sessions i (past ++ [moment]) = sessions i past ++ (moment.session i).toList := by
  rw [sessions, sessions, filterMap_snoc]

/-- **The console holds what was said and nothing else.** -/
theorem Run.lines_said (run : setup.Run s₀ past s) :
    s.console.lines = s₀.console.lines ++ (said past).map Prod.snd := by
  induction run with
  | nil => exact (List.append_nil _).symm
  | @snoc past t t' e run step ih =>
    obtain ⟨more, grown⟩ := (step?_step step).console
    have written : Moment.written ⟨t, e, t'⟩ = more := by
      rw [Moment.written, ← grown, List.drop_left]
    rw [said_snoc, written, List.map_append, List.map_map, ← List.append_assoc, ← ih, ← grown]
    exact congrArg _ (List.map_id more).symm

/-! ## No files are sent -/

/-- Where no files are sent, a worker relays output as soon as it has a session. -/
theorem firstWork_eq (none : setup.shipment = none) (since : Time) (plan : SessionPlan) :
    setup.firstWork since plan = .relaying (.ofSources (plan.stdout.start since)
      (plan.stderr.map (·.start since))) plan.reap := by
  unfold firstWork
  rw [none, Relay.ofSources, Option.map_map]
  rfl

/-- What a turn does with the streams of a session, where no files are sent. -/
inductive Hearing (setup : Setup) (s : State) (lane lane' : Lane) (console' : Console) : Prop where
  /-- The worker takes up its session. -/
  | attach {since : Time} {plan : SessionPlan} (here : lane.worker = .attaching since plan)
      (begins : lane'.worker = .relaying (.ofSources (plan.stdout.start since)
        (plan.stderr.map (·.start since))) plan.reap) (silent : console' = s.console)
  /-- It relays something. -/
  | relay {relay next : Relay} {ending : SessionEnd} (here : lane.worker = .relaying relay ending)
      (result : relay.poll (setup.routing lane) s.now lane.record s.console
        = .advanced lane'.record console' next) (goes : lane'.worker = .relaying next ending)
  /-- Both streams have ended. -/
  | relayed {relay : Relay} {ending : SessionEnd} (here : lane.worker = .relaying relay ending)
      (result : relay.poll (setup.routing lane) s.now lane.record s.console = .finished)
      (through : lane'.worker.isThrough = true) (silent : console' = s.console)
  /-- Relaying fails. -/
  | cutOff {relay : Relay} {ending : SessionEnd} {e : HostError}
      (here : lane.worker = .relaying relay ending)
      (result : relay.poll (setup.routing lane) s.now lane.record s.console
        = .failed lane'.record e)
      (through : lane'.worker.isThrough = true) (silent : console' = s.console)
  /-- There is nothing to hear. -/
  | other (away : lane.worker.holdsStreams = false)
      (early : ∀ since plan, lane.worker ≠ .attaching since plan)
      (away' : lane'.worker.holdsStreams = false)
      (through : lane.worker.isThrough = true → lane'.worker.isThrough = true)

theorem Turn.hearing {i : Nat} {lane lane' : Lane} {t : State}
    (turn : setup.Turn s i lane lane' t) (none : setup.shipment = none)
    (idle : lane.worker.isSending = false) : setup.Hearing s lane lane' t.console := by
  cases turn with
  | attach here => exact .attach here (firstWork_eq none _ _) rfl
  | relay here result => exact .relay here result rfl
  | relayed here result => exact .relayed here result rfl rfl
  | cutOff here result => exact .cutOff here result rfl rfl
  | stopSending here | send here | sent here | spoilt here | pause here =>
    rw [here] at idle
    cases idle
  | tell here =>
    have early (since : Time) (plan : SessionPlan) : lane.worker ≠ .attaching since plan :=
      fun no => by cases here.symm.trans no
    refine .other (by rw [here]; rfl) early ?_ fun _ => ?_
    · rw [Lane.moveTo_worker]
      split <;> rfl
    · rw [Lane.moveTo_worker]
      split <;> rfl
  | _ =>
    have here := ‹lane.worker = _›
    have early (since : Time) (plan : SessionPlan) : lane.worker ≠ .attaching since plan :=
      fun no => by cases here.symm.trans no
    refine .other (by rw [here]; rfl) early rfl fun through => ?_
    rw [here] at through
    first | rfl | cases through

/-- No worker sends files. -/
theorem Run.idle (run : setup.Run s₀ past s) (starts : dispatch.Starts setup s₀)
    (none : setup.shipment = none) {i : Nat} {lane : Lane} (found : s.lanes[i]? = some lane) :
    lane.worker.isSending = false := by
  refine run.lane_induction starts (Q := fun lane => lane.worker.isSending = false) ?_
    (fun _ idle => idle) (fun _ _ _ => rfl) ?_ found
  · intro lane fresh
    rw [fresh.worker]
    rfl
  · intro _ _ lane lane' _ turn idle
    cases turn.hearing none idle with
    | attach _ begins => rw [begins]; rfl
    | relay _ _ goes => rw [goes]; rfl
    | relayed _ _ through | cutOff _ _ through =>
      exact Worker.isSending_of_holdsStreams (Worker.holdsStreams_of_isThrough through)
    | other _ _ away => exact Worker.isSending_of_holdsStreams away

end Setup

/-! ## What is written in a moment -/

/-- A console without limits takes what we tell. -/
theorem Console.IsFree.diagnostic {console : Console} (free : console.IsFree) (now : Time)
    (line : String) : (console.diagnostic now line).IsFree ∧
      (console.diagnostic now line).lines = console.lines ++ [⟨now, .err, line ++ "\n"⟩] := by
  obtain ⟨console', written, frees, lines⟩ := write?_of_room (free.room_ne .err) now none line
  rw [Console.diagnostic, written]
  exact ⟨frees free, lines⟩

namespace Setup

variable {setup : Setup} {s s' s₀ : State} {past : List Moment} {dispatch : Dispatch}

theorem Turn.free {i : Nat} {lane lane' : Lane} {t : State}
    (turn : setup.Turn s i lane lane' t) (free : s.console.IsFree) : t.console.IsFree := by
  have warned (warning : Option String) : (s.warn lane warning).console.IsFree := by
    cases warning with
    | none => exact free
    | some text => exact (free.diagnostic _ _).1
  cases turn with
  | send | sent | spoilt => exact warned _
  | @relay relay next ending record console _ result =>
    have comes := Relay.poll_comes (setup.routing lane) lane.record s.now free relay
    rw [result] at comes
    cases comes with
    | advanced takes => exact takes.free
  | tell => exact (free.diagnostic _ _).1
  | _ => exact free

theorem Step.free {e : Event} (step : setup.Step s e s') (free : s.console.IsFree) :
    s'.console.IsFree := by
  cases step with
  | work _ turn => exact turn.free free
  | head | report | announce => exact (free.diagnostic _ _).1
  | _ => exact free

theorem Run.free (run : setup.Run s₀ past s) (starts : dispatch.Starts setup s₀)
    (free : dispatch.console.IsFree) : s.console.IsFree := by
  refine run.preserves (P := fun u => u.console.IsFree) ?_ fun _ _ _ step free => step.free free
  obtain ⟨prepared⟩ := starts
  exact free

end Setup

namespace Moment

variable {s : State} (s' : State) {i : Nat} {lane : Lane}

theorem speaker_of_relaying {relay : Relay} {ending : SessionEnd}
    (found : s.lanes[i]? = some lane) (here : lane.worker = .relaying relay ending) :
    speaker ⟨s, .act (.worker i), s'⟩ = some (i, relay.speaker s.now) := by
  simp only [speaker, found, Option.map_some, here]

theorem speaker_of_away (found : s.lanes[i]? = some lane)
    (away : ∀ relay ending, lane.worker ≠ .relaying relay ending) :
    speaker ⟨s, .act (.worker i), s'⟩ = none := by
  simp only [speaker, found, Option.map_some]
  split
  · next here => exact absurd (Option.some.inj here) (away _ _)
  · rfl

theorem session_of_attaching {since : Time} {plan : SessionPlan} (found : s.lanes[i]? = some lane)
    (here : lane.worker = .attaching since plan) :
    session i ⟨s, .act (.worker i), s'⟩ = some plan := by
  simp only [session, Event.isTurn, beq_self_eq_true, found, Option.map_some, here]

theorem session_of_other (found : s.lanes[i]? = some lane)
    (early : ∀ since plan, lane.worker ≠ .attaching since plan) :
    session i ⟨s, .act (.worker i), s'⟩ = none := by
  simp only [session, found, Option.map_some]
  split
  · next here => exact absurd (Option.some.inj here) (early _ _)
  · rfl

omit s' in
/-- A host whose worker rests takes up no session. -/
theorem session_of_rests {moment : Moment} (rests : moment.event ≠ .act (.worker i)) :
    moment.session i = none := by
  unfold session
  rw [Event.isTurn_eq_false rests]

/-- Who is relayed has the turn. -/
theorem event_of_speaker {moment : Moment} {v : Stream} (spoken : moment.speaker = some (i, v)) :
    moment.event = .act (.worker i) := by
  unfold speaker at spoken
  split at spoken
  · next j turn =>
    split at spoken
    · cases spoken
      exact turn
    · cases spoken
  · cases spoken

variable {s'} in
theorem written_of_same {e : Event} (same : s'.console = s.console) :
    written ⟨s, e, s'⟩ = [] := by
  rw [written, same]
  exact List.drop_length

end Moment

namespace Setup

variable {setup : Setup} {s s' s₀ : State} {past : List Moment} {dispatch : Dispatch}

/-- **What no host said, a task tells of its own**, in one line. -/
theorem Step.tells {e : Event} (step : setup.Step s e s') (free : s.console.IsFree)
    (idle : ∀ (i : Nat) lane, s.lanes[i]? = some lane → lane.worker.isSending = false)
    (nobody : Moment.speaker ⟨s, e, s'⟩ = none) :
    Moment.written ⟨s, e, s'⟩ = [] ∨ ∃ text, Moment.Tells ⟨s, e, s'⟩ text ∧
      Moment.written ⟨s, e, s'⟩ = [⟨s.now, .err, text ++ "\n"⟩] := by
  have told {text : String} (same : s'.console = s.console.diagnostic s.now text) :
      Moment.written ⟨s, e, s'⟩ = [⟨s.now, .err, text ++ "\n"⟩] := by
    rw [Moment.written, same, (free.diagnostic s.now text).2, List.drop_left]
  cases step with
  | @work i lane lane' t found turn =>
    cases turn with
    | tell here => exact .inr ⟨_, .failure rfl found here, told rfl⟩
    | relay here =>
      rw [Moment.speaker_of_relaying _ found here] at nobody
      cases nobody
    | send here | sent here | spoilt here =>
      have busy := idle i lane found
      rw [here] at busy
      cases busy
    | _ => exact .inl (Moment.written_of_same rfl)
  | head here => exact .inr ⟨_, .heading rfl here, told rfl⟩
  | report here => exact .inr ⟨_, .report rfl here, told rfl⟩
  | announce here => exact .inr ⟨_, .notice rfl here, told rfl⟩
  | _ => exact .inl (Moment.written_of_same rfl)

end Setup

/-! ## What is said on one stream -/

namespace SessionPlan

/-- The pieces of a stream of a session. -/
def pieces (plan : SessionPlan) : Stream → List Bytes
  | .out => Fleet.pieces plan.stdout.bytes
  | .err => (plan.stderr.map fun source => Fleet.pieces source.bytes).getD []

/-- Whether reading a stream of the session fails in the end. -/
def fails (plan : SessionPlan) : Bool := plan.stdout.fails || plan.stderr.any Source.fails

/-- The relay of a session has all the pieces to come. -/
theorem ahead_ofSources (plan : SessionPlan) (since : Time) (v : Stream) :
    ((Relay.ofSources (plan.stdout.start since) (plan.stderr.map (·.start since))).voice v).ahead
      = plan.pieces v := by
  cases v with
  | out => exact congrArg Fleet.pieces (plan.stdout.start_bytes since)
  | err =>
    unfold pieces
    cases plan.stderr with
    | none => rfl
    | some source => exact congrArg Fleet.pieces (source.start_bytes since)

theorem fails_ofSources (plan : SessionPlan) (since : Time) (v : Stream)
    (fault : ((Relay.ofSources (plan.stdout.start since)
      (plan.stderr.map (·.start since))).voice v).fails = true) : plan.fails = true := by
  rw [fails, Bool.or_eq_true]
  cases v with
  | out => exact .inl ((plan.stdout.start_fails since).symm.trans fault)
  | err =>
    refine .inr ?_
    cases given : plan.stderr with
    | none =>
      rw [given] at fault
      cases fault
    | some source =>
      rw [given] at fault
      exact (source.start_fails since).symm.trans fault

end SessionPlan

/-- What has been said on the streams of a host, told by how far its worker has come. -/
inductive Lane.Account (routing : Routing) (sessions : List SessionPlan)
    (lines : Stream → List (Stream × String)) (lane : Lane) : Prop where
  /-- It has no session. -/
  | silent (none : sessions = []) (quiet : ∀ v, lines v = [])
      (away : lane.worker.holdsStreams = false)
  /-- Its streams are being relayed. -/
  | speaking {plan : SessionPlan} {relay : Relay} {ending : SessionEnd} (one : sessions = [plan])
      (here : lane.worker = .relaying relay ending)
      (heard : ∀ v, ∃ taken, plan.pieces v = taken ++ (relay.voice v).ahead ∧
        lines v = routing.lines v taken)
      (fails : ∀ v, (relay.voice v).fails = true → plan.fails = true)
  /-- Everything has been relayed. -/
  | complete {plan : SessionPlan} (one : sessions = [plan])
      (through : lane.worker.isThrough = true)
      (whole : ∀ v, lines v = routing.lines v (plan.pieces v))
  /-- Relaying has failed. -/
  | cutOff {plan : SessionPlan} (one : sessions = [plan]) (through : lane.worker.isThrough = true)
      (heard : ∀ v, ∃ taken rest, plan.pieces v = taken ++ rest ∧
        lines v = routing.lines v taken)
      (cause : lane.record.aborted = true ∨ plan.fails = true)

section Account

variable {routing : Routing} {sessions : List SessionPlan}
  {lines : Stream → List (Stream × String)} {lane : Lane}

theorem Lane.Account.abort (account : lane.Account routing sessions lines) :
    lane.abort.Account routing sessions lines := by
  cases account with
  | silent none quiet away => exact .silent none quiet away
  | speaking one here heard fails => exact .speaking one here heard fails
  | complete one through whole => exact .complete one through whole
  | cutOff one through heard => exact .cutOff one through heard (.inl rfl)

/-- Nothing is heard of a host whose worker has not come to its session. -/
theorem Lane.Account.of_early (account : lane.Account routing sessions lines)
    (early : lane.worker.isThrough = false) (away : lane.worker.holdsStreams = false) :
    sessions = [] ∧ ∀ v, lines v = [] := by
  cases account with
  | silent none quiet => exact ⟨none, quiet⟩
  | speaking _ here =>
    rw [here] at away
    cases away
  | complete _ through | cutOff _ through =>
    rw [early] at through
    cases through

/-- The account of a host whose streams are being relayed. -/
theorem Lane.Account.of_relaying (account : lane.Account routing sessions lines) {relay : Relay}
    {ending : SessionEnd} (here : lane.worker = .relaying relay ending) :
    ∃ plan, sessions = [plan] ∧
      (∀ v, ∃ taken, SessionPlan.pieces plan v = taken ++ (relay.voice v).ahead ∧
        lines v = routing.lines v taken) ∧
      ∀ v, (relay.voice v).fails = true → plan.fails = true := by
  cases account with
  | speaking one relaying heard fails =>
    obtain ⟨rfl, rfl⟩ := Worker.relaying.inj (here.symm.trans relaying)
    exact ⟨_, one, heard, fails⟩
  | silent _ _ away =>
    rw [here] at away
    cases away
  | complete _ through | cutOff _ through =>
    rw [here] at through
    cases through

end Account

namespace Setup

variable {setup : Setup} {s s' s₀ : State} {past : List Moment} {dispatch : Dispatch}

/-! ### One turn -/

/-- Where nothing is written, or the host is not relayed, nothing is said on its streams. -/
theorem linesFrom_snoc {i : Nat} {moment : Moment}
    (quiet : moment.written = [] ∨ ∀ v, moment.speaker ≠ some (i, v)) :
    linesFrom (past ++ [moment]) i = linesFrom past i := by
  funext v
  rw [linesFrom, said_snoc, linesOf_append]
  rcases quiet with none | other
  · rw [none]
    exact List.append_nil _
  · rw [linesOf_other _ (other v), List.append_nil, linesFrom]

/-- Where no session is taken up, there are no more of them. -/
theorem sessions_same {i : Nat} {moment : Moment} (none : moment.session i = none) :
    sessions i (past ++ [moment]) = sessions i past := by
  rw [sessions_snoc, none, Option.toList_none, List.append_nil]

/-- What is relayed in a turn follows on what was said before. -/
theorem linesFrom_relaying {i : Nat} {lane : Lane} {relay : Relay} {ending : SessionEnd}
    {routing : Routing} {taken : List Bytes} (found : s.lanes[i]? = some lane)
    (here : lane.worker = .relaying relay ending)
    (lines : s'.console.lines = s.console.lines
      ++ (routing.shown (relay.speaker s.now) taken).map
        (routing.written s.now (relay.speaker s.now))) (v : Stream) :
    linesFrom (past ++ [⟨s, .act (.worker i), s'⟩]) i v = linesFrom past i v
      ++ routing.lines v (if v = relay.speaker s.now then taken else []) := by
  rw [linesFrom, said_snoc, linesOf_append, ← linesFrom, Moment.speaker_of_relaying s' found here,
    Moment.written, lines, List.drop_left]
  refine congrArg _ (Relay.linesOf_shown routing s.now taken (fun v => some (i, v)) ?_ _ v)
  intro v w same
  cases same
  rfl

/-- **What a turn adds to the account of its host.** -/
theorem Hearing.account {i : Nat} {lane lane' : Lane}
    (hearing : setup.Hearing s lane lane' s'.console) (found : s.lanes[i]? = some lane)
    (free : s.console.IsFree) (asked : lane.record.aborted = true → lane'.record.aborted = true)
    (account : lane.Account (setup.routing lane) (sessions i past) (linesFrom past i)) :
    lane'.Account (setup.routing lane) (sessions i (past ++ [⟨s, .act (.worker i), s'⟩]))
      (linesFrom (past ++ [⟨s, .act (.worker i), s'⟩]) i) := by
  have session (early : ∀ since plan, lane.worker ≠ .attaching since plan) :
      sessions i (past ++ [⟨s, .act (.worker i), s'⟩]) = sessions i past :=
    sessions_same (Moment.session_of_other s' found early)
  have unsaid (same : s'.console = s.console) :
      linesFrom (past ++ [⟨s, .act (.worker i), s'⟩]) i = linesFrom past i :=
    linesFrom_snoc (.inl (Moment.written_of_same same))
  cases hearing with
  | @attach since plan here begins silent =>
    obtain ⟨none, quiet⟩ := account.of_early (by rw [here]; rfl) (by rw [here]; rfl)
    have one : sessions i (past ++ [⟨s, .act (.worker i), s'⟩]) = [plan] := by
      rw [sessions_snoc, Moment.session_of_attaching s' found here, none]
      rfl
    refine .speaking one begins ?_ (plan.fails_ofSources since)
    intro v
    exact ⟨[], (plan.ahead_ofSources since v).symm, (congrFun (unsaid silent) v).trans (quiet v)⟩
  | @relay relay next ending here result goes =>
    obtain ⟨plan, one, heard, fails⟩ := account.of_relaying here
    have comes := Relay.poll_comes (setup.routing lane) lane.record s.now free relay
    rw [result] at comes
    cases comes with
    | @advanced taken' _ _ _ takes =>
      rw [← session fun _ _ no => by cases here.symm.trans no] at one
      refine .speaking one goes ?_ ?_
      · intro v
        obtain ⟨taken, whole, spoken⟩ := heard v
        refine ⟨taken ++ if v = relay.speaker s.now then taken' else [], ?_, ?_⟩
        · rw [whole, (takes.voices v).ahead, List.append_assoc]
        · rw [linesFrom_relaying found here takes.lines, spoken, Routing.lines_append]
      · intro v fault
        exact fails v ((takes.voices v).fails fault)
  | @relayed relay ending here result through silent =>
    obtain ⟨plan, one, heard, fails⟩ := account.of_relaying here
    rw [← session fun _ _ no => by cases here.symm.trans no] at one
    refine .complete one through fun v => ?_
    obtain ⟨taken, whole, spoken⟩ := heard v
    rw [Relay.ahead_of_finished result v, List.append_nil] at whole
    rw [whole]
    exact (congrFun (unsaid silent) v).trans spoken
  | @cutOff relay ending e here result through silent =>
    obtain ⟨plan, one, heard, fails⟩ := account.of_relaying here
    rw [← session fun _ _ no => by cases here.symm.trans no] at one
    refine .cutOff one through (fun v => ?_) ?_
    · obtain ⟨taken, whole, spoken⟩ := heard v
      exact ⟨taken, _, whole, (congrFun (unsaid silent) v).trans spoken⟩
    · rcases Relay.cause_of_poll_failed free result with stop | ⟨v, fault⟩
      · exact .inl (asked stop)
      · exact .inr (fails v fault)
  | other away early away' through =>
    have nobody : Moment.speaker ⟨s, .act (.worker i), s'⟩ = none :=
      Moment.speaker_of_away s' found fun _ _ no => by rw [no] at away; cases away
    have unsaid : linesFrom (past ++ [⟨s, .act (.worker i), s'⟩]) i = linesFrom past i :=
      linesFrom_snoc (.inr fun v spoken => by cases nobody.symm.trans spoken)
    rw [session early, unsaid]
    -- a worker that is through with the streams does not come back to them
    cases account with
    | silent none quiet => exact .silent none quiet away'
    | speaking _ here =>
      rw [here] at away
      cases away
    | complete one ended whole => exact .complete one (through ended) whole
    | cutOff one ended heard cause => exact .cutOff one (through ended) heard (cause.imp_left asked)

/-! ### A whole run -/

theorem Run.host (run : setup.Run s₀ past s) (starts : dispatch.Starts setup s₀) {i : Nat}
    {host : Host} {lane : Lane} (target : dispatch.targets[i]? = some host)
    (found : s.lanes[i]? = some lane) : lane.record.host = host := by
  rw [← run.hosts starts, List.getElem?_map, found] at target
  exact Option.some.inj target

/-- **What was said on the streams of a host**, in every state that a dispatch can come to. -/
theorem Run.account {command : String} (run : setup.Run s₀ past s)
    (starts : dispatch.Starts setup s₀) (sends : dispatch.payload = .command command)
    (free : dispatch.console.IsFree) {i : Nat} {host : Host} {lane : Lane}
    (target : dispatch.targets[i]? = some host) (found : s.lanes[i]? = some lane) :
    lane.Account (dispatch.routing i host) (sessions i past) (linesFrom past i) := by
  induction run generalizing lane with
  | nil =>
    refine .silent rfl (fun _ => rfl) ?_
    rw [(starts.fresh found).worker]
    rfl
  | @snoc past t t' e run step ih =>
    obtain ⟨before, old, passage⟩ := (step?_step step).lane_before (run.orderly starts) found
    have account := ih old
    have none := Starts.shipment starts sends
    have kept (rests : e ≠ .act (.worker i)) (account : lane.Account (dispatch.routing i host)
        (sessions i past) (linesFrom past i)) :
        lane.Account (dispatch.routing i host) (sessions i (past ++ [⟨t, e, t'⟩]))
          (linesFrom (past ++ [⟨t, e, t'⟩]) i) := by
      have unsaid : linesFrom (past ++ [⟨t, e, t'⟩]) i = linesFrom past i :=
        linesFrom_snoc (.inr fun v spoken => rests (Moment.event_of_speaker spoken))
      rw [sessions_same (Moment.session_of_rests rests), unsaid]
      exact account
    cases passage with
    | turn own turn after =>
      subst own after
      have same : setup.routing before = dispatch.routing i host := by
        rw [run.routing starts sends old, run.host starts target old]
      rw [← same] at account ⊢
      have hearing := turn.hearing none (run.idle starts none old)
      exact Hearing.account hearing old (run.free starts free) turn.edits.aborted account
    | same rests => exact kept rests account
    | asked rests => exact kept rests account.abort
    | granted rests idle =>
      obtain ⟨none, quiet⟩ := account.of_early (by rw [idle]; rfl) (by rw [idle]; rfl)
      exact kept rests (.silent none quiet rfl)

end Setup

/-! ## Whole lines -/

/-- A whole line of the output of a host, which goes where the lines of its stream go. -/
structure Written.IsLineOf (routing : Routing) (v : Stream) (line : Written) : Prop where
  stream : line.stream = routing.target v
  text : ∃ text, text ≠ "" ∧ '\n' ∉ text.toList ∧ line.text = Console.format routing.label text
  whole : ∃ body : String, '\n' ∉ body.toList ∧ line.text = body ++ "\n"

namespace Routing

variable (routing : Routing) (v : Stream)

/-- No newline comes out of a piece. -/
theorem newline_not_mem_read {piece : Bytes} (free : newline ∉ piece) :
    '\n' ∉ (routing.read piece v).1.toList := by
  have lossy : '\n' ∉ (Utf8.lossy piece).toList := by
    rw [Utf8.lossy, String.toList_ofList]
    exact Utf8.not_mem_lossyChars (c := '\n') ⟨by decide, by decide⟩ free
  cases v with
  | err => exact lossy
  | out =>
    show '\n' ∉ (routing.readOut piece).1.toList
    unfold readOut
    split
    · exact fun among => lossy (ExitStatus.extract_subset _ among)
    · exact lossy

/-- What is written for pieces are whole lines. -/
theorem isLineOf {pieces : List Bytes} (free : ∀ piece ∈ pieces, newline ∉ piece)
    (label : ∀ label ∈ routing.label, '\n' ∉ label.toList) {line : Written}
    (among : (line.stream, line.text) ∈ routing.lines v pieces) : line.IsLineOf routing v := by
  obtain ⟨text, shown, same⟩ := List.mem_map.mp among
  obtain ⟨stream, written⟩ := Prod.mk.inj same
  obtain ⟨read, some⟩ := List.mem_filter.mp shown
  obtain ⟨piece, listed, rfl⟩ := List.mem_map.mp read
  have inLine := newline_not_mem_read routing v (free piece listed)
  refine ⟨stream.symm, ⟨_, of_decide_eq_true some, inLine, written.symm⟩, ?_⟩
  rw [← written]
  unfold Console.format
  cases given : routing.label with
  | none => exact ⟨_, inLine, rfl⟩
  | some name =>
    refine ⟨name ++ ": " ++ (routing.read piece v).1, ?_, rfl⟩
    have named := label name given
    simp [named, inLine]

end Routing

/-- The pieces of a session are free of newlines. -/
theorem SessionPlan.newline_not_mem_pieces (plan : SessionPlan) (v : Stream) :
    ∀ piece ∈ plan.pieces v, newline ∉ piece := by
  cases v with
  | out => exact newline_not_mem_piecesFrom List.not_mem_nil
  | err =>
    unfold pieces
    cases plan.stderr with
    | none => exact fun _ among => absurd among List.not_mem_nil
    | some source => exact newline_not_mem_piecesFrom List.not_mem_nil

/-- What was said is of the first pieces of the session. -/
theorem Lane.Account.spoken {routing : Routing} {sessions : List SessionPlan}
    {lines : Stream → List (Stream × String)} {lane : Lane}
    (account : lane.Account routing sessions lines) : (sessions = [] ∧ ∀ v, lines v = []) ∨
      ∃ plan, sessions = [plan] ∧ ∀ v, ∃ taken, taken <+: SessionPlan.pieces plan v ∧
        lines v = routing.lines v taken := by
  cases account with
  | silent none quiet => exact .inl ⟨none, quiet⟩
  | speaking one _ heard =>
    refine .inr ⟨_, one, fun v => ?_⟩
    obtain ⟨taken, whole, spoken⟩ := heard v
    exact ⟨taken, ⟨_, whole.symm⟩, spoken⟩
  | complete one _ whole => exact .inr ⟨_, one, fun v => ⟨_, List.prefix_rfl, whole v⟩⟩
  | cutOff one _ heard =>
    refine .inr ⟨_, one, fun v => ?_⟩
    obtain ⟨taken, rest, whole, spoken⟩ := heard v
    exact ⟨taken, ⟨rest, whole.symm⟩, spoken⟩

namespace Setup

variable {setup : Setup} {s s' s₀ : State} {past : List Moment} {dispatch : Dispatch}

/-- What was said was said in some moment. -/
theorem mem_said {who : Option (Nat × Stream)} {line : Written} :
    (who, line) ∈ said past ↔
      ∃ moment ∈ past, moment.speaker = who ∧ line ∈ moment.written := by
  constructor
  · intro among
    obtain ⟨moment, within, here⟩ := List.mem_flatMap.mp among
    obtain ⟨_, written, same⟩ := List.mem_map.mp here
    cases same
    exact ⟨moment, within, rfl, written⟩
  · rintro ⟨moment, within, rfl, written⟩
    exact List.mem_flatMap.mpr ⟨moment, within, List.mem_map.mpr ⟨line, written, rfl⟩⟩

/-- **What no host said, a task told of its own.** -/
theorem Run.told_alone {command : String} (run : setup.Run s₀ past s)
    (starts : dispatch.Starts setup s₀) (sends : dispatch.payload = .command command)
    (free : dispatch.console.IsFree) {line : Written} (among : (none, line) ∈ said past) :
    ∃ moment ∈ past, ∃ text, moment.Tells text ∧
      line = ⟨moment.before.now, .err, text ++ "\n"⟩ := by
  obtain ⟨moment, within, nobody, written⟩ := mem_said.mp among
  obtain ⟨earlier, later, first, step, -, -⟩ := run.split within
  have idle (i : Nat) (lane : Lane) (found : moment.before.lanes[i]? = some lane) :=
    first.idle starts (Starts.shipment starts sends) found
  rcases step.tells (first.free starts free) idle nobody with none | ⟨text, tells, one⟩
  · rw [none] at written
    cases written
  · rw [one] at written
    exact ⟨moment, within, text, tells, List.mem_singleton.mp written⟩

/-- **What a host said are whole lines.** -/
theorem Run.spoken_whole {command : String} (run : setup.Run s₀ past s)
    (starts : dispatch.Starts setup s₀) (sends : dispatch.payload = .command command)
    (free : dispatch.console.IsFree)
    (labels : ∀ host ∈ dispatch.targets, '\n' ∉ host.label.toList) {i : Nat} {v : Stream}
    {line : Written} (among : (some (i, v), line) ∈ said past) :
    ∃ host, dispatch.targets[i]? = some host ∧ line.IsLineOf (dispatch.routing i host) v := by
  obtain ⟨moment, within, speaker, -⟩ := mem_said.mp among
  have turn := Moment.event_of_speaker speaker
  obtain ⟨earlier, later, first, step, -, -⟩ := run.split within
  rw [turn] at step
  obtain ⟨_, _, _, there, -, -⟩ := step.own
  have inside := (List.getElem?_eq_some_iff.mp there).1
  rw [first.length, starts.length] at inside
  have target := List.getElem?_eq_getElem inside
  have present : i < s.lanes.length := by rwa [run.length, starts.length]
  refine ⟨_, target, ?_⟩
  have account := run.account starts sends free target (List.getElem?_eq_getElem present)
  have listed : (line.stream, line.text) ∈ linesFrom past i v :=
    List.mem_map.mpr ⟨_, List.mem_filter.mpr ⟨among, decide_eq_true rfl⟩, rfl⟩
  rcases account.spoken with ⟨-, quiet⟩ | ⟨plan, -, heard⟩
  · rw [quiet v] at listed
    cases listed
  · obtain ⟨taken, first, spoken⟩ := heard v
    rw [spoken] at listed
    refine Routing.isLineOf _ v ?_ ?_ listed
    · exact fun piece among => plan.newline_not_mem_pieces v piece (first.subset among)
    · exact dispatch.newline_not_mem_label i (labels _ (List.getElem_mem inside))

/-- **The output of all hosts on one console**, in every run that sends a command to a console that
takes every line.

The console holds what was said, line by line. What no host said, a task told of its own, in a line
on the second stream. What a host said on one of its streams are whole lines with its label. And the
lines of a stream of a host are those of the pieces of that stream, in order, from the first on:
all of them when the worker is through, unless the host was to abort or reading a stream failed. -/
theorem Run.multiplexed {command : String} (starts : dispatch.Starts setup s₀)
    (run : setup.Run s₀ past s) (sends : dispatch.payload = .command command)
    (free : dispatch.console.IsFree)
    (labels : ∀ host ∈ dispatch.targets, '\n' ∉ host.label.toList) :
    s.console.lines = dispatch.console.lines ++ (said past).map Prod.snd ∧
    (∀ line, (none, line) ∈ said past → ∃ moment ∈ past, ∃ text, moment.Tells text ∧
      line = ⟨moment.before.now, .err, text ++ "\n"⟩) ∧
    (∀ i v line, (some (i, v), line) ∈ said past → ∃ host, dispatch.targets[i]? = some host ∧
      line.IsLineOf (dispatch.routing i host) v) ∧
    ∀ i host lane, dispatch.targets[i]? = some host → s.lanes[i]? = some lane →
      (sessions i past = [] ∧ ∀ v, linesFrom past i v = []) ∨
      ∃ plan, sessions i past = [plan] ∧
        (∀ v, linesFrom past i v <+: (dispatch.routing i host).lines v (plan.pieces v)) ∧
        (lane.worker.isThrough = true → lane.record.aborted = true ∨ plan.fails = true ∨
          ∀ v, linesFrom past i v = (dispatch.routing i host).lines v (plan.pieces v)) := by
  refine ⟨?_, ?_, ?_, ?_⟩
  · rw [run.lines_said]
    obtain ⟨prepared⟩ := starts
    rfl
  · intro line among
    exact run.told_alone starts sends free among
  · intro i v line among
    exact run.spoken_whole starts sends free labels among
  · intro i host lane target found
    have account := run.account starts sends free target found
    rcases account.spoken with silent | ⟨plan, one, heard⟩
    · exact .inl silent
    refine .inr ⟨plan, one, ?_, ?_⟩
    · intro v
      obtain ⟨taken, ⟨rest, whole⟩, spoken⟩ := heard v
      rw [spoken, ← whole, Routing.lines_append]
      exact List.prefix_append ..
    · intro through
      cases account with
      | silent none =>
        rw [none] at one
        cases one
      | speaking _ here =>
        rw [here] at through
        cases through
      | complete same _ whole =>
        obtain rfl := List.singleton_inj.mp (same.symm.trans one)
        exact .inr (.inr whole)
      | cutOff same _ _ cause =>
        obtain rfl := List.singleton_inj.mp (same.symm.trans one)
        exact cause.imp_right .inl

/-- What two hosts say: the first one a line, a part of a line, and a line on its second stream; the
second one a line that comes in two parts. -/
def voices (name : String) : SessionPlan :=
  if name = "a" then
    { stdout := ⟨[⟨0, [120, 10, 121]⟩], .closed 0⟩, stderr := some ⟨[⟨0, [101, 10]⟩], .closed 0⟩ }
  else { stdout := ⟨[⟨0, [122]⟩, ⟨1, [122, 10]⟩], .closed 1⟩ }

/-- A command for the two hosts, whose labels are red and green. -/
def twoVoices : Dispatch :=
  { Dispatch.ofScript (fun name => ⟨some 0, .session (voices name)⟩) ["a", "b"]
      { colorLabels := true, localUser := "u" } with
    palettes := fun _ _ => ⟨fun rank => if rank = 0 then ⟨255, 0, 0⟩ else ⟨0, 205, 0⟩, .sixteen⟩ }

/-- The second host's line comes between those of the first, and all of them are whole. -/
theorem Run.multiplexed_twoVoices :
    ∃ setup s₀ past s, twoVoices.Starts setup s₀ ∧ setup.Run s₀ past s ∧
      s.console.lines.map (fun line => (line.stream, line.text))
        = [(.out, "\x1b[91ma\x1b[0m: x\n"), (.out, "\x1b[32mb\x1b[0m: zz\n"),
          (.out, "\x1b[91ma\x1b[0m: y\n"), (.err, "\x1b[91ma\x1b[0m: e\n")] ∧
      s.console.lines = (said past).map Prod.snd ∧
      ∀ i v line, (some (i, v), line) ∈ said past → ∃ host, twoVoices.targets[i]? = some host ∧
        line.IsLineOf (twoVoices.routing i host) v := by
  have starts := @Dispatch.Starts.intro twoVoices _ (Dispatch.ofScript.prepared
    (fun name => ⟨some 0, .session (voices name)⟩) { colorLabels := true, localUser := "u" } "a"
      ["b"])
  have replayed : ((twoVoices.setup none).replay?
      (.start twoVoices.options (Dispatch.ofScript.lanes twoVoices.options 0 ["a", "b"]) {})
      (List.replicate 4 (.act .dispatcher) ++ List.replicate 6 (.act (.worker 0))
        ++ List.replicate 5 (.act (.worker 1)) ++ [.clock 1, .act (.worker 1)]
        ++ List.replicate 5 (.act (.worker 0)))).map
          (fun s => s.console.lines.map fun line => (line.stream, line.text))
      = some [(.out, "\x1b[91ma\x1b[0m: x\n"), (.out, "\x1b[32mb\x1b[0m: zz\n"),
          (.out, "\x1b[91ma\x1b[0m: y\n"), (.err, "\x1b[91ma\x1b[0m: e\n")] := by
    decide +kernel
  obtain ⟨s, reached, written⟩ := Option.map_eq_some_iff.mp replayed
  obtain ⟨past, run, -⟩ := starts.run.further _ reached
  have free : twoVoices.console.IsFree := ⟨rfl, rfl⟩
  have labels : ∀ host ∈ twoVoices.targets, '\n' ∉ host.label.toList := by decide
  obtain ⟨lines, -, whole, -⟩ := multiplexed starts run rfl free labels
  exact ⟨_, _, past, s, starts, run, written, lines, whole⟩

end Setup

end Fleet
