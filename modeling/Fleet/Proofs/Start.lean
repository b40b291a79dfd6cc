import Fleet.Proofs.Run

/-!
# Where runs begin and end

A dispatch that is prepared without a fault begins with one lane for each target, in the order of
the targets, and nothing has happened to any of them. `Dispatch.Starts` is that state, and a
theorem about a dispatch is about all runs from it.

`Dispatch.run` is one of them. `run_completed` reads from what it reports the run that led there,
so that every theorem about runs in any order is one about what is reported.
-/

namespace Fleet

/-- A host to which nothing has happened yet. -/
structure Lane.IsFresh (lane : Lane) : Prop where
  worker : lane.worker = .waiting
  phase : lane.record.phase = .new
  startedAt : lane.record.startedAt = none
  connectedAt : lane.record.connectedAt = none
  finishedAt : lane.record.finishedAt = none
  exitCode : lane.record.exitCode = none
  failure : lane.record.failure = none
  aborted : lane.record.aborted = false

/-! ## Preparing -/

/-- What follows a fault is not done. -/
theorem andThen_eq_ok {ε α β : Type} {x : Except ε α} {f : α → Except ε β} {b : β} :
    x >>= f = .ok b ↔ ∃ a, x = .ok a ∧ f a = .ok b := by
  constructor
  · intro good
    cases x with
    | error e => cases good
    | ok a => exact ⟨a, rfl, good⟩
  · rintro ⟨a, rfl, good⟩
    exact good

namespace Preparation

variable {backend : Backend} {options : Options}

theorem lane_eq_ok {source : CommandSource} {nhosts rank : Nat} {host : Host} {lane : Lane}
    (made : Preparation.lane backend options source nhosts rank host = .ok lane) :
    lane.IsFresh ∧ lane.record.host = host ∧ lane.record.nodeIndex = rank ∧
      lane.record.displayLabels = options.displayLabels := by
  obtain ⟨address, -, made⟩ := andThen_eq_ok.mp made
  obtain ⟨command, -, made⟩ := andThen_eq_ok.mp made
  have made := Except.ok.inj made
  subst made
  exact ⟨⟨rfl, rfl, rfl, rfl, rfl, rfl, rfl, rfl⟩, rfl, rfl, rfl⟩

/-- One fresh lane for each target, in order. -/
theorem lanesFrom_eq_ok {source : CommandSource} {nhosts : Nat} {targets : TargetList} :
    ∀ {rank : Nat} {lanes : List Lane},
      lanesFrom backend options source nhosts rank targets = .ok lanes →
        (∀ lane ∈ lanes, lane.IsFresh) ∧ lanes.map (fun lane => lane.record.host) = targets := by
  induction targets with
  | nil =>
    intro rank lanes made
    cases made
    exact ⟨fun _ among => absurd among List.not_mem_nil, rfl⟩
  | cons host rest ih =>
    intro rank lanes made
    obtain ⟨first, one, made⟩ := andThen_eq_ok.mp made
    obtain ⟨later, others, made⟩ := andThen_eq_ok.mp made
    cases made
    have ⟨fresh, named, _⟩ := lane_eq_ok one
    have ⟨allFresh, allNamed⟩ := ih others
    refine ⟨?_, by rw [List.map_cons, named, allNamed]⟩
    intro lane among
    rcases List.mem_cons.mp among with rfl | among
    · exact fresh
    · exact allFresh lane among

/-- Each lane is that of the target in its place. -/
theorem lanesFrom_getElem? {source : CommandSource} {nhosts : Nat} {targets : TargetList} {i : Nat}
    {lane : Lane} : ∀ {rank : Nat} {lanes : List Lane},
      lanesFrom backend options source nhosts rank targets = .ok lanes →
        lanes[i]? = some lane → ∃ host, targets[i]? = some host ∧
          Preparation.lane backend options source nhosts (rank + i) host = .ok lane := by
  induction targets generalizing i with
  | nil =>
    intro rank lanes made found
    cases made
    cases found
  | cons host rest ih =>
    intro rank lanes made found
    obtain ⟨first, one, made⟩ := andThen_eq_ok.mp made
    obtain ⟨later, others, made⟩ := andThen_eq_ok.mp made
    cases made
    cases i with
    | zero =>
      cases found
      exact ⟨host, rfl, one⟩
    | succ i =>
      obtain ⟨other, there, made⟩ := ih others found
      rw [Nat.add_assoc, Nat.add_comm 1] at made
      exact ⟨other, there, made⟩

section Make

variable {fs : FileSystem} {payload : Payload} {targets : TargetList} {preparation : Preparation}

/-- A preparation that goes well takes the contents as they come, and makes its lanes from them. -/
theorem make_lanes (made : make backend options fs payload targets = .ok preparation) :
    targets ≠ [] ∧ ∃ source, contents fs payload = .ok (source, preparation.shipment) ∧
      lanesFrom backend options source targets.length 0 targets = .ok preparation.lanes := by
  simp only [make] at made
  split at made
  · cases made
  next some =>
  obtain ⟨_, -, made⟩ := andThen_eq_ok.mp made
  obtain ⟨⟨source, shipment⟩, contents, made⟩ := andThen_eq_ok.mp made
  obtain ⟨lanes, listed, same⟩ := andThen_eq_ok.mp made
  obtain rfl := Except.ok.inj same
  exact ⟨fun none => some (by rw [none]; rfl), source, contents, listed⟩

/-- A preparation that goes well has one fresh lane for each target, and there are targets. -/
theorem make_eq_ok (made : make backend options fs payload targets = .ok preparation) :
    targets ≠ [] ∧ (∀ lane ∈ preparation.lanes, lane.IsFresh) ∧
      preparation.lanes.map (fun lane => lane.record.host) = targets := by
  obtain ⟨some, _, -, listed⟩ := make_lanes made
  exact ⟨some, lanesFrom_eq_ok listed⟩

/-- Hosts know their places, and are labelled as the settings say. -/
theorem make_place (made : make backend options fs payload targets = .ok preparation) {i : Nat}
    {lane : Lane} (found : preparation.lanes[i]? = some lane) :
    lane.record.nodeIndex = i ∧ lane.record.displayLabels = options.displayLabels := by
  obtain ⟨-, _, -, listed⟩ := make_lanes made
  obtain ⟨host, -, one⟩ := lanesFrom_getElem? listed found
  obtain ⟨-, -, place, labels⟩ := lane_eq_ok one
  exact ⟨place.trans (Nat.zero_add i), labels⟩

end Make

end Preparation

namespace Dispatch

/-- `dispatch.Starts setup s`: preparing the dispatch goes well, and its run begins in `s`. -/
inductive Starts (dispatch : Dispatch) : Setup → State → Prop where
  | intro {preparation : Preparation}
      (prepared : Preparation.make dispatch.backend dispatch.options dispatch.fs dispatch.payload
        dispatch.targets = .ok preparation) :
      Starts dispatch (dispatch.setup preparation.shipment)
        (.start dispatch.options preparation.lanes dispatch.console)

variable {dispatch : Dispatch} {setup : Setup} {s : State}

namespace Starts

theorem hosts (starts : dispatch.Starts setup s) :
    s.lanes.map (fun lane => lane.record.host) = dispatch.targets := by
  obtain ⟨prepared⟩ := starts
  exact (Preparation.make_eq_ok prepared).2.2

theorem length (starts : dispatch.Starts setup s) : s.lanes.length = dispatch.targets.length := by
  rw [← starts.hosts, List.length_map]

theorem targets_pos (starts : dispatch.Starts setup s) : 0 < dispatch.targets.length := by
  obtain ⟨prepared⟩ := starts
  exact List.length_pos_iff.mpr (Preparation.make_eq_ok prepared).1

theorem pos (starts : dispatch.Starts setup s) : 0 < s.lanes.length :=
  starts.length ▸ starts.targets_pos

theorem options (starts : dispatch.Starts setup s) : setup.options = dispatch.options := by
  obtain ⟨prepared⟩ := starts
  rfl

theorem backend (starts : dispatch.Starts setup s) : setup.backend = dispatch.backend := by
  obtain ⟨prepared⟩ := starts
  rfl

theorem palette (starts : dispatch.Starts setup s) : setup.palette = dispatch.palette := by
  obtain ⟨prepared⟩ := starts
  rfl

theorem place (starts : dispatch.Starts setup s) {i : Nat} {lane : Lane}
    (found : s.lanes[i]? = some lane) :
    lane.record.nodeIndex = i ∧ lane.record.displayLabels = dispatch.options.displayLabels := by
  obtain ⟨prepared⟩ := starts
  exact Preparation.make_place prepared found

theorem fresh (starts : dispatch.Starts setup s) {i : Nat} {lane : Lane}
    (found : s.lanes[i]? = some lane) : lane.IsFresh := by
  obtain ⟨prepared⟩ := starts
  exact (Preparation.make_eq_ok prepared).2.1 lane (List.mem_of_getElem? found)

/-- A run begins with the first host. -/
theorem dispatcher (starts : dispatch.Starts setup s) :
    s.dispatcher = .admitting 0 .arriving := by
  have some := starts.pos
  obtain ⟨prepared⟩ := starts
  exact if_pos some

/-- A run begins with no slot taken. -/
theorem gate (starts : dispatch.Starts setup s) :
    s.gate = .ofLimit (dispatch.options.fanoutLimit dispatch.targets.length) := by
  rw [← starts.length]
  obtain ⟨prepared⟩ := starts
  rfl

theorem orderly (starts : dispatch.Starts setup s) : s.Orderly := by
  intro next waiting here
  obtain ⟨rfl, -⟩ := Dispatcher.admitting.inj (starts.dispatcher.symm.trans here)
  exact ⟨starts.pos, fun _ _ _ found => (starts.fresh found).worker⟩

/-- The run in which nothing has happened yet. -/
theorem run (_ : dispatch.Starts setup s) : setup.Run s [] s := .nil

end Starts

/-- The command `true` for some hosts, over sessions that open as a script says. -/
def ofScript (script : String → Attempt) (names : List String) (options : Options) : Dispatch where
  backend := { kind := .exec, attempt := fun _ request => script request.host }
  options
  fs := ⟨.special, []⟩
  targets := names.map fun name => { hostname := name }
  payload := .command "true"

namespace ofScript

/-- The lane of a host in the beginning. -/
def lane (options : Options) (rank : Nat) (name : String) : Lane where
  record := {
    host := { hostname := name }
    localUser := options.localUser
    remoteUser := options.userFor { hostname := name }
    kind := .exec
    nodeIndex := rank
    displayLabels := options.displayLabels }
  command := if options.maxRemoteStatus then ExitStatus.withProbe "true" else "true"

/-- The lanes of the hosts from a rank on. -/
def lanes (options : Options) : Nat → List String → List Lane
  | _, [] => []
  | rank, name :: rest => lane options rank name :: lanes options (rank + 1) rest

variable (script : String → Attempt) (options : Options)

private theorem lanesFrom_eq (all : List String) (nhosts : Nat) :
    ∀ (rank : Nat) (names : List String),
      Preparation.lanesFrom (ofScript script all options).backend options
        (.rendered ⟨"true", [.text "true".toList]⟩) nhosts rank
        (names.map fun name => { hostname := name }) = .ok (lanes options rank names)
  | _, [] => rfl
  | rank, name :: rest => by
    refine andThen_eq_ok.mpr ⟨lane options rank name, rfl, ?_⟩
    exact andThen_eq_ok.mpr ⟨_, lanesFrom_eq all nhosts (rank + 1) rest, rfl⟩

/-- There is nothing that can go wrong before hosts are contacted, but for having none. -/
theorem prepared (name : String) (rest : List String) :
    Preparation.make (ofScript script (name :: rest) options).backend options ⟨.special, []⟩
      (.command "true") ((name :: rest).map fun name => { hostname := name })
        = .ok ⟨lanes options 0 (name :: rest), none⟩ := by
  refine andThen_eq_ok.mpr ⟨(), rfl, ?_⟩
  refine andThen_eq_ok.mpr ⟨(.rendered ⟨"true", [.text "true".toList]⟩, none), rfl, ?_⟩
  exact andThen_eq_ok.mpr ⟨_, lanesFrom_eq script options _ _ 0 _, rfl⟩

theorem starts (name : String) (rest : List String) :
    (ofScript script (name :: rest) options).Starts
      ((ofScript script (name :: rest) options).setup none)
      (.start options (lanes options 0 (name :: rest)) {}) :=
  @Starts.intro (ofScript script (name :: rest) options) _ (prepared script options name rest)

end ofScript

end Dispatch

namespace Setup.Run

variable {dispatch : Dispatch} {setup : Setup} {s₀ s : State} {past : List Moment}

theorem orderly (run : setup.Run s₀ past s) (starts : dispatch.Starts setup s₀) : s.Orderly :=
  run.preserves starts.orderly fun _ _ _ step orderly => step.orderly orderly

/-- **What holds of every host in the beginning and is kept by all that can happen to a host, holds
of every host in every state that a dispatch can come to.** -/
theorem lane_preserves {Q : Lane → Prop} (run : setup.Run s₀ past s)
    (starts : dispatch.Starts setup s₀)
    (start : ∀ (i : Nat) lane, s₀.lanes[i]? = some lane → Q lane)
    (asked : ∀ lane, Q lane → Q lane.abort)
    (granted : ∀ lane, lane.worker = .waiting → Q lane → Q (lane.moveTo .admitted))
    (turn : ∀ (s : State) (i : Nat) lane lane' t,
      setup.Turn s i lane lane' t → Q lane → Q lane') {i : Nat}
    {lane : Lane} (found : s.lanes[i]? = some lane) : Q lane := by
  have holds : s.Orderly ∧ ∀ (i : Nat) (lane : Lane), s.lanes[i]? = some lane → Q lane := by
    apply run.preserves (P := fun u => u.Orderly ∧
      ∀ (i : Nat) (lane : Lane), u.lanes[i]? = some lane → Q lane)
    · exact ⟨starts.orderly, start⟩
    · rintro u e u' step ⟨orderly, holds⟩
      refine ⟨step.orderly orderly, ?_⟩
      intro i lane' found
      exact step.lane_keeps orderly found (holds i) asked granted (turn u i)
  exact holds.2 i lane found

/-- The same of what holds of a fresh host. -/
theorem lane_induction {Q : Lane → Prop} (run : setup.Run s₀ past s)
    (starts : dispatch.Starts setup s₀) (fresh : ∀ lane, lane.IsFresh → Q lane)
    (asked : ∀ lane, Q lane → Q lane.abort)
    (granted : ∀ lane, lane.worker = .waiting → Q lane → Q (lane.moveTo .admitted))
    (turn : ∀ (s : State) (i : Nat) lane lane' t,
      setup.Turn s i lane lane' t → Q lane → Q lane') {i : Nat}
    {lane : Lane} (found : s.lanes[i]? = some lane) : Q lane :=
  run.lane_preserves starts (fun _ lane there => fresh lane (starts.fresh there)) asked granted turn
    found

end Setup.Run

/-! ## The order that `Dispatch.run` follows -/

/-- If the clock moves, then no task can take a step, and it moves to the next time at which one
may. -/
def Moment.IsAwaited (setup : Setup) (moment : Moment) : Prop :=
  ∀ time, moment.event = .clock time → ∃ course : Course, course.state = moment.before ∧
    course.act? setup = none ∧ course.nextTime? = some time

namespace Course

variable {setup : Setup} {course : Course}

/-- The next event of a course is an event of the run. -/
theorem next?_step {deadline : Time} {next : Course}
    (chosen : course.next? setup deadline = some next) :
    ∃ e, setup.step? course.state e = some next.state ∧
      Moment.IsAwaited setup ⟨course.state, e, next.state⟩ := by
  unfold next? at chosen
  rcases Option.or_eq_some_iff.mp chosen with acts | ⟨idle, chosen⟩
  · unfold act? at acts
    obtain ⟨actor, -, acts⟩ := List.exists_of_findSome?_eq_some acts
    obtain ⟨t, step, rfl⟩ := Option.map_eq_some_iff.mp acts
    exact ⟨_, step, fun _ clock => by cases clock⟩
  rcases Option.or_eq_some_iff.mp chosen with comes | ⟨-, passes⟩
  · unfold interrupt? at comes
    split at comes
    · split at comes
      · obtain ⟨t, step, rfl⟩ := Option.map_eq_some_iff.mp comes
        exact ⟨_, step, fun _ clock => by cases clock⟩
      · cases comes
    · cases comes
  · obtain ⟨time, soon, passes⟩ := Option.bind_eq_some_iff.mp passes
    split at passes
    · obtain ⟨t, step, rfl⟩ := Option.map_eq_some_iff.mp passes
      refine ⟨_, step, ?_⟩
      intro later clock
      obtain rfl := Event.clock.inj clock
      exact ⟨course, rfl, idle, soon⟩
    · cases passes

/-- **Following a course is a run**, in which the clock waits for the tasks. -/
theorem follow_run {deadline : Time} {until? : State → Bool} :
    ∀ (steps : Nat) (course : Course),
      ∃ past, setup.Run course.state past (course.follow setup deadline until? steps).state ∧
        ∀ moment ∈ past, moment.IsAwaited setup
  | 0, course => ⟨[], .nil, fun _ among => absurd among List.not_mem_nil⟩
  | steps + 1, course => by
    have done : ∃ past, setup.Run course.state past course.state ∧
        ∀ moment ∈ past, moment.IsAwaited setup :=
      ⟨[], .nil, fun _ among => absurd among List.not_mem_nil⟩
    unfold follow
    split
    · exact done
    · cases chosen : course.next? setup deadline with
      | none => exact done
      | some next =>
        obtain ⟨e, step, awaited⟩ := next?_step chosen
        obtain ⟨past, run, later⟩ := follow_run steps next
        refine ⟨_, (Setup.Run.single step).append run, ?_⟩
        intro moment among
        rcases List.mem_append.mp among with first | rest
        · obtain rfl := List.mem_singleton.mp first
          exact awaited
        · exact later moment rest

end Course

namespace Dispatch

theorem conclude_completed {dispatch : Dispatch} {setup : Setup} {course : Course}
    {outcome : Outcome}
    (completed : (dispatch.conclude setup course).conclusion = .completed outcome) :
    course.state.dispatcher = .returned (.ok ()) ∧
      outcome = .ofRecords course.state.records dispatch.options.maxRemoteStatus
        course.state.gate.peak := by
  simp only [conclude] at completed
  split at completed
  · next returned => exact ⟨returned, (Conclusion.completed.inj completed).symm⟩
  · cases completed
  · cases completed

/-- **What a dispatch reports is what a run came to** whose dispatcher returned without a fault. -/
theorem run_completed {dispatch : Dispatch} {outcome : Outcome}
    (completed : dispatch.run.conclusion = .completed outcome) :
    ∃ setup s₀ past s, dispatch.Starts setup s₀ ∧ setup.Run s₀ past s ∧
      s.dispatcher = .returned (.ok ()) ∧
      outcome = .ofRecords s.records dispatch.options.maxRemoteStatus s.gate.peak := by
  unfold run at completed
  split at completed
  · cases completed
  · next lanes shipment prepared =>
    obtain ⟨returned, reported⟩ := conclude_completed completed
    obtain ⟨past, followed, -⟩ := Course.follow_run dispatch.horizon.steps
      { state := .start dispatch.options lanes dispatch.console, arrivals := dispatch.interrupts }
    exact ⟨_, _, past, _, .intro prepared, followed, returned, reported⟩

end Dispatch

end Fleet
