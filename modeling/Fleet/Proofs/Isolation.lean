import Fleet.Proofs.Foretold

/-!
# Hosts do not influence each other

Two dispatches may differ in everything but one host: in the other hosts and what becomes of them,
in the numbers of slots, and in the order of all events. If the backend is told the same about that
host and gives the same answer, then the same comes of it.

The proof follows neither run beside the other. What comes of a host is foretold by its answer
(`Setup.Run.foretold`), so both runs come to fates that one outlook allows, and these have all in
common that the order of events does not decide.

**The law** (`Setup.isolated`) needs two things besides. The console takes what the host says, for
all hosts share it: on a console that takes one line, a host that speaks first makes the other one
fail. And where reading one stream of the host fails, what the other one still says may come too
late; what that touches is left out, part by part. The label in front of a line stands apart, for
each run draws its own colours. `isolated_fails` has a pair of runs for each.
-/

namespace Fleet

/-- Two dispatches treat a host alike: they send the same, they write its output in the same way,
and both backends give this answer to what they are told about it, whatever they were asked
before. -/
structure Setup.Alike (setup₁ setup₂ : Setup) (request : OpenRequest) (answer : Attempt) :
    Prop where
  answer₁ : ∀ earlier, setup₁.backend.attempt earlier request = answer
  answer₂ : ∀ earlier, setup₂.backend.attempt earlier request = answer
  cargo : setup₁.cargo = setup₂.cargo
  displayLabels : setup₁.options.displayLabels = setup₂.options.displayLabels
  maxRemoteStatus : setup₁.options.maxRemoteStatus = setup₂.options.maxRemoteStatus

/-- A run of a dispatch that returned well and in which nothing took a hand, and a host in it about
which the backend was told this. -/
structure Dispatch.Serves (dispatch : Dispatch) (setup : Setup) (past : List Moment)
    (request : OpenRequest) (lane : Lane) : Prop where
  /-- It was a run of this dispatch that returned well. -/
  run : ∃ s₀ s time, dispatch.Starts setup s₀ ∧ setup.Run s₀ past s ∧
    s.dispatcher = .returned (.ok ()) ∧ ⟨time, request⟩ ∈ s.opens ∧
    s.lanes[request.nodeIndex]? = some lane
  lockstep : dispatch.backend.lockstep = false
  limits : dispatch.options.limits.isDisabled = true
  calm : ∀ moment ∈ past, moment.event ≠ .interrupt

/-! ## Requests and lanes -/

namespace Setup

variable {setup : Setup} {s s' s₀ : State} {past : List Moment} {dispatch : Dispatch}

/-- **What the backend is told is about a host in its place.** -/
theorem Run.opened (run : setup.Run s₀ past s) (starts : dispatch.Starts setup s₀) {o : Opened}
    (among : o ∈ s.opens) : ∃ lane, s.lanes[o.request.nodeIndex]? = some lane ∧
      setup.request s.lanes.length lane = o.request := by
  induction run with
  | nil =>
    obtain ⟨prepared⟩ := starts
    cases among
  | @snoc past t t' e run step ih =>
    have step := step?_step step
    have orderly := run.orderly starts
    -- what was told before stays so, and what is told now is told about a host of the run
    obtain ⟨lane, there, told⟩ : ∃ lane, t.lanes[o.request.nodeIndex]? = some lane ∧
        setup.request t.lanes.length lane = o.request := by
      rcases step.opens with same | ⟨i, lane, -, found, -, -, more⟩
      · rw [same] at among
        exact ih among
      · rw [more] at among
        rcases List.mem_append.mp among with before | last
        · exact ih before
        · obtain rfl := List.mem_singleton.mp last
          have place : (setup.request t.lanes.length lane).nodeIndex = i :=
            (run.place starts found).1
          rw [place]
          exact ⟨lane, found, rfl⟩
    obtain ⟨lane', there', passage⟩ := step.lane orderly there
    exact ⟨lane', there', by rw [step.length, passage.request, told]⟩

/-- How the output of a host is written of which the backend is told this. -/
def routingOf (setup : Setup) (request : OpenRequest) : Routing where
  label :=
    if setup.options.displayLabels then
      some (Palette.label setup.palette request.nodeIndex { hostname := request.host })
    else none
  separateStderr := request.wantErrorChannel
  extractStatus := setup.options.maxRemoteStatus && !request.wantInput

/-- How the output of a host is written can be told from what the backend is told about it. -/
theorem Run.routing_eq (run : setup.Run s₀ past s) (starts : dispatch.Starts setup s₀) {i : Nat}
    {lane : Lane} {nhosts : Nat} {request : OpenRequest} (found : s.lanes[i]? = some lane)
    (told : setup.request nhosts lane = request) :
    setup.routing lane = setup.routingOf request := by
  have files : setup.shipment.isNone = !setup.shipment.isSome := by
    cases setup.shipment <;> rfl
  rw [← told, Setup.routing, (run.place starts found).2, ← starts.options, files]
  rfl

end Setup

/-! ## One run -/

namespace Dispatch.Serves

variable {dispatch : Dispatch} {setup : Setup} {past : List Moment} {request : OpenRequest}
  {lane : Lane}

/-- **What comes of a host** is a fate that its answer allows, and how its output is written can be
told from what the backend was told about it. -/
theorem allows (serves : dispatch.Serves setup past request lane)
    (room : setup.HasRoomFor past request.nodeIndex) {answer : Attempt}
    (answers : ∀ earlier, setup.backend.attempt earlier request = answer) :
    lane.record.hostname = request.host ∧
      setup.routing lane = setup.routingOf request ∧
      (answer.opening.outlook setup.cargo).Allows (setup.routing lane) none
        ⟨lane.record.phase, lane.record.exitCode, lane.record.failure,
          Setup.linesFrom past request.nodeIndex⟩ := by
  obtain ⟨s₀, s, time, starts, run, returned, opened, found⟩ := serves.run
  obtain ⟨lane', there, told⟩ := run.opened starts opened
  obtain rfl : lane' = lane := Option.some.inj (there.symm.trans found)
  have told : setup.request s.lanes.length lane' = request := told
  have plain : dispatch.IsPlain past := ⟨serves.lockstep, serves.limits, serves.calm⟩
  have gone : lane'.worker = .gone false := by
    have settled := run.settled starts
    rw [returned] at settled
    exact settled _ _ found
  have foretold := run.foretold starts plain found room (told ▸ answers)
  exact ⟨by rw [← told]; rfl, run.routing_eq starts found told, foretold.settled gone⟩

/-- A console without limits takes what every host says. -/
theorem hasRoomFor (serves : dispatch.Serves setup past request lane)
    (free : dispatch.console.IsFree) (i : Nat) : setup.HasRoomFor past i := by
  obtain ⟨s₀, s, time, starts, run, -⟩ := serves.run
  intro moment among lane v found spoken
  obtain ⟨earlier, later, before, -⟩ := run.split among
  exact (before.free starts free).room_ne _

end Dispatch.Serves

/-- The lane of a host about which the backend was told this, where the run has returned well. -/
def State.served? (s : State) (request : OpenRequest) : Option Lane :=
  match s.dispatcher with
  | .returned (.ok ()) =>
    if request ∈ s.opens.map Opened.request then s.lanes[request.nodeIndex]? else none
  | _ => none

theorem State.served?_eq_some {s : State} {request : OpenRequest} {lane : Lane}
    (served : s.served? request = some lane) :
    s.dispatcher = .returned (.ok ()) ∧ (∃ time, ⟨time, request⟩ ∈ s.opens) ∧
      s.lanes[request.nodeIndex]? = some lane := by
  unfold served? at served
  split at served
  · next returned =>
    split at served
    · next told =>
      obtain ⟨⟨time, _⟩, among, rfl⟩ := List.mem_map.mp told
      exact ⟨returned, ⟨time, among⟩, served⟩
    · cases served
  · cases served

/-- What some events show of a host when they end well: its report, and what was written for its
first stream. -/
def Setup.shown? (setup : Setup) (s₀ : State) (events : List Event) (request : OpenRequest) :
    Option (HostReport × List (Stream × String)) :=
  ((setup.replay? s₀ events).bind (·.served? request)).map fun lane =>
    (lane.record.report, linesFrom (setup.moments s₀ events) request.nodeIndex .out)

theorem Dispatch.Serves.of_shown {dispatch : Dispatch} {setup : Setup} {s₀ : State}
    {events : List Event} {request : OpenRequest} {report : HostReport}
    {lines : List (Stream × String)} (starts : dispatch.Starts setup s₀)
    (lockstep : dispatch.backend.lockstep = false)
    (limits : dispatch.options.limits.isDisabled = true) (calm : .interrupt ∉ events)
    (shown : setup.shown? s₀ events request = some (report, lines)) :
    ∃ past lane, dispatch.Serves setup past request lane ∧ lane.record.report = report ∧
      Setup.linesFrom past request.nodeIndex .out = lines := by
  obtain ⟨lane, served, same⟩ := Option.map_eq_some_iff.mp shown
  obtain ⟨s, replayed, served⟩ := Option.bind_eq_some_iff.mp served
  obtain ⟨returned, ⟨time, opened⟩, found⟩ := State.served?_eq_some served
  obtain ⟨run, happened⟩ := Setup.Run.of_moments replayed
  obtain ⟨reported, written⟩ := Prod.mk.inj same
  have plain : ∀ moment ∈ setup.moments s₀ events, moment.event ≠ .interrupt :=
    Moment.event_ne (by rwa [happened])
  exact ⟨_, lane, ⟨⟨s₀, s, time, starts, run, returned, opened, found⟩, lockstep, limits, plain⟩,
    reported, written⟩

/-! ## Two runs -/

namespace Setup

/-- **Hosts do not influence each other.** Let two dispatches return well, with no time limits, no
interrupts and no host that ends the run for all, and let their consoles take what a host says. If
both backends were told the same about the host and gave the same answer to it, and if both send it
the same and write its output in the same way, then the same comes of it: it ends in the same phase;
with the same failure, unless reading fails on both its streams; with the same exit code, unless
reading the second stream fails while the first says something that carries a status; and what is
written for each stream is all that the stream says, unless reading the other one fails while this
one says something. Only the labels in front of the lines may differ, in their colours. -/
theorem isolated {dispatch₁ dispatch₂ : Dispatch} {setup₁ setup₂ : Setup}
    {past₁ past₂ : List Moment} {lane₁ lane₂ : Lane} {request : OpenRequest} {answer : Attempt}
    (first : dispatch₁.Serves setup₁ past₁ request lane₁)
    (second : dispatch₂.Serves setup₂ past₂ request lane₂)
    (room₁ : setup₁.HasRoomFor past₁ request.nodeIndex)
    (room₂ : setup₂.HasRoomFor past₂ request.nodeIndex)
    (alike : setup₁.Alike setup₂ request answer) :
    let outlook := answer.opening.outlook setup₁.cargo
    let report₁ := lane₁.record.report
    let report₂ := lane₂.record.report
    let routing₁ := setup₁.routing lane₁
    let routing₂ := setup₂.routing lane₂
    let lines₁ := linesFrom past₁ request.nodeIndex
    let lines₂ := linesFrom past₂ request.nodeIndex
    report₁.hostname = report₂.hostname ∧ report₁.phase = report₂.phase ∧
      (outlook.FailsOnce → report₁.failure = report₂.failure) ∧
      (outlook.Spares .out ∨ outlook.IsBare routing₁ → report₁.exitCode = report₂.exitCode) ∧
      routing₂ = { routing₁ with label := routing₂.label } ∧
      (setup₁.options.displayLabels = false ∨ setup₁.palette = setup₂.palette →
        routing₁.label = routing₂.label) ∧
      ∀ v, outlook.Spares v →
        lines₁ v = routing₁.lines v (outlook.pieces v) ∧
        lines₂ v = routing₂.lines v (outlook.pieces v) ∧
        (routing₁.label = routing₂.label → lines₁ v = lines₂ v) := by
  obtain ⟨name₁, routed₁, allows₁⟩ := first.allows room₁ alike.answer₁
  obtain ⟨name₂, routed₂, allows₂⟩ := second.allows room₂ alike.answer₂
  rw [← alike.cargo] at allows₂
  intro outlook report₁ report₂ routing₁ routing₂ lines₁ lines₂
  have relabelled : routing₂ = { routing₁ with label := routing₂.label } := by
    simp only [routing₁, routing₂, routed₁, routed₂, routingOf, alike.maxRemoteStatus]
  -- under the label of the first run the second one comes to the same
  obtain ⟨_, same⟩ := allows₂.relabel routing₁.label
  have back : { routing₂ with label := routing₁.label } = routing₁ := by rw [relabelled]
  rw [back] at same
  refine ⟨name₁.trans name₂.symm, allows₁.phase_eq same, ?_, ?_, relabelled, ?_, ?_⟩
  · intro once
    exact allows₁.failure_eq same once
  · intro spares
    exact allows₁.exitCode_eq same spares
  · intro plain
    simp only [routing₁, routing₂, routed₁, routed₂, routingOf, ← alike.displayLabels]
    rcases plain with off | drawn
    · rw [off]
      rfl
    · rw [drawn]
  · intro v spares
    have written₁ := allows₁.lines_eq spares
    have written₂ := allows₂.lines_eq spares
    refine ⟨written₁, written₂, fun label => written₁.trans (.trans ?_ written₂.symm)⟩
    show routing₁.lines v _ = routing₂.lines v _
    rw [relabelled, ← label]

/-- What three hosts do: the first one says a line and its status, the second one gets no session,
and the third one is slow and ends with another status. -/
def neighbours (name : String) : Attempt :=
  if name = "a" then
    ⟨some 0, .session { stdout := ⟨[⟨0, Utf8.encode "x\n__FANOUT_RC__:3\n"⟩], .closed 0⟩ }⟩
  else if name = "b" then ⟨some 0, .refused (.connect "no route")⟩
  else ⟨some 0, .session { stdout := ⟨[⟨1, Utf8.encode "y\n__FANOUT_RC__:7\n"⟩], .closed 1⟩ }⟩

/-- A command for the first of them, after another one, in some slots. -/
def besides (name : String) (fanout : Nat) (console : Console) : Dispatch :=
  { Dispatch.ofScript neighbours [name, "a"]
      { fanout, limits := ⟨0, 0⟩, maxRemoteStatus := true, localUser := "u" } with console }

/-- What the backend is told about the first one. -/
def toldOfFirst : OpenRequest where
  host := "a"
  address := none
  localUser := "u"
  remoteUser := "u"
  command := "true; echo __FANOUT_RC__:$?"
  nodeIndex := 1
  nhosts := 2
  wantErrorChannel := true
  wantInput := false

private theorem besides_starts (name : String) (fanout : Nat) (console : Console) :
    let dispatch := besides name fanout console
    dispatch.Starts (dispatch.setup none) (.start dispatch.options
      (Dispatch.ofScript.lanes dispatch.options 0 [name, "a"]) console) :=
  @Dispatch.Starts.intro (besides name fanout console) _
    (Dispatch.ofScript.prepared neighbours _ name ["a"])

/-- The backend gives the same answer for the first host whatever the other one is. -/
private theorem besides_alike (name₁ name₂ : String) (fanout₁ fanout₂ : Nat)
    (console₁ console₂ : Console) :
    ((besides name₁ fanout₁ console₁).setup none).Alike
      ((besides name₂ fanout₂ console₂).setup none) toldOfFirst (neighbours "a") :=
  ⟨fun _ => rfl, fun _ => rfl, rfl, rfl, rfl⟩

/-- After the host that gets no session, with one slot. -/
private theorem besides_refused (console : Console)
    (takes : console = {} ∨ console = { outRoom := some 1 }) :
    ∃ past lane,
      (besides "b" 1 console).Serves ((besides "b" 1 console).setup none) past toldOfFirst lane ∧
      lane.record.report = ⟨"a", .done, some 3, none⟩ ∧
      linesFrom past 1 .out = [(.out, "a: x\n")] := by
  refine @Dispatch.Serves.of_shown _ _ _ (List.replicate 4 (.act .dispatcher)
    ++ List.replicate 8 (.act (.worker 0)) ++ List.replicate 4 (.act .dispatcher)
    ++ List.replicate 13 (.act (.worker 1)) ++ List.replicate 4 (.act .dispatcher)) _ _ _
    (besides_starts "b" 1 console) rfl rfl (by decide) ?_
  rcases takes with rfl | rfl <;> decide +kernel

/-- The first host ends the same after a host that fails and beside one that is slow. -/
theorem isolated_otherNeighbour :
    ∃ past₁ past₂ lane₁ lane₂,
      (besides "b" 1 {}).Serves ((besides "b" 1 {}).setup none) past₁ toldOfFirst lane₁ ∧
      (besides "c" 2 {}).Serves ((besides "c" 2 {}).setup none) past₂ toldOfFirst lane₂ ∧
      lane₁.record.report = ⟨"a", .done, some 3, none⟩ ∧
      linesFrom past₁ 1 .out = [(.out, "a: x\n")] ∧
      lane₂.record.report = lane₁.record.report ∧ linesFrom past₂ 1 = linesFrom past₁ 1 := by
  obtain ⟨past₁, lane₁, first, report₁, lines₁⟩ := besides_refused {} (.inl rfl)
  obtain ⟨past₂, lane₂, second, -⟩ := @Dispatch.Serves.of_shown _ _ _
    (List.replicate 6 (.act .dispatcher) ++ List.replicate 5 (.act (.worker 0))
      ++ List.replicate 13 (.act (.worker 1)) ++ List.replicate 2 (.act .dispatcher)
      ++ [.clock 1] ++ List.replicate 8 (.act (.worker 0)) ++ List.replicate 4 (.act .dispatcher))
    toldOfFirst ⟨"a", .done, some 3, none⟩ [(.out, "a: x\n")] (besides_starts "c" 2 {}) rfl rfl
    (by decide) (by decide +kernel)
  let outlook := (neighbours "a").opening.outlook ((besides "b" 1 {}).setup none).cargo
  have fine (v : Stream) : outlook.Spares v := by
    refine .inl fun w _ => ?_
    cases w <;> rfl
  have once : outlook.FailsOnce := by
    rintro (_ | _) w fault <;> cases fault
  obtain ⟨name, phase, failure, code, -, labels, lines⟩ :=
    isolated first second (first.hasRoomFor ⟨rfl, rfl⟩ 1) (second.hasRoomFor ⟨rfl, rfl⟩ 1)
      (besides_alike "b" "c" 1 2 {} {})
  refine ⟨past₁, past₂, lane₁, lane₂, first, second, report₁, lines₁, ?_, ?_⟩
  · exact (HostReport.mk.injEq ..).mpr
      ⟨name.symm, phase.symm, (code (.inl (fine .out))).symm, (failure once).symm⟩
  · exact funext fun v => ((lines v (fine v)).2.2 (labels (.inr rfl))).symm

/-- The first of them, after the one that gets no session, with coloured labels. -/
def tinted (color : Color) : Dispatch :=
  let plain := besides "b" 1 {}
  { plain with
    options := { plain.options with colorLabels := true }
    palettes := fun _ _ => ⟨fun _ => color, .full⟩ }

/-- The label is in the colour that was drawn. -/
private theorem tinted_serves (color : Color) {report : HostReport} {lines : List (Stream × String)}
    (shown : ((tinted color).setup none).shown?
      (.start (tinted color).options
        (Dispatch.ofScript.lanes (tinted color).options 0 ["b", "a"]) {})
      (List.replicate 4 (.act .dispatcher) ++ List.replicate 8 (.act (.worker 0))
        ++ List.replicate 4 (.act .dispatcher) ++ List.replicate 13 (.act (.worker 1))
        ++ List.replicate 4 (.act .dispatcher)) toldOfFirst = some (report, lines)) :
    ∃ past lane, (tinted color).Serves ((tinted color).setup none) past toldOfFirst lane ∧
      lane.record.report = report ∧ linesFrom past 1 .out = lines :=
  Dispatch.Serves.of_shown
    (@Dispatch.Starts.intro (tinted color) _
      (Dispatch.ofScript.prepared neighbours (tinted color).options "b" ["a"]))
    rfl rfl (by decide) shown

/-- A command for one host. Reading fails on its second stream before it says a line on the first
one, which ends in some way then. -/
def breaking (ending : Ending) : Dispatch :=
  .ofScript (fun _ => ⟨some 0, .session
    { stdout := ⟨[⟨2, Utf8.encode "x__FANOUT_RC__:3\n"⟩], ending⟩
      stderr := some ⟨[], .failure 1 (.reported "hangup")⟩ }⟩) ["a"]
    { limits := ⟨0, 0⟩, maxRemoteStatus := true, localUser := "u" }

/-- What the backend is told about it. -/
def toldOfBreaking : OpenRequest := { toldOfFirst with nodeIndex := 0, nhosts := 1 }

/-- Its worker looks at some moment, and takes so many turns then. -/
private theorem breaking_serves (ending : Ending) (time : Time) (turns : Nat) {report : HostReport}
    {lines : List (Stream × String)}
    (shown : ((breaking ending).setup none).shown?
      (.start (breaking ending).options
        (Dispatch.ofScript.lanes (breaking ending).options 0 ["a"]) {})
      (List.replicate 4 (.act .dispatcher) ++ List.replicate 5 (.act (.worker 0)) ++ [.clock time]
        ++ List.replicate turns (.act (.worker 0)) ++ List.replicate 4 (.act .dispatcher))
      toldOfBreaking = some (report, lines)) :
    ∃ past lane, (breaking ending).Serves ((breaking ending).setup none) past toldOfBreaking lane ∧
      lane.record.report = report ∧ linesFrom past 0 .out = lines := by
  refine Dispatch.Serves.of_shown
    (Dispatch.ofScript.starts _ (breaking ending).options "a" []) rfl rfl ?_ shown
  simp [List.mem_replicate]

/-- **None of this can be left out.** On a console that takes one line, a host whose neighbour speaks
first fails. On every console it depends on when a worker looks which of two faults it meets, and
what it writes and takes for the exit code before it meets one. And where labels are coloured, what
is written depends on the colours that were drawn. -/
theorem isolated_fails :
    (∃ past₁ past₂ lane₁ lane₂,
      let dispatch₁ := besides "b" 1 { outRoom := some 1 }
      let dispatch₂ := besides "c" 1 { outRoom := some 1 }
      dispatch₁.Serves (dispatch₁.setup none) past₁ toldOfFirst lane₁ ∧
      dispatch₂.Serves (dispatch₂.setup none) past₂ toldOfFirst lane₂ ∧
      (dispatch₁.setup none).Alike (dispatch₂.setup none) toldOfFirst (neighbours "a") ∧
      lane₁.record.report = ⟨"a", .done, some 3, none⟩ ∧
      lane₂.record.report = ⟨"a", .failed, none, some "console closed"⟩ ∧
      linesFrom past₁ 1 .out = [(.out, "a: x\n")] ∧ linesFrom past₂ 1 .out = []) ∧
    (∃ past₁ past₂ lane₁ lane₂ answer,
      let dispatch := breaking (.failure 2 (.reported "reset"))
      dispatch.Serves (dispatch.setup none) past₁ toldOfBreaking lane₁ ∧
      dispatch.Serves (dispatch.setup none) past₂ toldOfBreaking lane₂ ∧
      dispatch.console.IsFree ∧
      (dispatch.setup none).Alike (dispatch.setup none) toldOfBreaking answer ∧
      lane₁.record.report.failure = some "hangup" ∧
      lane₂.record.report.failure = some "reset") ∧
    (∃ past₁ past₂ lane₁ lane₂ answer,
      let dispatch := breaking (.closed 2)
      dispatch.Serves (dispatch.setup none) past₁ toldOfBreaking lane₁ ∧
      dispatch.Serves (dispatch.setup none) past₂ toldOfBreaking lane₂ ∧
      dispatch.console.IsFree ∧
      (dispatch.setup none).Alike (dispatch.setup none) toldOfBreaking answer ∧
      lane₁.record.report = ⟨"a", .failed, none, some "hangup"⟩ ∧
      lane₂.record.report = ⟨"a", .failed, some 3, some "hangup"⟩ ∧
      linesFrom past₁ 0 .out = [] ∧ linesFrom past₂ 0 .out = [(.out, "a: x\n")]) ∧
    ∃ past₁ past₂ lane₁ lane₂,
      let dispatch₁ := tinted ⟨255, 0, 0⟩
      let dispatch₂ := tinted ⟨0, 255, 0⟩
      dispatch₁.Serves (dispatch₁.setup none) past₁ toldOfFirst lane₁ ∧
      dispatch₂.Serves (dispatch₂.setup none) past₂ toldOfFirst lane₂ ∧
      dispatch₁.options = dispatch₂.options ∧ dispatch₁.console.IsFree ∧
      dispatch₂.console.IsFree ∧
      (dispatch₁.setup none).Alike (dispatch₂.setup none) toldOfFirst (neighbours "a") ∧
      lane₁.record.report = lane₂.record.report ∧
      linesFrom past₁ 1 .out = [(.out, "\x1b[38;2;255;0;0ma\x1b[0m: x\n")] ∧
      linesFrom past₂ 1 .out = [(.out, "\x1b[38;2;0;255;0ma\x1b[0m: x\n")] := by
  refine ⟨?_, ?_, ?_, ?_⟩
  · obtain ⟨past₁, lane₁, first, report₁, lines₁⟩ :=
      besides_refused { outRoom := some 1 } (.inr rfl)
    obtain ⟨past₂, lane₂, second, report₂, lines₂⟩ := @Dispatch.Serves.of_shown _ _ _
      (List.replicate 4 (.act .dispatcher) ++ List.replicate 5 (.act (.worker 0)) ++ [.clock 1]
        ++ List.replicate 8 (.act (.worker 0)) ++ List.replicate 4 (.act .dispatcher)
        ++ List.replicate 11 (.act (.worker 1)) ++ List.replicate 4 (.act .dispatcher))
      toldOfFirst ⟨"a", .failed, none, some "console closed"⟩ []
      (besides_starts "c" 1 { outRoom := some 1 }) rfl rfl (by decide) (by decide +kernel)
    exact ⟨past₁, past₂, lane₁, lane₂, first, second, besides_alike .., report₁, report₂, lines₁,
      lines₂⟩
  · let ending : Ending := .failure 2 (.reported "reset")
    obtain ⟨past₁, lane₁, first, report₁, -⟩ :=
      @breaking_serves ending 1 6 ⟨"a", .failed, none, some "hangup"⟩ [] (by decide +kernel)
    obtain ⟨past₂, lane₂, second, report₂, -⟩ :=
      @breaking_serves ending 2 7 ⟨"a", .failed, some 3, some "reset"⟩ [(.out, "a: x\n")]
        (by decide +kernel)
    exact ⟨past₁, past₂, lane₁, lane₂, _, first, second, ⟨rfl, rfl⟩,
      ⟨fun _ => rfl, fun _ => rfl, rfl, rfl, rfl⟩, by rw [report₁], by rw [report₂]⟩
  · obtain ⟨past₁, lane₁, first, report₁, lines₁⟩ :=
      @breaking_serves (.closed 2) 1 6 ⟨"a", .failed, none, some "hangup"⟩ [] (by decide +kernel)
    obtain ⟨past₂, lane₂, second, report₂, lines₂⟩ :=
      @breaking_serves (.closed 2) 2 8 ⟨"a", .failed, some 3, some "hangup"⟩ [(.out, "a: x\n")]
        (by decide +kernel)
    exact ⟨past₁, past₂, lane₁, lane₂, _, first, second, ⟨rfl, rfl⟩,
      ⟨fun _ => rfl, fun _ => rfl, rfl, rfl, rfl⟩, report₁, report₂, lines₁, lines₂⟩
  · obtain ⟨past₁, lane₁, first, report₁, lines₁⟩ :=
      @tinted_serves ⟨255, 0, 0⟩ ⟨"a", .done, some 3, none⟩
        [(.out, "\x1b[38;2;255;0;0ma\x1b[0m: x\n")] (by decide +kernel)
    obtain ⟨past₂, lane₂, second, report₂, lines₂⟩ :=
      @tinted_serves ⟨0, 255, 0⟩ ⟨"a", .done, some 3, none⟩
        [(.out, "\x1b[38;2;0;255;0ma\x1b[0m: x\n")] (by decide +kernel)
    exact ⟨past₁, past₂, lane₁, lane₂, first, second, rfl, ⟨rfl, rfl⟩, ⟨rfl, rfl⟩,
      ⟨fun _ => rfl, fun _ => rfl, rfl, rfl, rfl⟩, report₁.trans report₂.symm, lines₁, lines₂⟩

end Setup

end Fleet
