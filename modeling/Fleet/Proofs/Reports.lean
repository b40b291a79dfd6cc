import Fleet.Proofs.Ending

/-!
# What is told of a host

A record goes through its phases in order, and which phases it has been in is known from the one it
is in, but for whether a host that failed had its session (`Run.trail_mem_paths`). Its worker tells
of a failure in one turn, after the phase says that the host failed and before the worker gives its
slot back, and it never tells of anything else (`Run.told`).

So when the dispatcher has returned without a fault, all workers are over, each target has its
report, and each host that failed has been told of once (`Run.concluded`). What was written stays
(`Run.console`), but a line is lost if the console takes no more of them.
-/

namespace Fleet

namespace Phase

/-- The phases that a host has been in, given the one it is in. -/
def paths : Phase → List (List Phase)
  | new => [[new]]
  | connecting => [[new, connecting]]
  | executing => [[new, connecting, executing]]
  | done => [[new, connecting, executing, done]]
  | failed => [[new, connecting, failed], [new, connecting, executing, failed]]

/-- A legal step leads from a path to a path. -/
theorem append_mem_paths {p q : Phase} {path : List Phase} (legal : p.canAdvance q = true)
    (trodden : path ∈ p.paths) : path ++ [q] ∈ q.paths := by
  cases p <;> cases q <;> simp_all [canAdvance, paths]

theorem ne_of_canAdvance {p q : Phase} (legal : p.canAdvance q = true) : q ≠ p := by
  rintro rfl
  cases q <;> cases legal

end Phase

/-- The phase that a host enters in a moment, if any. -/
def Moment.entered (i : Nat) (moment : Moment) : Option Phase :=
  match moment.before.lanes[i]?, moment.after.lanes[i]? with
  | some before, some after =>
    if after.record.phase = before.record.phase then none else some after.record.phase
  | _, _ => none

namespace Setup

variable {setup : Setup} {s s' s₀ : State} {past : List Moment} {dispatch : Dispatch}

/-- All phases of a host in a run, in order. -/
def trail (i : Nat) (past : List Moment) : List Phase :=
  .new :: past.filterMap (Moment.entered i)

theorem trail_snoc (i : Nat) (past : List Moment) (moment : Moment) :
    trail i (past ++ [moment]) = trail i past ++ (moment.entered i).toList := by
  rw [trail, trail, filterMap_snoc, List.cons_append]

/-- **A host goes through its phases in order.** -/
theorem Run.trail_mem_paths (run : setup.Run s₀ past s) (starts : dispatch.Starts setup s₀)
    {i : Nat} {lane : Lane} (found : s.lanes[i]? = some lane) :
    trail i past ∈ lane.record.phase.paths := by
  induction run generalizing lane with
  | nil =>
    rw [(starts.fresh found).phase]
    exact List.mem_singleton_self _
  | @snoc past t t' e run step ih =>
    obtain ⟨before, there, moves, -⟩ := (step?_step step).moves (run.orderly starts) found
    have trodden := ih there
    have entered : Moment.entered i ⟨t, e, t'⟩
        = if lane.record.phase = before.record.phase then none else some lane.record.phase := by
      simp only [Moment.entered, there, found]
    -- the trail so far leads to the phase before the event, and a legal step leads on from there
    rw [trail_snoc, entered]
    generalize lane.record = record at moves ⊢
    cases moves with
    | stays same =>
      rw [if_pos same, same, Option.toList_none, List.append_nil]
      exact trodden
    | @steps next legal =>
      rw [Record.stamp_phase, if_neg (Phase.ne_of_canAdvance legal)]
      exact Phase.append_mem_paths legal trodden

end Setup

/-- A failure is noted on a record that failed, and on none that is done. -/
theorem Lane.Agrees.failure {lane : Lane} (agrees : lane.Agrees) :
    (lane.record.phase = .failed → lane.record.failure.isSome = true) ∧
      (lane.record.phase = .done → lane.record.failure = none) := by
  unfold Agrees at agrees
  cases here : lane.worker with
  | waiting | admitted | connecting | opening | opened | attaching | sending | relaying | reaping
  | succeeding =>
    rw [here] at agrees
    simp [agrees.1]
  | failing | marking =>
    rw [here] at agrees
    have active := agrees.1
    constructor
    · intro failed
      rw [failed] at active
      cases active
    · intro done
      rw [done] at active
      cases active
  | telling | claiming | signalling | aborting | raising =>
    rw [here] at agrees
    simp [agrees.1, agrees.2]
  | leaving crashed | announcing crashed | gone crashed =>
    rw [here] at agrees
    cases crashed with
    | false => rcases agrees with ⟨phase, noted⟩ | ⟨phase, noted⟩ <;> simp [phase, noted]
    | true => simp [agrees.1]

/-! ## Telling of a failure -/

/-- Whether the worker is about to tell of a failure. -/
def Worker.isTelling : Worker → Bool
  | telling _ => true
  | _ => false

theorem Worker.eq_telling {worker : Worker} (telling : worker.isTelling = true) :
    ∃ e, worker = .telling e := by
  cases worker with
  | telling e => exact ⟨e, rfl⟩
  | _ => cases telling

/-- Whether the worker has told of the failure of its host, given the phase of the host. -/
def Worker.hasTold (phase : Phase) : Worker → Bool
  | claiming | signalling _ | aborting _ | raising => true
  | leaving _ | announcing _ | gone _ => phase == .failed
  | _ => false

namespace Lane

/-- Whether the worker has told of the failure of its host. -/
def hasTold (lane : Lane) : Bool := lane.worker.hasTold lane.record.phase

/-- In the moment the failure of the host is told. -/
def IsToldIn (lane : Lane) (moment : Moment) : Prop :=
  ∃ failure, lane.record.failure = some failure ∧
    moment.after.console
      = moment.before.console.diagnostic moment.before.now (lane.remark failure)

/-- It counts for the host, as long as its name and its failure stay. -/
theorem IsToldIn.congr {lane lane' : Lane} {moment : Moment} (told : lane.IsToldIn moment)
    (host : lane'.record.host = lane.record.host)
    (failure : lane'.record.failure = lane.record.failure) : lane'.IsToldIn moment := by
  unfold IsToldIn remark Record.hostname at *
  rw [host, failure]
  exact told

end Lane

/-- Whether the worker of a host tells of a failure in a moment. -/
def Moment.tells (i : Nat) (moment : Moment) : Bool :=
  moment.event.isTurn i && moment.before.lanes[i]?.any fun lane => lane.worker.isTelling

namespace Setup

variable {setup : Setup} {s s' s₀ : State} {past : List Moment} {dispatch : Dispatch}

/-- A turn in which the worker tells of the failure. -/
theorem Turn.tells {i : Nat} {lane lane' : Lane} {t : State} {e : HostError}
    (turn : setup.Turn s i lane lane' t) (here : lane.worker = .telling e)
    (agrees : lane.Agrees) :
    lane'.hasTold = true ∧ lane'.record = lane.record ∧
      t.console = s.console.diagnostic s.now (lane.remark e.message) := by
  cases turn with
  | tell here' =>
    obtain rfl := Worker.telling.inj (here.symm.trans here')
    refine ⟨?_, rfl, rfl⟩
    unfold Lane.Agrees at agrees
    rw [here] at agrees
    rw [Lane.hasTold, Lane.moveTo_worker, Lane.moveTo_record, agrees.1]
    split <;> rfl
  | _ => simp_all

/-- In any other turn nothing is told. -/
theorem Turn.hasTold {i : Nat} {lane lane' : Lane} {t : State}
    (turn : setup.Turn s i lane lane' t) (agrees : lane.Agrees)
    (quiet : lane.worker.isTelling = false) : lane'.hasTold = lane.hasTold := by
  unfold Lane.Agrees at agrees
  unfold Lane.hasTold
  cases turn with
  | tell here =>
    rw [here] at quiet
    cases quiet
  | @attach since plan here =>
    rw [here]
    show (setup.firstWork since plan).hasTold _ = _
    rcases setup.firstWork_cases since plan with ⟨_, -, same⟩ | ⟨_, _, same⟩ | same <;>
      rw [same] <;> rfl
  | crash here _ _ _ _ | defer here _ | raise here =>
    rw [here] at agrees ⊢
    rw [Lane.moveTo_worker, Lane.moveTo_record, agrees.1]
    rfl
  | succeed here =>
    rw [here] at agrees ⊢
    rw [Lane.moveTo_worker, Lane.moveTo_record,
      lane.advance_phase s.now (by rw [agrees.1]; rfl)]
    rfl
  | start here | skip here _ | ask here _ | giveUp here _ | refused here _ _ _ _
  | opened here _ _ _ _ | connect here | stopSending here _ | send here _ _ | sent here _ _
  | spoilt here _ _ | pause here _ | relay here _ | relayed here _ | cutOff here _ | reap here _ _
  | lose here _ _ | note here | fail here | claim here _ | signal here _ | signalled here _
  | abort here _ | aborted here _ | leave here | announce here =>
    rw [here]
    rfl

/-- The moments in which the worker of a host told of a failure, in order. -/
def tellings (i : Nat) (past : List Moment) : List Moment := past.filter (Moment.tells i)

theorem tellings_snoc (i : Nat) (past : List Moment) (moment : Moment) :
    tellings i (past ++ [moment]) = tellings i past ++ if moment.tells i then [moment] else [] := by
  rw [tellings, List.filter_append, List.filter_cons, List.filter_nil]
  rfl

/-- **A failure is told once**, after it happened, and nothing else is. -/
theorem Run.told (run : setup.Run s₀ past s) (starts : dispatch.Starts setup s₀) {i : Nat}
    {lane : Lane} (found : s.lanes[i]? = some lane) :
    (lane.hasTold = false → tellings i past = []) ∧
      (lane.hasTold = true → ∃ moment, tellings i past = [moment] ∧ lane.IsToldIn moment) := by
  induction run generalizing lane with
  | nil =>
    refine ⟨fun _ => rfl, ?_⟩
    intro told
    rw [Lane.hasTold, (starts.fresh found).worker] at told
    cases told
  | @snoc past t t' e run step ih =>
    obtain ⟨before, old, passage⟩ := (step?_step step).lane_before (run.orderly starts) found
    obtain ⟨none, once⟩ := ih old
    have agrees := run.agrees starts old
    have tells : Moment.tells i ⟨t, e, t'⟩ = (e.isTurn i && before.worker.isTelling) := by
      simp only [Moment.tells, old, Option.any_some]
    -- what was told so far is what the lane says of itself, so the event must keep the two in step
    rw [tellings_snoc, tells]
    cases passage with
    | turn own turn after =>
      subst own after
      simp only [Event.isTurn, beq_self_eq_true, Bool.true_and]
      cases telling : before.worker.isTelling with
      | true =>
        obtain ⟨e, here⟩ := Worker.eq_telling telling
        have silent : before.hasTold = false := by
          rw [Lane.hasTold, here]
          rfl
        have noted : before.record.failure = some e.message := by
          unfold Lane.Agrees at agrees
          rw [here] at agrees
          exact agrees.2
        obtain ⟨told, same, console⟩ := turn.tells here agrees
        rw [if_pos rfl, none silent, told]
        constructor
        · intro untold
          cases untold
        · intro _
          refine ⟨_, rfl, e.message, ?_, ?_⟩
          · rw [same, noted]
          · rw [Lane.remark, same]
            exact console
      | false =>
        rw [if_neg Bool.false_ne_true, List.append_nil, turn.hasTold agrees telling]
        refine ⟨none, ?_⟩
        intro told
        obtain ⟨moment, listed, toldIn⟩ := once told
        refine ⟨moment, listed, toldIn.congr turn.edits.sameHost.host (turn.edits.failed.resolve_right ?_)⟩
        rintro ⟨e, here⟩
        rw [Lane.hasTold, here] at told
        cases told
    | same rests =>
      rw [Event.isTurn_eq_false rests, Bool.false_and, if_neg Bool.false_ne_true, List.append_nil]
      exact ⟨none, once⟩
    | asked rests =>
      rw [Event.isTurn_eq_false rests, Bool.false_and, if_neg Bool.false_ne_true, List.append_nil]
      refine ⟨none, ?_⟩
      intro told
      obtain ⟨moment, listed, toldIn⟩ := once told
      exact ⟨moment, listed, toldIn.congr rfl rfl⟩
    | granted rests idle =>
      rw [Event.isTurn_eq_false rests, Bool.false_and, if_neg Bool.false_ne_true, List.append_nil]
      refine ⟨fun _ => none (by rw [Lane.hasTold, idle]; rfl), ?_⟩
      intro told
      cases told

/-! ## What the console keeps, and who is reported -/

/-- Nothing that was written is taken back. -/
theorem Turn.console {i : Nat} {lane lane' : Lane} {t : State}
    (turn : setup.Turn s i lane lane' t) : s.console.lines <+: t.console.lines := by
  have warned (warning : Option String) :
      s.console.lines <+: (s.warn lane warning).console.lines := by
    cases warning with
    | none => exact List.prefix_rfl
    | some text => exact s.console.diagnostic_grows _ _
  cases turn with
  | send | sent | spoilt => exact warned _
  | relay _ result => exact Relay.poll_grows result
  | tell => exact s.console.diagnostic_grows _ _
  | _ => exact List.prefix_rfl

theorem Step.console {e : Event} (step : setup.Step s e s') :
    s.console.lines <+: s'.console.lines := by
  cases step with
  | work _ turn => exact turn.console
  | head | report | announce => exact s.console.diagnostic_grows _ _
  | _ => exact List.prefix_rfl

theorem Run.console (run : setup.Run s₀ past s) {moment : Moment} (among : moment ∈ past) :
    moment.after.console.lines <+: s.console.lines := by
  induction run with
  | nil => cases among
  | snoc run step ih =>
    rcases List.mem_append.mp among with before | last
    · exact (ih before).trans (step?_step step).console
    · obtain rfl := List.mem_singleton.mp last
      exact List.prefix_rfl

theorem Step.hosts {e : Event} (step : setup.Step s e s') (orderly : s.Orderly) :
    s'.lanes.map (fun lane => lane.record.host) = s.lanes.map fun lane => lane.record.host := by
  apply List.ext_getElem?
  intro i
  rw [List.getElem?_map, List.getElem?_map]
  cases found : s'.lanes[i]? with
  | none =>
    have outside := List.getElem?_eq_none_iff.mp found
    rw [step.length] at outside
    rw [List.getElem?_eq_none outside]
  | some lane' =>
    obtain ⟨lane, there, passage⟩ := step.lane_before orderly found
    rw [there, Option.map_some, Option.map_some]
    cases passage with
    | turn _ turn _ => rw [turn.edits.sameHost.host]
    | same | asked | granted => rfl

/-- The hosts stay those of the targets, in their order. -/
theorem Run.hosts (run : setup.Run s₀ past s) (starts : dispatch.Starts setup s₀) :
    s.lanes.map (fun lane => lane.record.host) = dispatch.targets := by
  rw [← starts.hosts]
  refine (run.preserves (P := fun u => u.Orderly ∧
    u.lanes.map (fun lane => lane.record.host) = s₀.lanes.map fun lane => lane.record.host)
    ⟨starts.orderly, rfl⟩ ?_).2
  rintro u e u' step ⟨orderly, same⟩
  exact ⟨step.orderly orderly, (step.hosts orderly).trans same⟩

/-- A host stays who it is. -/
theorem Run.sameHost (run : setup.Run s₀ past s) (starts : dispatch.Starts setup s₀) {i : Nat}
    {first lane : Lane} (there : s₀.lanes[i]? = some first) (found : s.lanes[i]? = some lane) :
    first.record.IsSameHost lane.record := by
  induction run generalizing lane with
  | nil =>
    obtain rfl := Option.some.inj (there.symm.trans found)
    exact .refl _
  | snoc run step ih =>
    obtain ⟨before, old, passage⟩ := (step?_step step).lane_before (run.orderly starts) found
    have held := ih old
    cases passage with
    | turn _ turn _ => exact held.trans turn.edits.sameHost
    | same | asked | granted => exact held.trans ⟨rfl, rfl, rfl, rfl, rfl, rfl⟩

/-- Hosts keep their places, and are labelled as the settings say. -/
theorem Run.place (run : setup.Run s₀ past s) (starts : dispatch.Starts setup s₀) {i : Nat}
    {lane : Lane} (found : s.lanes[i]? = some lane) :
    lane.record.nodeIndex = i ∧ lane.record.displayLabels = dispatch.options.displayLabels := by
  have inside := (List.getElem?_eq_some_iff.mp found).1
  rw [run.length] at inside
  have there := List.getElem?_eq_getElem inside
  obtain ⟨place, labels⟩ := starts.place there
  have same := run.sameHost starts there found
  exact ⟨same.nodeIndex.trans place, same.displayLabels.trans labels⟩

/-- Each target has its report. -/
theorem Run.hostnames (run : setup.Run s₀ past s) (starts : dispatch.Starts setup s₀) :
    (s.records.map Record.report).map HostReport.hostname
      = dispatch.targets.map Host.hostname := by
  rw [← run.hosts starts, State.records, List.map_map, List.map_map, List.map_map]
  rfl

/-- A host is done without a failure, or has failed with one that was told once, when its worker is
over and has not crashed. -/
theorem Run.concluded (run : setup.Run s₀ past s) (starts : dispatch.Starts setup s₀) {i : Nat}
    {lane : Lane} (found : s.lanes[i]? = some lane) (ended : lane.worker = .gone false) :
    (lane.record.phase = .done ∧ lane.record.failure = none ∧ tellings i past = []) ∨
      ∃ failure moment, lane.record.phase = .failed ∧ lane.record.failure = some failure ∧
        tellings i past = [moment] ∧ moment.after.console
          = moment.before.console.diagnostic moment.before.now (lane.remark failure) := by
  have agrees := run.agrees starts found
  obtain ⟨none, once⟩ := run.told starts found
  unfold Lane.Agrees at agrees
  rw [Lane.hasTold, ended] at none once
  rw [ended] at agrees
  rcases agrees with ⟨phase, blank⟩ | ⟨phase, noted⟩
  · exact .inl ⟨phase, blank, none (by rw [phase]; rfl)⟩
  · obtain ⟨moment, listed, failure, same, console⟩ := once (by rw [phase]; rfl)
    exact .inr ⟨failure, moment, phase, same, listed, console⟩

/-- **When the dispatcher has returned without a fault**, each target has its report, in order: of a
host that is done without a failure, or has failed with one. -/
theorem Run.reported (run : setup.Run s₀ past s) (starts : dispatch.Starts setup s₀)
    (returned : s.dispatcher = .returned (.ok ())) :
    (s.records.map Record.report).map HostReport.hostname = dispatch.targets.map Host.hostname ∧
      ∀ report ∈ s.records.map Record.report, report.phase = .done ∧ report.failure = none ∨
        report.phase = .failed ∧ report.failure.isSome = true := by
  refine ⟨run.hostnames starts, fun report among => ?_⟩
  have sound := run.settled starts
  rw [returned] at sound
  obtain ⟨record, listed, rfl⟩ := List.mem_map.mp among
  obtain ⟨lane, there, rfl⟩ := List.mem_map.mp listed
  obtain ⟨i, found⟩ := List.mem_iff_getElem?.mp there
  rcases run.concluded starts found (sound i lane found) with
    ⟨phase, blank, -⟩ | ⟨failure, -, phase, noted, -⟩
  · exact .inl ⟨phase, blank⟩
  · exact .inr ⟨phase, Option.isSome_iff_exists.mpr ⟨failure, noted⟩⟩

/-- **What becomes of hosts and what is told of them**, in every run.

In every state the phases that a host has been in lead in order to the one it is in, a failure is
noted if it has failed, and none if it is done. When the dispatcher has returned without a fault,
each host is done and nothing was told of it, or it has failed and its worker told of it in one
moment, with a line that stands on the console unless the console took no more. And what the dispatch
reports if it completes in this state is one report for each target, in order, of a host that is
done without a failure or has failed with one; so is what it reports of the run that is followed. -/
theorem Run.lifecycle_reported (starts : dispatch.Starts setup s₀) (run : setup.Run s₀ past s) :
    (∀ (i : Nat) (lane : Lane), s.lanes[i]? = some lane →
      trail i past ∈ lane.record.phase.paths ∧
      (lane.record.phase = .failed → lane.record.failure.isSome = true) ∧
      (lane.record.phase = .done → lane.record.failure = none)) ∧
    (s.dispatcher = .returned (.ok ()) → ∀ (i : Nat) (lane : Lane), s.lanes[i]? = some lane →
      (lane.record.phase = .done ∧ lane.record.failure = none ∧ tellings i past = []) ∨
      ∃ failure moment, lane.record.phase = .failed ∧ lane.record.failure = some failure ∧
        tellings i past = [moment] ∧
        moment.after.console = moment.before.console.diagnostic moment.before.now
          (lane.record.hostname ++ ": " ++ failure) ∧
        (moment.before.console.room .err ≠ some 0 →
          ⟨moment.before.now, .err, lane.record.hostname ++ ": " ++ failure ++ "\n"⟩
            ∈ s.console.lines)) ∧
    (∀ (course : Course) outcome, course.state = s →
      (dispatch.conclude setup course).conclusion = .completed outcome →
      outcome.hosts.map HostReport.hostname = dispatch.targets.map Host.hostname ∧
      ∀ report ∈ outcome.hosts, report.phase = .done ∧ report.failure = none ∨
        report.phase = .failed ∧ report.failure.isSome = true) ∧
    ∀ outcome, dispatch.run.conclusion = .completed outcome →
      outcome.hosts.map HostReport.hostname = dispatch.targets.map Host.hostname ∧
      ∀ report ∈ outcome.hosts, report.phase = .done ∧ report.failure = none ∨
        report.phase = .failed ∧ report.failure.isSome = true := by
  refine ⟨?_, ?_, ?_, ?_⟩
  · intro i lane found
    exact ⟨run.trail_mem_paths starts found, (run.agrees starts found).failure⟩
  · intro returned i lane found
    have sound := run.settled starts
    rw [returned] at sound
    have gone : lane.worker = .gone false := sound i lane found
    refine (run.concluded starts found gone).imp_right ?_
    rintro ⟨failure, moment, phase, same, listed, console⟩
    refine ⟨failure, moment, phase, same, listed, console, ?_⟩
    intro room
    have told : moment ∈ tellings i past := by
      rw [listed]
      exact List.mem_singleton_self moment
    have among : moment ∈ past := (List.mem_filter.mp told).1
    -- the line was written in that moment, and the console takes nothing back
    apply (run.console among).subset
    rw [console, Console.diagnostic_lines room]
    exact List.mem_append_right _ (List.mem_singleton_self _)
  · rintro course outcome rfl completed
    obtain ⟨returned, rfl⟩ := Dispatch.conclude_completed completed
    exact run.reported starts returned
  · intro outcome completed
    obtain ⟨setup', first, past', last, starts', run', returned, rfl⟩ :=
      Dispatch.run_completed completed
    exact run'.reported starts' returned

/-- One host that gets no session. -/
def noRoute (console : Console) : Dispatch :=
  { Dispatch.ofScript (fun _ => ⟨some 0, .refused (.connect "no route")⟩) ["a"]
      { localUser := "u" } with console }

/-- Its worker takes eight turns, and then the dispatcher returns. -/
private theorem noRoute_ends (console : Console) :
    ∃ setup s₀ past s lane, (noRoute console).Starts setup s₀ ∧ setup.Run s₀ past s ∧
      s.dispatcher = .returned (.ok ()) ∧ s.lanes[0]? = some lane ∧
      lane.record.hostname = "a" ∧ lane.record.phase = .failed ∧
      lane.record.failure = some "no route" ∧
      s.console = console.diagnostic 0 "a: no route" := by
  have starts := @Dispatch.Starts.intro (noRoute console) _ (Dispatch.ofScript.prepared
    (fun _ => ⟨some 0, .refused (.connect "no route")⟩) { localUser := "u" } "a" [])
  obtain ⟨past, run, -⟩ := starts.run.further [.act .dispatcher, .act .dispatcher, .act (.worker 0),
    .act (.worker 0), .act (.worker 0), .act (.worker 0), .act (.worker 0), .act (.worker 0),
    .act (.worker 0), .act (.worker 0), .act .dispatcher, .act .dispatcher, .act .dispatcher,
    .act .dispatcher] rfl
  exact ⟨_, _, past, _, _, starts, run, rfl, rfl, rfl, rfl, rfl, rfl⟩

/-- On a console that takes lines, the failure is told. -/
theorem Run.lifecycle_reported_noRoute :
    ∃ setup s₀ past s lane, (noRoute {}).Starts setup s₀ ∧ setup.Run s₀ past s ∧
      s.lanes[0]? = some lane ∧ lane.record.phase = .failed ∧
      trail 0 past ∈ [[.new, .connecting, .failed], [.new, .connecting, .executing, .failed]] ∧
      ∃ moment, tellings 0 past = [moment] := by
  obtain ⟨setup, s₀, past, s, lane, starts, run, returned, found, -, phase, -, -⟩ := noRoute_ends {}
  obtain ⟨life, told, -⟩ := lifecycle_reported starts run
  have trodden := (life 0 lane found).1
  rw [phase] at trodden
  refine ⟨setup, s₀, past, s, lane, starts, run, found, phase, trodden, ?_⟩
  rcases told returned 0 lane found with ⟨done, -, -⟩ | ⟨_, moment, -, -, listed, -⟩
  · rw [phase] at done
    cases done
  · exact ⟨moment, listed⟩

/-- **The line of a failure is lost on a console that takes no more.** The worker told of the
failure as it always does, and there is nothing on the console. -/
theorem lifecycle_reported_fails_on_full_console :
    ¬ ∀ (dispatch : Dispatch) (setup : Setup) (s₀ s : State) (past : List Moment) (i : Nat)
      (lane : Lane), dispatch.Starts setup s₀ → setup.Run s₀ past s →
      s.dispatcher = .returned (.ok ()) → s.lanes[i]? = some lane →
      lane.record.phase = .failed → ∃ failure, lane.record.failure = some failure ∧
        ∃ line ∈ s.console.lines, line.stream = .err ∧
          line.text = lane.record.hostname ++ ": " ++ failure ++ "\n" := by
  intro stands
  obtain ⟨setup, s₀, past, s, lane, starts, run, returned, found, -, phase, -, console⟩ :=
    noRoute_ends { errRoom := some 0 }
  obtain ⟨failure, -, line, among, -⟩ :=
    stands _ setup s₀ s past 0 lane starts run returned found phase
  have empty : s.console.lines = [] := by rw [console]; rfl
  rw [empty] at among
  cases among

end Setup

end Fleet
