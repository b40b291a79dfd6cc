import Fleet.Proofs.Fate
import Fleet.Proofs.Foretold

/-!
# The results of a session

A worker waits for four results of its session, one after the other: that it opens, that the files
are sent where there are some, that the output is relayed, and how it ends. The first error ends
it. `Setup.findings` reads the results off a history, and `Worker.Tallies` is the table of what
they are, and of the exit code that is noted, when the worker has come so far.

**The law** (`Run.tallies`, `Run.settles`): a host is done or has failed as its results say, and it
is so two turns of its worker after the last one.
-/

namespace Fleet

/-! ## What a worker waits for -/

/-- A result that a worker has waited for. An abort makes an error of the one that it waits for. -/
inductive Finding where
  /-- Of opening the session. -/
  | opened (result : Except HostError SessionPlan)
  /-- Of sending the files. -/
  | sent (result : Except HostError Unit)
  /-- Of relaying the output. -/
  | relayed (result : Except HostError Unit)
  /-- Of waiting for the end of the session. -/
  | reaped (result : Except HostError Termination)
  deriving DecidableEq

/-- Whether no other result comes after this one. -/
def Finding.isLast : Finding → Bool
  | opened (.error _) | sent (.error _) | relayed (.error _) | reaped _ => true
  | _ => false

/-- The result that takes a worker from one place to another. -/
def Worker.finds : Worker → Worker → Option Finding
  | opening .., opened _ plan => some (.opened (.ok plan))
  | connecting, failing e | opening .., failing e => some (.opened (.error e))
  | sending .., relaying .. => some (.sent (.ok ()))
  | attaching .., failing e | sending .., failing e => some (.sent (.error e))
  | relaying .., reaping .. => some (.relayed (.ok ()))
  | relaying .., failing e => some (.relayed (.error e))
  | reaping _ outcome, _ => some (.reaped outcome)
  | _, _ => none

/-- The result that the worker of a host gets in a moment. -/
def Moment.finds (i : Nat) (moment : Moment) : Option Finding :=
  if moment.event.isTurn i then
    moment.before.lanes[i]?.bind fun lane =>
      moment.after.lanes[i]?.bind fun lane' => lane.worker.finds lane'.worker
  else none

namespace Setup

/-- The results that the worker of a host got, in order. -/
def findings (i : Nat) (past : List Moment) : List Finding := past.filterMap (Moment.finds i)

theorem findings_snoc (i : Nat) (past : List Moment) (moment : Moment) :
    findings i (past ++ [moment]) = findings i past ++ (moment.finds i).toList := by
  rw [findings, findings, filterMap_snoc]

end Setup

/-! ## Statuses in the output -/

namespace Setup

/-- The exit status that a piece of the first stream carries, where statuses are wanted. -/
def reads (setup : Setup) (piece : Bytes) : Option Int32 :=
  if setup.options.maxRemoteStatus && setup.shipment.isNone then
    (ExitStatus.extract (Utf8.lossy piece)).2
  else none

/-- The exit statuses that the output of a session carries, in order. -/
def statuses (setup : Setup) (plan : SessionPlan) : List Int32 :=
  (pieces plan.stdout.bytes).filterMap setup.reads

/-- The exit code that is noted when some pieces are relayed. -/
def codeOf (setup : Setup) (taken : List Bytes) : Option Int32 :=
  (taken.filterMap setup.reads).getLast?.bind ExitStatus.known

variable {setup : Setup}

theorem readOut_status (setup : Setup) (lane : Lane) (piece : Bytes) :
    ((setup.routing lane).readOut piece).2 = setup.reads piece := by
  have wanted : (setup.routing lane).extractStatus
      = (setup.options.maxRemoteStatus && setup.shipment.isNone) := rfl
  rw [Routing.readOut, reads, wanted]
  split <;> rfl

/-- **The last status counts.** -/
theorem foldl_noted_codeOf (lane : Lane) (taken more : List Bytes) :
    more.foldl (setup.routing lane).noted (setup.codeOf taken) = setup.codeOf (taken ++ more) := by
  induction more generalizing taken with
  | nil => rw [List.foldl_nil, List.append_nil]
  | cons piece more ih =>
    have first : (setup.routing lane).noted (setup.codeOf taken) piece
        = setup.codeOf (taken ++ [piece]) := by
      rw [Routing.noted, readOut_status, codeOf, codeOf, filterMap_snoc]
      cases setup.reads piece with
      | none => rw [Option.toList_none, List.append_nil]
      | some status =>
        rw [Option.toList_some, List.getLast?_concat]
        rfl
    rw [List.foldl_cons, first, ih, List.append_assoc]
    rfl

/-- Where files are sent, the output carries no statuses. -/
theorem filterMap_reads_of_shipment (files : setup.shipment.isSome = true) (taken : List Bytes) :
    taken.filterMap setup.reads = [] := by
  refine List.filterMap_eq_nil_iff.mpr fun piece _ => ?_
  unfold reads
  rw [← Option.not_isSome, files, Bool.not_true, Bool.and_false]
  rfl

end Setup

/-- An attempt that relays something notes what the piece that it takes carries. -/
theorem Relay.poll_takes {routing : Routing} {now : Time} {record record' : Record}
    {console console' : Console} {relay next : Relay}
    (result : poll routing now record console relay = .advanced record' console' next) :
    ∃ taken, Voice.ahead relay.out = taken ++ Voice.ahead next.out ∧
      record' = taken.foldl (routing.note .out) record := by
  have calm := Bool.eq_false_iff.mp (poll_advanced result).1
  have unended : relay.isOpen = true := by
    refine Bool.not_eq_false _ |>.mp fun ended => ?_
    cases (poll_eq_finished_iff.mpr ended).symm.trans result
  rw [poll_of_isOpen routing record unended calm] at result
  have hears := listen_hears now relay.out
  generalize listen now relay.out = heard at hears result
  cases hears with
  | @line bytes rest goes =>
    refine ⟨[bytes], ?_⟩
    simp only [emitOut] at result
    split at result
    · cases result
      exact ⟨goes.ahead, rfl⟩
    · cases result
  | ended goes =>
    cases result
    exact ⟨[], goes.ahead, rfl⟩
  | failed => cases result
  | @silent rest goes =>
    refine ⟨[], ?_⟩
    simp only at result
    split at result
    · unfold emitErr at result
      split at result
      · cases result
        exact ⟨goes.ahead, rfl⟩
      · cases result
    · cases result
      exact ⟨goes.ahead, rfl⟩
    · cases result
    · cases result

/-! ## How far a worker has come -/

namespace Setup

/-- The results of a session whose output can be relayed. -/
def arrived (setup : Setup) (plan : SessionPlan) : List Finding :=
  .opened (.ok plan) :: if setup.shipment.isSome then [.sent (.ok ())] else []

theorem mem_arrived {setup : Setup} {plan : SessionPlan} {finding : Finding} :
    finding ∈ setup.arrived plan ↔
      finding = .opened (.ok plan) ∨ setup.shipment.isSome = true ∧ finding = .sent (.ok ()) := by
  unfold arrived
  by_cases files : setup.shipment.isSome = true
  · simp [files]
  · simp [files]

/-- The exit code that is noted when all output of a session is relayed. -/
def noted (setup : Setup) (plan : SessionPlan) : Option Int32 :=
  setup.codeOf (pieces plan.stdout.bytes)

/-- The results of a host that is done with this exit code. -/
inductive Succeeds (setup : Setup) (code : Option Int32) : List Finding → Prop where
  | intro {plan : SessionPlan} {termination : Termination}
      (ending : plan.reap.outcome = .ok termination)
      (judged : termination.judge (setup.noted plan) = .ok code) :
      Succeeds setup code (setup.arrived plan ++ [.relayed (.ok ()), .reaped (.ok termination)])

/-- The results of a host that fails. -/
inductive Fails (setup : Setup) : List Finding → Prop where
  | opening (e : HostError) : Fails setup [.opened (.error e)]
  | sending (plan : SessionPlan) (e : HostError) (files : setup.shipment.isSome = true) :
      Fails setup [.opened (.ok plan), .sent (.error e)]
  | relaying (plan : SessionPlan) (e : HostError) :
      Fails setup (setup.arrived plan ++ [.relayed (.error e)])
  | ending {plan : SessionPlan} {e : HostError}
      (judged : (plan.reap.outcome.bind fun termination => termination.judge (setup.noted plan))
        = .error e) :
      Fails setup (setup.arrived plan ++ [.relayed (.ok ()), .reaped plan.reap.outcome])

end Setup

/-- The exit code of a host and the results so far, when its worker has come so far. -/
def Worker.Tallies (setup : Setup) (record : Record) (results : List Finding) : Worker → Prop
  | waiting | admitted | connecting | opening .. => record.exitCode = none ∧ results = []
  | opened _ plan | attaching _ plan =>
    record.exitCode = none ∧ results = [.opened (.ok plan)]
  | sending _ _ _ ending => ∃ plan, ending = plan.reap ∧ setup.shipment.isSome = true ∧
      record.exitCode = none ∧ results = [.opened (.ok plan)]
  | relaying relay ending => ∃ plan taken, ending = plan.reap ∧ results = setup.arrived plan ∧
      record.exitCode = setup.codeOf taken ∧
      (setup.shipment = none → pieces plan.stdout.bytes = taken ++ Voice.ahead relay.out)
  | reaping _ outcome => ∃ plan, outcome = plan.reap.outcome ∧
      results = setup.arrived plan ++ [.relayed (.ok ())] ∧ record.exitCode = setup.noted plan
  | succeeding => setup.Succeeds record.exitCode results
  | failing _ | marking _ | telling _ | claiming | signalling _ | aborting _ | raising =>
    setup.Fails results
  | leaving false | announcing false | gone false =>
    record.phase = .done ∧ setup.Succeeds record.exitCode results ∨
      record.phase = .failed ∧ setup.Fails results
  | leaving true | announcing true | gone true => results = []

/-- The exit code of a host and its results agree with its worker. -/
def Lane.Tallies (lane : Lane) (setup : Setup) (results : List Finding) : Prop :=
  lane.worker.Tallies setup lane.record results

namespace Setup

variable {setup : Setup} {s s' s₀ : State} {past : List Moment} {dispatch : Dispatch}
  {results : List Finding}

/-- Taking up a session. -/
private theorem tallies_attach {lane : Lane} (since : Time) {plan : SessionPlan}
    (code : lane.record.exitCode = none) :
    (lane.attach plan (setup.firstWork since plan)).Tallies setup
      ([.opened (.ok plan)]
        ++ ((Worker.attaching since plan).finds (setup.firstWork since plan)).toList) := by
  have kept : (lane.attach plan (setup.firstWork since plan)).record.exitCode = none := by
    unfold Lane.attach
    cases plan.backchannel <;> exact code
  unfold Lane.Tallies
  generalize (lane.attach plan (setup.firstWork since plan)).record = record at kept
  show (setup.firstWork since plan).Tallies setup record _
  unfold firstWork
  cases files : setup.shipment with
  | none =>
    refine ⟨plan, [], rfl, ?_, kept, fun _ => ?_⟩
    · simp only [arrived, files]
      rfl
    · show _ = pieces (plan.stdout.start since).bytes
      rw [Source.start_bytes]
  | some shipment =>
    have some : setup.shipment.isSome = true := by rw [files]; rfl
    cases plan.stdin with
    | none => exact .sending plan _ some
    | some room => exact ⟨plan, rfl, some, kept, rfl⟩

/-- **Worker, exit code and results stay in agreement in every turn.** -/
theorem Turn.tallies {i : Nat} {lane lane' : Lane} {t : State}
    (turn : setup.Turn s i lane lane' t) (agrees : lane.Agrees)
    (tallies : lane.Tallies setup results) :
    lane'.Tallies setup (results ++ (lane.worker.finds lane'.worker).toList) := by
  have advanced (next : Phase) :
      (lane.record.advance s.now next).2.exitCode = lane.record.exitCode :=
    lane.record.advance_exitCode s.now next
  have risen {code : Option Int32} (succeeds : setup.Succeeds code results) :
      setup.Succeeds code (results ++ []) := (List.append_nil results).symm ▸ succeeds
  have fallen (fails : setup.Fails results) : setup.Fails (results ++ []) :=
    (List.append_nil results).symm ▸ fails
  unfold Lane.Tallies at *
  unfold Lane.Agrees at agrees
  cases turn with
  | start here | connect here =>
    rw [here] at tallies ⊢
    exact ⟨(advanced _).trans tallies.1, by rw [tallies.2]; rfl⟩
  | ask here =>
    rw [here] at tallies ⊢
    exact ⟨tallies.1, by rw [tallies.2]; rfl⟩
  | skip here | giveUp here | refused here =>
    rw [here] at tallies ⊢
    rw [tallies.2]
    exact .opening _
  | crash here =>
    rw [here] at tallies ⊢
    rw [tallies.2]
    rfl
  | opened here =>
    rw [here] at tallies ⊢
    exact ⟨tallies.1, by rw [tallies.2]; rfl⟩
  | attach here =>
    rw [here] at tallies ⊢
    rw [tallies.2]
    exact tallies_attach _ tallies.1
  | stopSending here | spoilt here =>
    rw [here] at tallies ⊢
    obtain ⟨plan, -, files, -, rfl⟩ := tallies
    exact .sending plan _ files
  | send here | pause here =>
    rw [here] at tallies ⊢
    obtain ⟨plan, same, files, code, rfl⟩ := tallies
    exact ⟨plan, same, files, code, rfl⟩
  | sent here =>
    rw [here] at tallies ⊢
    obtain ⟨plan, same, files, code, rfl⟩ := tallies
    refine ⟨plan, [], same, ?_, code, fun none => ?_⟩
    · rw [arrived, if_pos files]
      rfl
    · rw [none] at files
      cases files
  | relay here result =>
    rw [here] at tallies agrees ⊢
    obtain ⟨plan, taken, same, rfl, code, ahead⟩ := tallies
    obtain ⟨more, split, rfl⟩ := Relay.poll_takes result
    have running : lane.record.phase.isTerminal = false := by rw [agrees.1]; rfl
    rw [Routing.foldl_note_out _ more running]
    refine ⟨plan, taken ++ more, same, List.append_nil _, ?_, fun none => ?_⟩
    · rw [code]
      exact foldl_noted_codeOf lane taken more
    · rw [ahead none, split, List.append_assoc]
  | relayed here result =>
    rw [here] at tallies ⊢
    obtain ⟨plan, taken, rfl, rfl, code, ahead⟩ := tallies
    refine ⟨plan, rfl, rfl, code.trans ?_⟩
    cases files : setup.shipment with
    | none =>
      have nothing : Voice.ahead _ = [] := Relay.ahead_of_finished result .out
      rw [noted, ahead files]
      exact congrArg setup.codeOf ((List.append_nil taken).symm.trans (by rw [← nothing]; rfl))
    | some shipment =>
      -- what was taken is not known here, but no piece of it carries a status
      have some : setup.shipment.isSome = true := by rw [files]; rfl
      rw [noted, codeOf, codeOf, filterMap_reads_of_shipment some, filterMap_reads_of_shipment some]
  | cutOff here =>
    rw [here] at tallies ⊢
    obtain ⟨plan, _, -, rfl, -⟩ := tallies
    exact .relaying plan _
  | @reap _ _ record here _ result =>
    rw [here] at tallies agrees ⊢
    have running : lane.record.phase.isTerminal = false := by rw [agrees.1]; rfl
    obtain ⟨plan, same, rfl, code⟩ := tallies
    obtain ⟨termination, rfl, good⟩ := andThen_eq_ok.mp result
    rw [termination.verdict_eq running, code] at good
    rw [List.append_assoc]
    refine .intro same.symm ?_
    cases judged : termination.judge (setup.noted plan) with
    | error e =>
      rw [judged] at good
      cases good
    | ok noted =>
      rw [judged] at good
      rw [← Except.ok.inj good]
  | @lose _ outcome e here _ result =>
    rw [here] at tallies agrees ⊢
    have running : lane.record.phase.isTerminal = false := by rw [agrees.1]; rfl
    obtain ⟨plan, rfl, rfl, code⟩ := tallies
    rw [List.append_assoc]
    refine @Fails.ending setup plan e ?_
    cases ended : plan.reap.outcome with
    | error e' =>
      rw [ended] at result
      exact congrArg Except.error (Except.error.inj result)
    | ok termination =>
      rw [ended] at result
      simp only [Except.bind, termination.verdict_eq running, code] at result ⊢
      cases judged : termination.judge (setup.noted plan) with
      | error e' =>
        rw [judged] at result
        exact congrArg Except.error (Except.error.inj result)
      | ok noted =>
        rw [judged] at result
        cases result
  | succeed here =>
    rw [here] at tallies agrees ⊢
    refine .inl ⟨lane.advance_phase s.now (by rw [agrees.1]; rfl), ?_⟩
    show setup.Succeeds (lane.record.advance s.now .done).2.exitCode (results ++ [])
    rw [advanced]
    exact risen tallies
  | note here | fail here | claim here | signal here | signalled here | aborted here =>
    rw [here] at tallies ⊢
    exact fallen tallies
  | tell here =>
    rw [here] at tallies agrees ⊢
    rw [Lane.moveTo_worker]
    split
    · exact fallen tallies
    · exact .inr ⟨agrees.1, fallen tallies⟩
  | defer here | raise here =>
    rw [here] at tallies agrees ⊢
    exact .inr ⟨agrees.1, fallen tallies⟩
  | abort here =>
    rw [here] at tallies ⊢
    rw [Lane.moveTo_worker]
    exact fallen tallies
  | @leave crashed here | @announce crashed here =>
    rw [here] at tallies ⊢
    cases crashed with
    | false =>
      rcases tallies with ⟨phase, done⟩ | ⟨phase, failed⟩
      · exact .inl ⟨phase, risen done⟩
      · exact .inr ⟨phase, fallen failed⟩
    | true => exact (List.append_nil results).trans tallies

/-- **Worker, exit code and results agree in every state that a dispatch can come to.** -/
theorem Run.tallies (run : setup.Run s₀ past s) (starts : dispatch.Starts setup s₀) {i : Nat}
    {lane : Lane} (found : s.lanes[i]? = some lane) : lane.Tallies setup (findings i past) := by
  induction run generalizing lane with
  | nil =>
    have fresh := starts.fresh found
    unfold Lane.Tallies
    rw [fresh.worker]
    exact ⟨fresh.exitCode, rfl⟩
  | @snoc past t t' e run step ih =>
    obtain ⟨before, there, passage⟩ := (step?_step step).lane_before (run.orderly starts) found
    have tallies := ih there
    have unchanged (rests : e ≠ .act (.worker i)) :
        findings i (past ++ [⟨t, e, t'⟩]) = findings i past := by
      rw [findings_snoc, Moment.finds, Event.isTurn_eq_false rests, if_neg Bool.false_ne_true,
        Option.toList_none, List.append_nil]
    cases passage with
    | turn own turn after =>
      subst own
      have got : Moment.finds i ⟨t, .act (.worker i), t'⟩ = before.worker.finds lane.worker := by
        simp only [Moment.finds, Event.isTurn, beq_self_eq_true, if_true, there, found,
          Option.bind_some]
      rw [findings_snoc, got]
      exact turn.tallies (run.agrees starts there) tallies
    | same rests =>
      rw [unchanged rests]
      exact tallies
    | asked rests =>
      rw [unchanged rests]
      unfold Lane.Tallies at *
      cases here : before.worker <;> rw [Lane.abort_worker, here] <;> rw [here] at tallies <;>
        exact tallies
    | granted rests idle =>
      rw [unchanged rests]
      unfold Lane.Tallies at *
      rw [idle] at tallies
      exact tallies

end Setup

namespace Lane.Tallies

variable {setup : Setup} {lane : Lane} {results : List Finding}

theorem succeeds (tallies : lane.Tallies setup results) (agrees : lane.Agrees)
    (done : lane.record.phase = .done) : setup.Succeeds lane.record.exitCode results := by
  unfold Lane.Tallies at tallies
  unfold Lane.Agrees at agrees
  cases here : lane.worker with
  | leaving crashed | announcing crashed | gone crashed =>
    rw [here] at tallies agrees
    cases crashed with
    | false =>
      refine (tallies.resolve_right ?_).2
      rintro ⟨failed, -⟩
      cases done.symm.trans failed
    | true => cases done.symm.trans agrees.1
  | failing | marking =>
    rw [here] at agrees
    have active := agrees.1
    rw [done] at active
    cases active
  | _ =>
    rw [here] at agrees
    cases done.symm.trans agrees.1

theorem fails (tallies : lane.Tallies setup results) (agrees : lane.Agrees)
    (failed : lane.record.phase = .failed) : setup.Fails results := by
  unfold Lane.Tallies at tallies
  unfold Lane.Agrees at agrees
  cases here : lane.worker with
  | leaving crashed | announcing crashed | gone crashed =>
    rw [here] at tallies agrees
    cases crashed with
    | false =>
      refine (tallies.resolve_left ?_).2
      rintro ⟨done, -⟩
      cases failed.symm.trans done
    | true => cases failed.symm.trans agrees.1
  | failing | marking | telling | claiming | signalling | aborting | raising =>
    rw [here] at tallies
    exact tallies
  | _ =>
    rw [here] at agrees
    cases failed.symm.trans agrees.1

end Lane.Tallies

/-! ## What follows on the last result -/

namespace Worker

/-- Whether the worker knows what comes of its host and has yet to note it. -/
def settles : Worker → Bool
  | succeeding | failing _ | marking _ => true
  | _ => false

/-- How many turns it takes to note it. -/
def notes : Worker → Nat
  | failing _ => 2
  | _ => 1

end Worker

/-- Relaying can begin only before the last result. -/
theorem Setup.isLast_of_mem_arrived {setup : Setup} {plan : SessionPlan} {finding : Finding}
    (among : finding ∈ setup.arrived plan) : finding.isLast = false := by
  rcases mem_arrived.mp among with rfl | ⟨-, rfl⟩ <;> rfl

/-- With the last result a worker knows what comes of its host. -/
theorem Lane.Tallies.settles {setup : Setup} {lane : Lane} {results : List Finding}
    {finding : Finding} (tallies : lane.Tallies setup results) (agrees : lane.Agrees)
    (among : finding ∈ results) (last : finding.isLast = true) :
    lane.record.phase.isTerminal = true ∨ lane.worker.settles = true := by
  unfold Lane.Tallies at tallies
  unfold Lane.Agrees at agrees
  have early (same : results = []) : False := by
    rw [same] at among
    cases among
  have given (plan : SessionPlan) (same : results = [.opened (.ok plan)]) : False := by
    rw [same, List.mem_singleton] at among
    rw [among] at last
    cases last
  have relays (plan : SessionPlan) (among : finding ∈ setup.arrived plan) : False := by
    cases (Setup.isLast_of_mem_arrived among).symm.trans last
  cases here : lane.worker with
  | waiting | admitted | connecting | opening =>
    rw [here] at tallies
    exact (early tallies.2).elim
  | opened | attaching =>
    rw [here] at tallies
    exact (given _ tallies.2).elim
  | sending =>
    rw [here] at tallies
    obtain ⟨plan, -, -, -, same⟩ := tallies
    exact (given plan same).elim
  | relaying =>
    rw [here] at tallies
    obtain ⟨plan, _, -, same, -⟩ := tallies
    exact (relays plan (same ▸ among)).elim
  | reaping =>
    rw [here] at tallies
    obtain ⟨plan, -, same, -⟩ := tallies
    rcases List.mem_append.mp (same ▸ among) with arrived | relayed
    · exact (relays plan arrived).elim
    · obtain rfl := List.mem_singleton.mp relayed
      cases last
  | succeeding | failing | marking => exact .inr rfl
  | telling | claiming | signalling | aborting | raising =>
    rw [here] at agrees
    exact .inl (by rw [agrees.1]; rfl)
  | leaving crashed | announcing crashed | gone crashed =>
    rw [here] at agrees tallies
    cases crashed with
    | false => rcases agrees with ⟨phase, -⟩ | ⟨phase, -⟩ <;> exact .inl (by rw [phase]; rfl)
    | true => exact (early tallies).elim

namespace Setup

variable {setup : Setup} {s s' s₀ : State} {past later : List Moment} {dispatch : Dispatch}

/-- A turn of a worker that knows what comes of its host notes it, or brings it closer. -/
theorem Turn.settles {i : Nat} {lane lane' : Lane} {t : State} (turn : setup.Turn s i lane lane' t)
    (agrees : lane.Agrees) (settles : lane.worker.settles = true) :
    lane'.record.phase.isTerminal = true ∨
      lane'.worker.settles = true ∧ lane'.worker.notes < lane.worker.notes := by
  unfold Lane.Agrees at agrees
  cases turn with
  | note here =>
    rw [here]
    exact .inr ⟨rfl, Nat.lt_succ_self 1⟩
  | fail here =>
    rw [here] at agrees
    have phase : (lane.advance s.now .failed).record.phase = .failed :=
      lane.advance_phase s.now (Phase.canAdvance_failed agrees.1)
    exact .inl (by rw [Lane.moveTo_record, phase]; rfl)
  | succeed here =>
    rw [here] at agrees
    have phase : (lane.advance s.now .done).record.phase = .done :=
      lane.advance_phase s.now (by rw [agrees.1]; rfl)
    exact .inl (by rw [Lane.moveTo_record, phase]; rfl)
  | _ =>
    rw [‹lane.worker = _›] at settles
    cases settles

/-- It does not have to wait. -/
theorem settles_turn {i : Nat} {lane : Lane} (found : s.lanes[i]? = some lane)
    (settles : lane.worker.settles = true) : ∃ t, setup.step? s (.act (.worker i)) = some t := by
  show ∃ t, setup.workerStep? s i = some t
  unfold workerStep?
  rw [found, Option.bind_some]
  cases here : lane.worker with
  | succeeding | failing | marking => exact ⟨_, rfl⟩
  | _ =>
    rw [here] at settles
    cases settles

/-- **After the last result two turns are enough.** -/
theorem Run.settles (starts : dispatch.Starts setup s₀) (first : setup.Run s₀ past s) {i : Nat}
    {finding : Finding} (among : finding ∈ findings i past) (last : finding.isLast = true)
    (second : setup.Run s later s') {lane : Lane} (found : s'.lanes[i]? = some lane) :
    lane.record.phase.isTerminal = true ∨
      lane.worker.settles = true ∧ lane.worker.notes + turns i later ≤ 2 := by
  induction second generalizing lane with
  | nil =>
    have agrees := first.agrees starts found
    refine ((first.tallies starts found).settles agrees among last).imp_right fun settles => ?_
    refine ⟨settles, ?_⟩
    cases here : lane.worker with
    | failing => exact Nat.le_refl 2
    | _ => exact Nat.le_succ 1
  | @snoc later u u' e run step ih =>
    have whole := first.append run
    obtain ⟨before, there, passage⟩ := (step?_step step).lane_before (whole.orderly starts) found
    have near := ih there
    rw [turns_snoc]
    cases passage with
    | turn own turn _ =>
      subst own
      simp only [Event.isTurn, beq_self_eq_true, if_true]
      rcases near with ended | ⟨settles, near⟩
      · exact .inl ((turn.edits.moves.of_isTerminal ended).symm ▸ ended)
      · refine (turn.settles (whole.agrees starts there) settles).imp_right ?_
        rintro ⟨settles, nearer⟩
        exact ⟨settles, by omega⟩
    | same rests | asked rests =>
      rw [Event.isTurn_eq_false rests, if_neg Bool.false_ne_true, Nat.add_zero]
      exact near
    | granted rests idle =>
      -- a worker that waits for its slot does not know yet what comes of its host
      rw [Event.isTurn_eq_false rests, if_neg Bool.false_ne_true, Nat.add_zero]
      refine near.imp id ?_
      rintro ⟨settles, -⟩
      rw [idle] at settles
      cases settles

end Setup

end Fleet
