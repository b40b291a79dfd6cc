import Fleet.Proofs.Start

/-!
# The life of a host

A worker and the record of its host agree at every moment: how far the worker has come says in
which phase the record is and whether a failure is noted. `Worker.Agrees` is the table of it, and
it holds of every host in every state that a dispatch can come to (`agrees`).

A record moves along legal steps only (`Record.Edit.moves`). From the table it follows that a
failure is noted before the phase says so, and that a worker which gives its slot back has seen its
host to the end, unless it crashed.
-/

namespace Fleet

/-- What a turn can make of a record, as far as its phase and its times go. -/
inductive Record.Moves (now : Time) (record : Record) : Record → Prop where
  /-- They stay as they are. -/
  | stays {record' : Record} (phase : record'.phase = record.phase)
      (startedAt : record'.startedAt = record.startedAt)
      (connectedAt : record'.connectedAt = record.connectedAt) : Moves now record record'
  /-- A legal step enters another phase and notes when. -/
  | steps {next : Phase} (legal : record.phase.canAdvance next = true) :
      Moves now record ({ record with phase := next }.stamp now next)

/-- No step leads out of the last two phases. -/
theorem Record.Moves.of_isTerminal {now : Time} {record record' : Record}
    (moves : record.Moves now record') (ended : record.phase.isTerminal = true) :
    record'.phase = record.phase := by
  cases moves with
  | stays phase => exact phase
  | @steps next legal =>
    rw [Phase.canAdvance_of_isTerminal ended next] at legal
    cases legal

/-- Two records of one host, which agree in who it is and how it is to be treated. -/
structure Record.IsSameHost (record record' : Record) : Prop where
  host : record'.host = record.host
  address : record'.address = record.address
  localUser : record'.localUser = record.localUser
  remoteUser : record'.remoteUser = record.remoteUser
  nodeIndex : record'.nodeIndex = record.nodeIndex
  displayLabels : record'.displayLabels = record.displayLabels

namespace Record.IsSameHost

variable {record record' record'' : Record}

theorem refl (record : Record) : record.IsSameHost record := ⟨rfl, rfl, rfl, rfl, rfl, rfl⟩

theorem trans (first : record.IsSameHost record') (second : record'.IsSameHost record'') :
    record.IsSameHost record'' where
  host := second.host.trans first.host
  address := second.address.trans first.address
  localUser := second.localUser.trans first.localUser
  remoteUser := second.remoteUser.trans first.remoteUser
  nodeIndex := second.nodeIndex.trans first.nodeIndex
  displayLabels := second.displayLabels.trans first.displayLabels

end Record.IsSameHost

/-- What a turn can write on a record, when the worker has come so far. -/
inductive Record.Edit (now : Time) (worker : Worker) (record : Record) : Record → Prop where
  | nothing : Edit now worker record record
  /-- Another phase, as far as that is legal. -/
  | phase (next : Phase) : Edit now worker record (record.advance now next).2
  /-- How to signal the remote side. -/
  | backchannel (backchannel : Backchannel) :
      Edit now worker record (record.setBackchannel backchannel)
  | exitCode (noted : Option Int32) : Edit now worker record { record with exitCode := noted }
  /-- Why the host failed. -/
  | failure {e : HostError} (here : worker = .failing e) :
      Edit now worker record (record.setFailure e.message)
  | abort : Edit now worker record record.abort

namespace Record.Edit

variable {now : Time} {worker : Worker} {record record' : Record}

/-- **A record moves along legal steps only.** -/
theorem moves (edit : Edit now worker record record') : record.Moves now record' := by
  cases edit with
  | phase next =>
    by_cases legal : record.phase.canAdvance next = true
    · rw [advance_of_legal now legal]
      exact .steps legal
    · rw [advance, if_neg legal]
      exact .stays rfl rfl rfl
  | _ => exact .stays rfl rfl rfl

/-- A host stays who it is. -/
theorem sameHost (edit : Edit now worker record record') : record.IsSameHost record' := by
  cases edit with
  | phase next =>
    unfold advance
    split
    · cases next <;> exact ⟨rfl, rfl, rfl, rfl, rfl, rfl⟩
    · exact .refl record
  | _ => exact ⟨rfl, rfl, rfl, rfl, rfl, rfl⟩

/-- Who was asked to abort stays asked. -/
theorem aborted (edit : Edit now worker record record') (asked : record.aborted = true) :
    record'.aborted = true := by
  cases edit with
  | phase next => exact (record.advance_aborted now next).trans asked
  | abort => rfl
  | _ => exact asked

/-- A failure is noted where there is one to note, and nowhere else. -/
theorem failed (edit : Edit now worker record record') :
    record'.failure = record.failure ∨ ∃ e, worker = .failing e := by
  cases edit with
  | phase next => exact .inl (record.advance_failure now next)
  | failure here => exact .inr ⟨_, here⟩
  | _ => exact .inl rfl

end Record.Edit

namespace Worker

/-- What the record of a host looks like when its worker has come so far. -/
def Agrees (record : Record) : Worker → Prop
  | waiting | admitted => record.phase = .new ∧ record.failure = none
  | connecting | opening .. | opened .. => record.phase = .connecting ∧ record.failure = none
  | attaching .. | sending .. | relaying .. | reaping .. | succeeding =>
    record.phase = .executing ∧ record.failure = none
  | failing _ => record.phase.isActive = true ∧ record.failure = none
  | marking e => record.phase.isActive = true ∧ record.failure = some e.message
  | telling e => record.phase = .failed ∧ record.failure = some e.message
  | claiming | signalling _ | aborting _ | raising =>
    record.phase = .failed ∧ record.failure.isSome = true
  | leaving false | announcing false | gone false =>
    record.phase = .done ∧ record.failure = none ∨
      record.phase = .failed ∧ record.failure.isSome = true
  | leaving true | announcing true | gone true =>
    record.phase = .connecting ∧ record.failure = none

end Worker

/-- The record of a host agrees with its worker. -/
def Lane.Agrees (lane : Lane) : Prop := lane.worker.Agrees lane.record

namespace Phase

/-- Failing is legal wherever a worker is busy with the host. -/
theorem canAdvance_failed {p : Phase} (active : p.isActive = true) :
    p.canAdvance .failed = true := by
  cases p <;> simp_all [isActive, canAdvance]

end Phase

namespace Setup

variable {setup : Setup} {s s₀ : State} {past : List Moment}

/-- What a worker does first with its session: it sends files, or relays output, or fails because it
has files to send and nowhere to send them to. -/
theorem firstWork_cases (setup : Setup) (since : Time) (plan : SessionPlan) :
    (∃ relay, relay.isOpen = true ∧ setup.firstWork since plan = .relaying relay plan.reap) ∨
      (∃ work err, setup.firstWork since plan = .sending false work err plan.reap) ∨
        setup.firstWork since plan = .failing (.protocol .noInput) := by
  unfold firstWork
  cases setup.shipment with
  | none => exact .inl ⟨_, rfl, rfl⟩
  | some shipment =>
    cases plan.stdin with
    | none => exact .inr (.inr rfl)
    | some room => exact .inr (.inl ⟨_, _, rfl⟩)

/-- **What a turn writes on the record of its host.** -/
theorem Turn.edits {i : Nat} {lane lane' : Lane} {t : State} (turn : setup.Turn s i lane lane' t) :
    lane.record.Edit s.now lane.worker lane'.record := by
  cases turn with
  | start | connect | succeed | fail => exact .phase _
  | @attach _ plan =>
    unfold Lane.attach
    cases plan.backchannel with
    | none => exact .nothing
    | some backchannel => exact .backchannel backchannel
  | relay _ result =>
    obtain ⟨-, code, rfl⟩ := Relay.poll_advanced result
    exact .exitCode code
  | cutOff _ result =>
    obtain ⟨code, rfl⟩ := Relay.poll_failed result
    exact .exitCode code
  | reap _ _ result =>
    obtain ⟨termination, -, good⟩ := andThen_eq_ok.mp result
    obtain ⟨code, rfl⟩ := Termination.verdict_eq_ok good
    exact .exitCode code
  | note here => exact .failure here
  | abort =>
    rw [Lane.moveTo_record]
    split
    · exact .abort
    · exact .nothing
  | _ => exact .nothing

/-- **A turn keeps worker and record in agreement.** -/
theorem Turn.agrees {i : Nat} {lane lane' : Lane} {t : State} (turn : setup.Turn s i lane lane' t)
    (agrees : lane.Agrees) : lane'.Agrees := by
  unfold Lane.Agrees at *
  cases turn with
  | start here | connect here =>
    rw [here] at agrees
    exact ⟨lane.advance_phase s.now (by rw [agrees.1]; rfl),
      (lane.record.advance_failure s.now _).trans agrees.2⟩
  | succeed here =>
    rw [here] at agrees
    exact .inl ⟨lane.advance_phase s.now (by rw [agrees.1]; rfl),
      (lane.record.advance_failure s.now _).trans agrees.2⟩
  | fail here =>
    rw [here] at agrees
    exact ⟨lane.advance_phase s.now (Phase.canAdvance_failed agrees.1),
      (lane.record.advance_failure s.now _).trans agrees.2⟩
  | skip here _ | giveUp here _ | refused here _ _ _ _ | lose here _ _ | stopSending here _ =>
    rw [here] at agrees
    exact ⟨by rw [Lane.moveTo_record, agrees.1]; rfl, agrees.2⟩
  | ask here _ | crash here _ _ _ _ | opened here _ _ _ _ | pause here _ | relayed here _ =>
    rw [here] at agrees
    exact agrees
  | @attach since plan here =>
    rw [here] at agrees
    have phase := (lane.attach_phase plan (setup.firstWork since plan)).trans agrees.1
    have failure := (lane.attach_failure plan (setup.firstWork since plan)).trans agrees.2
    show (setup.firstWork since plan).Agrees _
    rcases setup.firstWork_cases since plan with ⟨_, -, same⟩ | ⟨_, _, same⟩ | same
    · rw [same] at phase failure ⊢; exact ⟨phase, failure⟩
    · rw [same] at phase failure ⊢; exact ⟨phase, failure⟩
    · rw [same] at phase failure ⊢; exact ⟨by rw [phase]; rfl, failure⟩
  | send here _ _ | sent here _ _ =>
    rw [here] at agrees
    exact agrees
  | spoilt here _ _ =>
    rw [here] at agrees
    exact ⟨by rw [agrees.1]; rfl, agrees.2⟩
  | relay here result =>
    rw [here] at agrees
    obtain ⟨-, code, rfl⟩ := Relay.poll_advanced result
    exact agrees
  | cutOff here result =>
    rw [here] at agrees
    obtain ⟨code, rfl⟩ := Relay.poll_failed result
    exact ⟨by rw [agrees.1]; rfl, agrees.2⟩
  | @reap _ outcome _ here _ result =>
    rw [here] at agrees
    obtain ⟨termination, -, good⟩ := andThen_eq_ok.mp result
    obtain ⟨code, rfl⟩ := Termination.verdict_eq_ok good
    exact agrees
  | @note e here =>
    rw [here] at agrees
    exact ⟨agrees.1, by rw [Record.setFailure, agrees.2]; rfl⟩
  | tell here =>
    rw [here] at agrees
    have failed : lane.record.phase = .failed ∧ lane.record.failure.isSome = true :=
      ⟨agrees.1, by rw [agrees.2]; rfl⟩
    rw [Lane.moveTo_worker, Lane.moveTo_record]
    split
    · exact failed
    · exact .inr failed
  | defer here _ | raise here =>
    rw [here] at agrees
    exact .inr agrees
  | claim here _ | signal here _ | signalled here _ | aborted here _ =>
    rw [here] at agrees
    exact agrees
  | abort here _ =>
    rw [here] at agrees
    rw [Lane.moveTo_worker, Lane.moveTo_record]
    split <;> exact agrees
  | @leave crashed here | @announce crashed here =>
    rw [here] at agrees
    cases crashed <;> exact agrees

/-- **Worker and record agree in every state that a dispatch can come to.** -/
theorem Run.agrees {dispatch : Dispatch} (run : setup.Run s₀ past s)
    (starts : dispatch.Starts setup s₀) {i : Nat} {lane : Lane}
    (found : s.lanes[i]? = some lane) : lane.Agrees := by
  refine run.lane_induction starts (Q := Lane.Agrees) ?_ ?_ ?_
    (fun _ _ _ _ _ turn => turn.agrees) found
  · intro lane fresh
    unfold Lane.Agrees
    rw [fresh.worker]
    exact ⟨fresh.phase, fresh.failure⟩
  · intro lane agrees
    unfold Lane.Agrees at *
    cases h : lane.worker <;> rw [Lane.abort_worker, h] <;> rw [h] at agrees <;> exact agrees
  · intro lane idle agrees
    unfold Lane.Agrees at *
    rw [idle] at agrees
    exact agrees

end Setup

/-- A worker is not over while its host is executing. -/
theorem Lane.Agrees.isGone_of_executing {lane : Lane} (agrees : lane.Agrees)
    (executing : lane.record.phase = .executing) : lane.worker.isGone = false := by
  unfold Lane.Agrees at agrees
  cases here : lane.worker with
  | gone crashed =>
    rw [here] at agrees
    cases crashed with
    | true => cases executing.symm.trans agrees.1
    | false =>
      rcases agrees with ⟨phase, -⟩ | ⟨phase, -⟩ <;> cases executing.symm.trans phase
  | _ => rfl

end Fleet
