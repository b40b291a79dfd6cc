import Fleet.Proofs.Lockstep
import Fleet.Proofs.Outlook
import Fleet.Proofs.Output
import Fleet.Proofs.Watching

/-!
# What comes of a host is foretold

When the backend has answered, what can come of a host is settled by the answer, and by the files
where some are sent: `Opening.outlook` reads it off. Every turn of its worker leaves of the outlook
what is still ahead, and nothing that other tasks do changes it.

**The law** (`Setup.Run.foretold`): in a run in which nobody is asked to abort, and to a console
that takes what the host says, what was written for the host and what is still ahead of it make up a
fate that the answer allows.
-/

namespace Fleet

/-! ## Outlooks of sessions -/

namespace Sending

/-- When a stream ends does not matter for what is heard on it. -/
theorem heard_after (ending : Ending) (origin earliest : Time) (bytes : Bytes) :
    heard (ending.after origin earliest) bytes = heard ending bytes := by
  cases ending <;> rfl

theorem settle_after (fs : FileSystem) (ending : Ending) (origin earliest : Time) (sink : Sink)
    (groups : List Copy.Group) (bytes : Bytes) :
    settle fs (ending.after origin earliest) sink groups bytes
      = settle fs ending sink groups bytes := by
  induction groups generalizing sink bytes with
  | nil => simp only [settle, heard_after]
  | cons group groups ih => simp only [settle, heard_after, ih]

/-- A copy comes to the same whenever its session begins. -/
theorem result_start (fs : FileSystem) (preserve : Bool) (entries : List CopyEntry)
    (source : Source) (origin : Time) (sink : Sink) :
    (start preserve entries (.ofSource (source.start origin)) sink).result fs
      = settle fs source.ending sink (Copy.groups preserve entries) source.bytes := by
  show settle fs (source.ending.after origin _) sink (Copy.groups preserve entries)
    (source.start origin).bytes = _
  rw [settle_after, source.start_bytes]

/-- What is ahead when a copy ends like this, with what follows on the two streams. -/
def End.outlook (ending : Ending) (err : Utterance) (outcome : Except HostError Termination) :
    End → Outlook
  | finished rest => .relays (fun | .out => .ofBytes rest ending | .err => err) outcome
  | failed e => .fails e
  | silent => .lost

theorem End.outlook_after (ending : Ending) (origin earliest : Time) (err : Utterance)
    (outcome : Except HostError Termination) (ended : End) :
    ended.outlook (ending.after origin earliest) err outcome
      = ended.outlook ending err outcome := by
  cases ended with
  | finished rest => simp only [outlook, Utterance.ofBytes_after]
  | _ => rfl

end Sending

/-- What is sent to every host, where files are, and where it is read from. -/
abbrev Cargo := Option (Shipment × FileSystem)

namespace SessionPlan

/-- What a session says on its second stream. -/
def errUtterance (plan : SessionPlan) : Utterance :=
  (plan.stderr.map fun source => .ofBytes source.bytes source.ending).getD {}

/-- What is ahead of a host that is given a session. -/
def outlook (cargo : Cargo) (plan : SessionPlan) : Outlook :=
  match cargo with
  | none =>
    .relays (fun
      | .out => .ofBytes plan.stdout.bytes plan.stdout.ending
      | .err => plan.errUtterance) plan.reap.outcome
  | some (shipment, fs) =>
    match plan.stdin with
    | none => .fails (.protocol .noInput)
    | some room =>
      let groups := Copy.groups shipment.preserve shipment.entries
      let result := Sending.settle fs plan.stdout.ending { room } groups plan.stdout.bytes
      result.ended.outlook plan.stdout.ending plan.errUtterance plan.reap.outcome

theorem utterance_err (plan : SessionPlan) (since : Time) :
    Voice.utterance (plan.stderr.map fun source => .ofSource (source.start since))
      = plan.errUtterance := by
  unfold errUtterance
  cases plan.stderr with
  | none => rfl
  | some source => exact LineReader.utterance_ofSource source since

end SessionPlan

/-- What is ahead of a host that gets this answer. -/
def Opening.outlook (cargo : Cargo) : Opening → Outlook
  | refused e => .fails e
  | crash => .lost
  | session plan => plan.outlook cargo

/-! ## Outlooks of workers -/

namespace Setup

/-- What is sent to every host, where files are, and where it is read from. -/
def cargo (setup : Setup) : Cargo := setup.shipment.map (·, setup.fs)

/-- What is ahead of a host whose backend answers like this. -/
def outlook (setup : Setup) (answer : Attempt) (lane : Lane) : Outlook :=
  match lane.worker with
  | .waiting | .admitted | .connecting => answer.opening.outlook setup.cargo
  | .opening _ attempt => attempt.opening.outlook setup.cargo
  | .opened _ plan | .attaching _ plan => plan.outlook setup.cargo
  | .sending _ work err ending =>
    (work.result setup.fs).ended.outlook work.answers.reader.source.ending (Voice.utterance err)
      ending.outcome
  | .relaying relay ending => .relays relay.utters ending.outcome
  | .reaping _ outcome => .relays (fun _ => {}) outcome
  | .succeeding => .settled .done none
  | .failing e | .marking e | .telling e => .fails e
  | .claiming | .signalling _ | .aborting _ | .raising | .leaving false | .announcing false
  | .gone false => .settled lane.record.phase lane.record.failure
  | .leaving true | .announcing true | .gone true => .lost

end Setup

/-- The streams that a worker has in its hands are read line by line. -/
def Worker.IsSound : Worker → Prop
  | sending _ work err _ => work.IsSound ∧ Voice.IsSound err
  | relaying relay _ => relay.IsSound
  | _ => True

namespace Setup

variable {setup : Setup} {s s' s₀ : State} {past : List Moment} {dispatch : Dispatch}
  {answer : Attempt}

/-- **Taking up a session leaves ahead what the session has to offer.** -/
theorem firstWork_outlook (setup : Setup) (answer : Attempt) (since : Time) (plan : SessionPlan)
    {lane : Lane} (here : lane.worker = setup.firstWork since plan) :
    setup.outlook answer lane = plan.outlook setup.cargo ∧ lane.worker.IsSound := by
  have errSound : Voice.IsSound (plan.stderr.map fun source => .ofSource (source.start since)) := by
    intro lines among
    obtain ⟨source, -, rfl⟩ := Option.map_eq_some_iff.mp among
    exact LineReader.isSound_ofSource _
  unfold firstWork at here
  unfold outlook SessionPlan.outlook cargo
  cases files : setup.shipment with
  | none =>
    simp only [files] at here
    rw [here]
    refine ⟨congrArg (Outlook.relays · _) (funext ?_), ?_, errSound⟩
    · rintro (_ | _)
      · exact LineReader.utterance_ofSource plan.stdout since
      · exact plan.utterance_err since
    · exact Voice.isSound_some (LineReader.isSound_ofSource _)
  | some shipment =>
    simp only [files] at here
    cases input : plan.stdin with
    | none =>
      simp only [input] at here
      rw [here]
      exact ⟨rfl, trivial⟩
    | some room =>
      simp only [input] at here
      rw [here]
      refine ⟨?_, Sending.isSound_start .., errSound⟩
      dsimp only
      rw [Sending.result_start, plan.utterance_err since]
      exact Sending.End.outlook_after plan.stdout.ending since _ _ _ _

/-! ## One turn -/

/-- The fates that are open to a host. -/
def Allows (setup : Setup) (answer : Attempt) (lane : Lane) (fate : Fate) : Prop :=
  (setup.outlook answer lane).Allows (setup.routing lane) lane.record.exitCode fate

theorem Turn.routing {i : Nat} {lane lane' : Lane} {t : State}
    (turn : setup.Turn s i lane lane' t) : setup.routing lane' = setup.routing lane := by
  have same := turn.edits.sameHost
  rw [Setup.routing, Setup.routing, Setup.label, Setup.label, same.host, same.nodeIndex,
    same.displayLabels]

/-- Where outlook and exit code stay, the same fates are open. -/
theorem Allows.congr {lane lane' : Lane} {fate : Fate}
    (outlook : setup.outlook answer lane' = setup.outlook answer lane)
    (routing : setup.routing lane' = setup.routing lane)
    (code : lane'.record.exitCode = lane.record.exitCode)
    (allows : setup.Allows answer lane' fate) : setup.Allows answer lane fate := by
  unfold Allows at *
  rwa [outlook, routing, code] at allows

/-- What is open to a host later was open to it before, and what its worker then has in its hands is
read line by line. -/
structure Narrows (setup : Setup) (answer : Attempt) (lane lane' : Lane) : Prop where
  sound : lane'.worker.IsSound
  allows : ∀ fate, setup.Allows answer lane' fate → setup.Allows answer lane fate

/-- Where outlook and exit code stay, nothing is lost. -/
private theorem Turn.narrows {i : Nat} {lane lane' : Lane} {t : State}
    (turn : setup.Turn s i lane lane' t) (answer : Attempt) (sound : lane'.worker.IsSound)
    (outlook : setup.outlook answer lane' = setup.outlook answer lane)
    (code : lane'.record.exitCode = lane.record.exitCode) : setup.Narrows answer lane lane' :=
  ⟨sound, fun _ => Allows.congr outlook turn.routing code⟩

/-- The fate of a host whose session is about to end. -/
private theorem allows_reaped {lane : Lane} {due : Time} {outcome : Except HostError Termination}
    (here : lane.worker = .reaping due outcome) :
    setup.Allows answer lane (.reaped lane.record.exitCode outcome) := by
  rw [Allows, outlook, here]
  exact .of_silence fun _ => rfl

/-- What a turn does with a copy leaves the copy to come to the same. -/
private theorem Turn.sending {i : Nat} {lane lane' : Lane} {t : State}
    (turn : setup.Turn s i lane lane' t) {busy : Bool} {work : Sending} {err : Option LineReader}
    {ending : SessionEnd} (here : lane.worker = .sending busy work err ending)
    (calm : lane.record.aborted = false) (sound : work.IsSound) (errSound : Voice.IsSound err) :
    setup.Narrows answer lane lane' := by
  have kept := turn.narrows answer
  have polled := Sending.poll_polled sound setup.fs s.now
  cases turn with
  | send here' _ result =>
    cases here.symm.trans here'
    rw [result] at polled
    cases polled with
    | advanced _ same sound' follows =>
      refine kept ⟨sound', errSound⟩ ?_ rfl
      simp only [outlook, here, same, Sending.Result.warned, follows.ending]
  | @sent _ _ _ _ _ rest _ here' _ result =>
    cases here.symm.trans here'
    rw [result] at polled
    cases polled with
    | finished same held follows =>
      have restSound : rest.IsSound := by
        rw [LineReader.IsSound, held]
        exact List.not_mem_nil
      refine kept ⟨Voice.isSound_some restSound, errSound⟩ ?_ rfl
      simp only [outlook, here, same, Sending.End.outlook]
      refine congrArg (Outlook.relays · _) (funext ?_)
      rintro (_ | _)
      · show rest.utterance = _
        rw [LineReader.utterance, LineReader.rest_of_held held, follows.ending]
      · rfl
  | spoilt here' _ result =>
    cases here.symm.trans here'
    rw [result] at polled
    cases polled with
    | failed same =>
      refine kept trivial ?_ rfl
      simp only [outlook, here, same, Sending.End.outlook]
  | pause here' result =>
    cases here.symm.trans here'
    rw [result] at polled
    cases polled with
    | waiting same _ _ sound' follows _ =>
      refine kept ⟨sound', errSound⟩ ?_ rfl
      simp only [outlook, here, same, Lane.moveTo_worker, follows.ending]
  | stopSending _ asked =>
    rw [calm] at asked
    cases asked
  | _ => cases here.symm.trans ‹lane.worker = _›

/-- The end of a session decides what comes of its host. -/
private theorem Turn.reaping {i : Nat} {lane lane' : Lane} {t : State}
    (turn : setup.Turn s i lane lane' t) (answer : Attempt) (agrees : lane.Agrees) {due : Time}
    {outcome : Except HostError Termination} (here : lane.worker = .reaping due outcome) :
    setup.Narrows answer lane lane' := by
  have running : lane.record.phase.isTerminal = false := by
    rw [Lane.Agrees, here] at agrees
    rw [agrees.1]
    rfl
  have reaped : setup.Allows answer lane _ := allows_reaped here
  rw [Fate.reaped_eq running] at reaped
  cases turn with
  | @reap _ _ record here' _ result =>
    cases here.symm.trans here'
    refine ⟨trivial, fun fate allows => ?_⟩
    obtain rfl : fate = .quiet .done none record.exitCode := Outlook.Allows.eq_quiet allows
    rwa [result] at reaped
  | @lose _ _ e here' _ result =>
    cases here.symm.trans here'
    refine ⟨trivial, fun fate allows => ?_⟩
    obtain rfl : fate = .quiet .failed (some e.message) lane.record.exitCode :=
      Outlook.Allows.eq_quiet allows
    rwa [result] at reaped
  | _ => cases here.symm.trans ‹lane.worker = _›

/-- **A turn of a worker that relays nothing** leaves the fates open that were open before, or some
of them. -/
private theorem Turn.aside {i : Nat} {lane lane' : Lane} {t : State}
    (turn : setup.Turn s i lane lane' t) (agrees : lane.Agrees)
    (calm : lane.record.aborted = false) (sound : lane.worker.IsSound)
    (asks : ∀ earlier, setup.backend.attempt earlier (setup.request s.lanes.length lane) = answer)
    (away : ∀ relay ending, lane.worker ≠ .relaying relay ending) :
    setup.Narrows answer lane lane' := by
  have advanced (next : Phase) :
      (lane.record.advance s.now next).2.exitCode = lane.record.exitCode :=
    lane.record.advance_exitCode s.now next
  have kept := turn.narrows answer
  have copying {busy : Bool} {work : Sending} {err : Option LineReader} {ending : SessionEnd}
      (here : lane.worker = .sending busy work err ending) : setup.Narrows answer lane lane' := by
    rw [here] at sound
    exact turn.sending here calm sound.1 sound.2
  have reaping {due : Time} {outcome : Except HostError Termination} :
      lane.worker = .reaping due outcome → setup.Narrows answer lane lane' :=
    turn.reaping answer agrees
  unfold Lane.Agrees at agrees
  cases turn with
  | skip _ asked | giveUp _ asked | stopSending _ asked =>
    rw [calm] at asked
    cases asked
  | relay here | relayed here | cutOff here => exact absurd here (away _ _)
  | send here | sent here | spoilt here | pause here => exact copying here
  | start here => exact kept trivial (by rw [outlook, outlook, here]; rfl) (advanced _)
  | ask here => exact kept trivial (by rw [outlook, outlook, here, ← asks]; rfl) rfl
  | refused here _ _ _ result | crash here _ _ _ result | opened here _ _ _ result =>
    exact kept trivial (by simp only [outlook, here, result]; rfl) rfl
  | connect here => exact kept trivial (by rw [outlook, outlook, here]; rfl) (advanced _)
  | @attach since plan here =>
    obtain ⟨outlook, soundly⟩ := @firstWork_outlook setup answer since plan
      (lane.attach plan (setup.firstWork since plan)) rfl
    refine kept soundly (outlook.trans (by rw [Setup.outlook, here])) ?_
    unfold Lane.attach
    cases plan.backchannel <;> rfl
  | reap here | lose here => exact reaping here
  | succeed here =>
    rw [here] at agrees
    have phase : (lane.record.advance s.now .done).2.phase = .done :=
      lane.advance_phase s.now (by rw [agrees.1]; rfl)
    have failure := (lane.record.advance_failure s.now .done).trans agrees.2
    have settled : Outlook.settled (lane.record.advance s.now .done).2.phase
        (lane.record.advance s.now .done).2.failure = .settled .done none := by rw [phase, failure]
    exact kept trivial (settled.trans (by rw [outlook, here])) (advanced _)
  | note here => exact kept trivial (by rw [outlook, outlook, here]) rfl
  | fail here => exact kept trivial (by rw [outlook, outlook, here]; rfl) (advanced _)
  | @tell e here =>
    -- the record already has what is told
    rw [here] at agrees
    have before : setup.outlook answer lane = .settled lane.record.phase lane.record.failure := by
      rw [agrees.1, agrees.2, outlook, here]
      rfl
    by_cases lockstep : setup.backend.lockstep = true
    · simp only [if_pos lockstep] at kept ⊢
      exact kept trivial before.symm rfl
    · simp only [if_neg lockstep] at kept ⊢
      exact kept trivial before.symm rfl
  | defer here | claim here | signal here | signalled here | aborted here | raise here =>
    exact kept trivial (by rw [outlook, outlook, here]; rfl) rfl
  | abort here =>
    refine kept trivial ?_ ?_
    · rw [outlook, outlook, here]
      show Outlook.settled (Lane.record _).phase (Lane.record _).failure = _
      split <;> rfl
    · rw [Lane.moveTo_record]
      split <;> rfl
  | @leave crashed here | @announce crashed here =>
    exact kept trivial (by cases crashed <;> rw [outlook, outlook, here] <;> rfl) rfl

/-- **A turn of a worker that relays** writes what it takes of the streams. What can follow on that
was open before. -/
private theorem Turn.aloud {i : Nat} {lane lane' : Lane} {t : State} {relay : Relay}
    {ending : SessionEnd} (turn : setup.Turn s i lane lane' t) (answer : Attempt)
    (calm : lane.record.aborted = false) (running : lane.record.phase.isTerminal = false)
    (here : lane.worker = .relaying relay ending) (sound : relay.IsSound)
    (room : s.console.room ((setup.routing lane).target (relay.speaker s.now)) ≠ some 0) :
    lane'.worker.IsSound ∧ ∃ taken : Stream → List Bytes,
      (∀ v, v ≠ relay.speaker s.now → taken v = []) ∧
      t.console.lines = s.console.lines
        ++ ((setup.routing lane).shown (relay.speaker s.now) (taken (relay.speaker s.now))).map
          ((setup.routing lane).written s.now (relay.speaker s.now)) ∧
      ∀ fate, setup.Allows answer lane' fate →
        setup.Allows answer lane (fate.said fun v => (setup.routing lane).lines v (taken v)) := by
  have same := turn.routing
  have silent : s.console.lines = s.console.lines
      ++ ((setup.routing lane).shown (relay.speaker s.now) []).map
        ((setup.routing lane).written s.now (relay.speaker s.now)) := (List.append_nil _).symm
  have tells := Relay.poll_tells (setup.routing lane) lane.record s.now room calm sound
  cases turn with
  | relay here' result =>
    cases here.symm.trans here'
    rw [result] at tells
    cases tells with
    | @advanced taken _ _ next told sound' quiet lines note =>
      refine ⟨sound', taken, quiet, lines, fun fate allows => ?_⟩
      rw [(setup.routing lane).foldl_note_out _ running] at note
      rw [Allows, same, note] at allows
      rw [Allows, outlook, here]
      exact .before told allows
  | relayed here' result =>
    cases here.symm.trans here'
    rw [result] at tells
    cases tells with
    | finished told =>
      refine ⟨trivial, fun _ => [], fun _ _ => rfl, silent, fun fate allows => ?_⟩
      refine Allows.congr ?_ same rfl allows
      rw [outlook, outlook, here]
      exact congrArg (Outlook.relays · _) (funext told).symm
  | cutOff here' result =>
    cases here.symm.trans here'
    rw [result] at tells
    cases tells with
    | @failed e v told =>
      refine ⟨trivial, fun _ => [], fun _ _ => rfl, silent, fun fate allows => ?_⟩
      obtain rfl : fate = .ended lane.record.exitCode ending.outcome (some e) :=
        Outlook.Allows.eq_quiet allows
      rw [Allows, outlook, here]
      exact .of_fault v told
  | _ => cases here.symm.trans ‹lane.worker = _›

/-- What was written for the streams of a host and what is still ahead of it make up what its answer
allows. -/
structure Foretold (setup : Setup) (answer : Attempt) (lane : Lane)
    (lines : Stream → List (Stream × String)) : Prop where
  sound : lane.worker.IsSound
  allows : ∀ fate, setup.Allows answer lane fate →
    (answer.opening.outlook setup.cargo).Allows (setup.routing lane) none (fate.said lines)

/-- **A turn keeps to what was foretold.** -/
theorem Turn.foretold {i : Nat} {lane lane' : Lane} {t : State}
    (turn : setup.Turn s i lane lane' t) (found : s.lanes[i]? = some lane) (agrees : lane.Agrees)
    (calm : lane.record.aborted = false)
    (room : ∀ relay ending, lane.worker = .relaying relay ending →
      s.console.room ((setup.routing lane).target (relay.speaker s.now)) ≠ some 0)
    (asks : ∀ earlier, setup.backend.attempt earlier (setup.request s.lanes.length lane) = answer)
    (foretold : setup.Foretold answer lane (linesFrom past i)) :
    setup.Foretold answer lane'
      (linesFrom (past ++ [⟨s, .act (.worker i), t.putLane i lane'⟩]) i) := by
  by_cases relays : ∃ relay ending, lane.worker = .relaying relay ending
  · obtain ⟨relay, ending, here⟩ := relays
    have running : lane.record.phase.isTerminal = false := by
      unfold Lane.Agrees at agrees
      rw [here] at agrees
      rw [agrees.1]
      rfl
    have sound := foretold.sound
    rw [here] at sound
    obtain ⟨sound', taken, quiet, lines, remains⟩ :=
      turn.aloud answer calm running here sound (room relay ending here)
    refine ⟨sound', fun fate allows => ?_⟩
    have before := foretold.allows _ (remains fate allows)
    rw [Fate.said_said] at before
    have whole : linesFrom (past ++ [⟨s, .act (.worker i), t.putLane i lane'⟩]) i
        = fun v => linesFrom past i v ++ (setup.routing lane).lines v (taken v) := by
      funext v
      have wrote : (t.putLane i lane').console.lines = _ := lines
      rw [linesFrom_relaying found here wrote]
      by_cases own : v = relay.speaker s.now
      · rw [if_pos own, own]
      · rw [if_neg own, quiet v own]
    rw [whole, turn.routing]
    exact before
  · have away (relay : Relay) (ending : SessionEnd) : lane.worker ≠ .relaying relay ending :=
      fun here => relays ⟨relay, ending, here⟩
    obtain ⟨sound', remains⟩ := turn.aside agrees calm foretold.sound asks away
    have unsaid : linesFrom (past ++ [⟨s, .act (.worker i), t.putLane i lane'⟩]) i
        = linesFrom past i := by
      refine linesFrom_snoc (.inr fun v spoken => ?_)
      cases (Moment.speaker_of_away _ found away).symm.trans spoken
    refine ⟨sound', fun fate allows => ?_⟩
    rw [unsaid, turn.routing]
    exact foretold.allows fate (remains fate allows)

/-! ## Nobody is asked to abort -/

end Setup

/-- Nobody has been asked to abort, and the watchdog will not ask anybody. -/
structure State.IsCalm (s : State) : Prop where
  watchdog : s.watchdog = .off
  lanes : ∀ (i : Nat) (lane : Lane), s.lanes[i]? = some lane → lane.record.aborted = false

/-- Nothing takes a hand in the run: one host does not end it for all, there are no time limits, and
the user does not interrupt. -/
structure Dispatch.IsPlain (dispatch : Dispatch) (past : List Moment) : Prop where
  lockstep : dispatch.backend.lockstep = false
  limits : dispatch.options.limits.isDisabled = true
  calm : ∀ moment ∈ past, moment.event ≠ .interrupt

namespace Setup

variable {setup : Setup} {s s' s₀ : State} {past : List Moment} {dispatch : Dispatch}
  {answer : Attempt}

/-- Only a worker that takes the run down asks others to abort. -/
theorem Turn.unasked {i : Nat} {lane lane' : Lane} {t : State}
    (turn : setup.Turn s i lane lane' t) (plain : lane.worker.isInLockstep = false) :
    lane'.record.aborted = lane.record.aborted ∧ t.lanes = s.lanes := by
  cases turn with
  | start | connect | succeed | fail => exact ⟨lane.record.advance_aborted s.now _, rfl⟩
  | @attach _ plan =>
    unfold Lane.attach
    cases plan.backchannel <;> exact ⟨rfl, rfl⟩
  | relay _ result =>
    obtain ⟨-, code, rfl⟩ := Relay.poll_advanced result
    exact ⟨rfl, rfl⟩
  | cutOff _ result =>
    obtain ⟨code, rfl⟩ := Relay.poll_failed result
    exact ⟨rfl, rfl⟩
  | reap _ _ result =>
    obtain ⟨termination, -, good⟩ := andThen_eq_ok.mp result
    obtain ⟨code, rfl⟩ := Termination.verdict_eq_ok good
    exact ⟨rfl, rfl⟩
  | abort here =>
    rw [here] at plain
    cases plain
  | _ => exact ⟨rfl, rfl⟩

/-- **Nobody is asked to abort** where no worker takes the run down, the watchdog is off and the
user does not interrupt. -/
theorem Step.calm {e : Event} (step : setup.Step s e s') (calm : s.IsCalm)
    (listening : s.interrupter = .listening)
    (plain : ∀ (i : Nat) (lane : Lane), s.lanes[i]? = some lane →
      lane.worker.isInLockstep = false) : s'.IsCalm := by
  cases step with
  | @work i lane lane' t found turn =>
    obtain ⟨kept, others⟩ := turn.unasked (plain i lane found)
    refine ⟨turn.watchdog.trans calm.watchdog, fun j lane₂ there => ?_⟩
    by_cases own : i = j
    · subst own
      rw [turn.lane found] at there
      cases there
      exact kept.trans (calm.lanes i lane found)
    · rw [State.putLane_lane_ne t own, others] at there
      exact calm.lanes j lane₂ there
  | @grant next noticed gate here _ =>
    refine ⟨calm.watchdog, fun j lane' there => ?_⟩
    have moved : (s.lanes.modify next (·.moveTo .admitted))[j]? = some lane' := there
    rw [List.getElem?_modify] at moved
    obtain ⟨lane, found, rfl⟩ := Option.map_eq_some_iff.mp moved
    split <;> exact calm.lanes j lane found
  | wake here | spot here | spare here | fire here | rest here =>
    rw [calm.watchdog] at here
    cases here
  | abort here =>
    rw [listening] at here
    cases here
  | _ => exact ⟨calm.watchdog, calm.lanes⟩

theorem Run.calm (run : setup.Run s₀ past s) (starts : dispatch.Starts setup s₀)
    (plain : dispatch.IsPlain past) : s.IsCalm := by
  induction run with
  | nil =>
    refine ⟨?_, fun i lane found => (starts.fresh found).aborted⟩
    obtain ⟨prepared⟩ := starts
    exact if_pos plain.limits
  | @snoc past t t' e run step ih =>
    have earlier : dispatch.IsPlain past :=
      { plain with calm := fun moment among => plain.calm moment (List.mem_append_left _ among) }
    exact (step?_step step).calm (ih earlier) (run.listening starts earlier.calm)
      (run.plain starts plain.lockstep)

end Setup

/-! ## What the backend is told -/

namespace Setup

variable {setup : Setup} {s s' s₀ : State} {past : List Moment} {dispatch : Dispatch}
  {answer : Attempt}

theorem Turn.command {i : Nat} {lane lane' : Lane} {t : State}
    (turn : setup.Turn s i lane lane' t) : lane'.command = lane.command := by
  cases turn with
  | abort => split <;> rfl
  | _ => rfl

/-- What the backend is told about a host does not change. -/
theorem Turn.request {i : Nat} {lane lane' : Lane} {t : State}
    (turn : setup.Turn s i lane lane' t) (nhosts : Nat) :
    setup.request nhosts lane' = setup.request nhosts lane := by
  have same := turn.edits.sameHost
  simp only [Setup.request, Lane.request, Record.hostname, turn.command, same.host, same.address,
    same.localUser, same.remoteUser, same.nodeIndex]

theorem Passage.request {e : Event} {i : Nat} {lane lane' : Lane}
    (passage : setup.Passage s e s' i lane lane') (nhosts : Nat) :
    setup.request nhosts lane' = setup.request nhosts lane := by
  cases passage with
  | turn _ turn _ => exact turn.request nhosts
  | same | asked | granted => rfl

/-! ## A whole run -/

/-- The console takes what a host says: where a stream of it is relayed, there is room for a
line. -/
def HasRoomFor (setup : Setup) (past : List Moment) (i : Nat) : Prop :=
  ∀ moment ∈ past, ∀ lane v, moment.before.lanes[i]? = some lane → moment.speaker = some (i, v) →
    moment.before.console.room ((setup.routing lane).target v) ≠ some 0

/-- **What comes of a host is foretold by its answer**, in every run in which nothing takes a hand
and the console takes what the host says. -/
theorem Run.foretold (run : setup.Run s₀ past s) (starts : dispatch.Starts setup s₀)
    (plain : dispatch.IsPlain past) {i : Nat} {lane : Lane} (found : s.lanes[i]? = some lane)
    (room : setup.HasRoomFor past i)
    (asks : ∀ earlier, setup.backend.attempt earlier (setup.request s.lanes.length lane) = answer) :
    setup.Foretold answer lane (linesFrom past i) := by
  induction run generalizing lane with
  | nil =>
    have fresh := starts.fresh found
    constructor
    · rw [fresh.worker]
      trivial
    · intro fate allows
      rw [Allows, outlook, fresh.worker, fresh.exitCode] at allows
      exact allows
  | @snoc past t t' e run step ih =>
    have earlier : dispatch.IsPlain past :=
      { plain with calm := fun moment among => plain.calm moment (List.mem_append_left _ among) }
    obtain ⟨before, old, passage⟩ := (step?_step step).lane_before (run.orderly starts) found
    rw [(step?_step step).length, passage.request] at asks
    have last := room ⟨t, e, t'⟩ (List.mem_append_right _ (List.mem_singleton_self _))
    have foretold := ih earlier old (fun moment among => room moment (List.mem_append_left _ among))
      asks
    have calm := (run.calm starts earlier).lanes i before old
    have unsaid (rests : e ≠ .act (.worker i)) :
        linesFrom (past ++ [⟨t, e, t'⟩]) i = linesFrom past i :=
      linesFrom_snoc (.inr fun v spoken => rests (Moment.event_of_speaker spoken))
    cases passage with
    | turn own turn after =>
      subst own after
      refine turn.foretold old (run.agrees starts old) calm (fun relay ending here => ?_) asks
        foretold
      exact last before _ old (Moment.speaker_of_relaying _ old here)
    | same rests =>
      rw [unsaid rests]
      exact foretold
    | asked rests =>
      -- nobody is asked in a calm run
      have stays := (run.snoc step).calm starts plain
      cases (stays.lanes i _ found).symm.trans rfl
    | granted rests idle =>
      rw [unsaid rests]
      have same : setup.outlook answer (before.moveTo .admitted) = setup.outlook answer before := by
        rw [outlook, outlook, idle]
        rfl
      exact ⟨trivial, fun fate allows => foretold.allows fate (allows.congr same rfl rfl)⟩

/-- **A host whose worker is over has come to a fate that its answer allows.** -/
theorem Foretold.settled {lane : Lane} {lines : Stream → List (Stream × String)}
    (foretold : setup.Foretold answer lane lines) (gone : lane.worker = .gone false) :
    (answer.opening.outlook setup.cargo).Allows (setup.routing lane) none
      ⟨lane.record.phase, lane.record.exitCode, lane.record.failure, lines⟩ := by
  have last : setup.Allows answer lane
      (.quiet lane.record.phase lane.record.failure lane.record.exitCode) := by
    rw [Allows, outlook, gone]
    exact .settled _ _
  have whole := foretold.allows _ last
  rwa [Fate.said_quiet] at whole

end Setup

end Fleet
