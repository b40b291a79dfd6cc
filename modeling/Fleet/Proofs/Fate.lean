import Fleet.Proofs.Ending

/-!
# What an abort comes to

A host that has been asked to abort has its fate sealed: how far its worker has come says in which
phase the record will end (`Worker.fate`), and nothing that can happen changes it any more
(`Turn.fate`). Wherever the worker still looks whether it is to abort, the host fails, and it does
so within a number of turns none of which the worker has to wait for (`Turn.heeds`, `heeds_turn`).

A worker that waits for the end of its session does not look. There the session has the last word:
a host that was asked to abort when its streams had ended is done if its session ends well.

**The law** (`Run.sealed`): whatever happens to a host after it was asked to abort, its fate stays,
and while its worker looks, each turn brings the failure closer.
-/

namespace Fleet

/-- The phase that the end of a session leads to. -/
def Record.endsIn (record : Record) (outcome : Except HostError Termination) : Phase :=
  match outcome.bind fun termination => termination.verdict record with
  | .ok _ => .done
  | .error _ => .failed

namespace Worker

/-- The phase in which the record of a host ends that has been asked to abort. -/
def fate (record : Record) : Worker → Phase
  | relaying relay ending => if relay.isOpen then .failed else record.endsIn ending.outcome
  | reaping _ outcome => record.endsIn outcome
  | succeeding => .done
  | telling _ | claiming | signalling _ | aborting _ | raising => record.phase
  | leaving _ | announcing _ | gone _ => record.phase
  | _ => .failed

/-- Whether the worker still looks whether its host is to abort, or has failed already. -/
def heeds : Worker → Bool
  | connecting | opening .. | opened .. | attaching .. | sending .. => true
  | relaying relay _ => relay.isOpen
  | failing _ | marking _ => true
  | _ => false

/-- The end of the session, where the worker has nothing left to do but to wait for it. -/
def awaited : Worker → Option (Except HostError Termination)
  | relaying relay ending => if relay.isOpen then none else some ending.outcome
  | reaping _ outcome => some outcome
  | _ => none

/-- How many turns it takes at most until the host has failed. -/
def left : Worker → Nat
  | marking _ => 1
  | failing _ => 2
  | connecting | opening .. | relaying .. | sending false .. => 3
  | attaching .. => 4
  | opened .. => 5
  | sending true work _ _ => 4 + work.groups.length
  | _ => 0

end Worker

/-- The phase in which the record ends, given that the host has been asked to abort. -/
def Lane.fate (lane : Lane) : Phase := lane.worker.fate lane.record

/-- How a session ends for a host depends on the exit code that is noted, and on nothing else. -/
theorem Record.endsIn_congr {record record' : Record} (same : record'.exitCode = record.exitCode)
    (outcome : Except HostError Termination) : record'.endsIn outcome = record.endsIn outcome := by
  unfold endsIn
  cases outcome with
  | error e => rfl
  | ok termination =>
    cases termination with
    | exited status =>
      simp only [Except.bind, Termination.verdict, same]
      cases record.exitCode with
      | some code => rfl
      | none =>
        by_cases failed : status = ExitStatus.clientFailure
        · simp only [Option.isSome_none, Bool.false_eq_true, if_false, if_pos failed]
        · simp only [Option.isSome_none, Bool.false_eq_true, if_false, if_neg failed]
    | _ => rfl

/-- Being asked again changes nothing. -/
theorem Lane.fate_abort (lane : Lane) : lane.abort.fate = lane.fate := by
  have same : lane.abort.record.exitCode = lane.record.exitCode := rfl
  unfold Lane.fate
  rw [Lane.abort_worker]
  cases lane.worker with
  | relaying relay ending =>
    simp only [Worker.fate]
    split
    · rfl
    · exact Record.endsIn_congr same ending.outcome
  | reaping due outcome => exact Record.endsIn_congr same outcome
  | _ => rfl

namespace Setup

variable {setup : Setup} {s s' s₀ : State} {past later : List Moment}

/-- **An abort seals the fate of a host.** -/
theorem Turn.fate {i : Nat} {lane lane' : Lane} {t : State} (turn : setup.Turn s i lane lane' t)
    (agrees : lane.Agrees) (asked : lane.record.aborted = true) : lane'.fate = lane.fate := by
  have agrees' := turn.agrees agrees
  unfold Lane.fate
  unfold Lane.Agrees at agrees'
  cases turn with
  | ask _ calm | refused _ calm _ _ _ | crash _ calm _ _ _ | opened _ calm _ _ _ =>
    rw [asked] at calm
    cases calm
  | relay _ result =>
    have calm := (Relay.poll_advanced result).1
    rw [asked] at calm
    cases calm
  | @attach since plan here =>
    rw [here]
    show (setup.firstWork since plan).fate _ = _
    rcases setup.firstWork_cases since plan with ⟨relay, unended, same⟩ | ⟨_, _, same⟩ | same <;>
      rw [same]
    · simp only [Worker.fate, if_pos unended]
    · rfl
    · rfl
  | sent here _ _ =>
    rw [here]
    rfl
  | @relayed relay ending here result =>
    rw [here]
    have ended := Relay.poll_eq_finished_iff.mp result
    simp only [Worker.fate, ended, Bool.false_eq_true, if_false, Lane.moveTo]
  | @cutOff relay ending record e here result =>
    rw [here]
    simp only [Worker.fate, if_pos (Relay.isOpen_of_poll_failed result)]
  | reap here _ result | lose here _ result =>
    rw [here]
    simp only [Lane.moveTo, Worker.fate, Record.endsIn, result]
  | succeed here =>
    unfold Lane.Agrees at agrees
    rw [here] at agrees ⊢
    exact lane.advance_phase s.now (by rw [agrees.1]; rfl)
  | fail here =>
    rw [here]
    exact agrees'.1
  | tell here =>
    rw [here, Lane.moveTo_worker]
    split <;> rfl
  | abort here _ =>
    rw [here, Lane.moveTo_worker, Lane.moveTo_record]
    split <;> rfl
  | start here | skip here _ | giveUp here _ | connect here | stopSending here _ | send here _ _
  | spoilt here _ _ | pause here _ | note here | defer here _ | claim here _ | signal here _
  | signalled here _ | aborted here _ | raise here | leave here | announce here =>
    rw [here]
    rfl

/-! ## Workers that look -/

/-- **A worker that looks fails its host**: a turn brings it closer, and it goes on looking. -/
theorem Turn.heeds {i : Nat} {lane lane' : Lane} {t : State} (turn : setup.Turn s i lane lane' t)
    (agrees : lane.Agrees) (asked : lane.record.aborted = true)
    (heeds : lane.worker.heeds = true) :
    lane'.record.phase = .failed ∨
      lane'.worker.heeds = true ∧ lane'.worker.left < lane.worker.left := by
  unfold Lane.Agrees at agrees
  cases turn with
  | ask _ calm | refused _ calm _ _ _ | crash _ calm _ _ _ | opened _ calm _ _ _ =>
    rw [asked] at calm
    cases calm
  | relay _ result =>
    have calm := (Relay.poll_advanced result).1
    rw [asked] at calm
    cases calm
  | relayed here result =>
    rw [here] at heeds
    exact absurd heeds (Bool.eq_false_iff.mp (Relay.poll_eq_finished_iff.mp result))
  | skip here _ | giveUp here _ | connect here | stopSending here _ | cutOff here _ | note here =>
    rw [here]
    exact .inr ⟨rfl, by simp [Worker.left]⟩
  | @attach since plan here =>
    refine .inr ?_
    rw [here]
    show (setup.firstWork since plan).heeds = true ∧ (setup.firstWork since plan).left < _
    rcases setup.firstWork_cases since plan with ⟨relay, unended, same⟩ | ⟨_, _, same⟩ | same <;>
      rw [same]
    · exact ⟨unended, by simp [Worker.left]⟩
    · exact ⟨rfl, by simp [Worker.left]⟩
    · exact ⟨rfl, by simp [Worker.left]⟩
  | @send busy work next err ending warning here goes result =>
    obtain rfl : busy = true := goes.resolve_right (by simp [asked])
    rw [here]
    exact .inr ⟨rfl, Nat.add_lt_add_left (Sending.poll_advanced result) 4⟩
  | @sent busy _ _ _ _ _ _ here goes _ | @spoilt busy _ _ _ _ _ _ here goes _ =>
    obtain rfl : busy = true := goes.resolve_right (by simp [asked])
    rw [here]
    exact .inr ⟨rfl, Nat.lt_of_lt_of_le (by simp [Worker.left]) (Nat.le_add_right 4 _)⟩
  | pause here _ =>
    rw [here]
    exact .inr ⟨rfl, Nat.lt_of_lt_of_le (by simp [Worker.left]) (Nat.le_add_right 4 _)⟩
  | fail here =>
    rw [here] at agrees
    exact .inl (lane.advance_phase s.now (Phase.canAdvance_failed agrees.1))
  | start here | reap here _ _ | lose here _ _ | succeed here | tell here | defer here _
  | claim here _ | signal here _ | signalled here _ | abort here _ | aborted here _ | raise here
  | leave here | announce here =>
    rw [here] at heeds
    cases heeds

/-- **A worker that looks does not have to wait.** -/
theorem heeds_turn {i : Nat} {lane : Lane} (found : s.lanes[i]? = some lane)
    (asked : lane.record.aborted = true) (heeds : lane.worker.heeds = true) :
    ∃ t, setup.step? s (.act (.worker i)) = some t := by
  show ∃ t, setup.workerStep? s i = some t
  unfold workerStep?
  rw [found, Option.bind_some]
  cases here : lane.worker with
  | connecting | opening since attempt => exact ⟨_, if_pos asked⟩
  | opened | attaching | failing | marking => exact ⟨_, rfl⟩
  | sending busy work err ending =>
    simp only [send?, asked, Bool.and_true]
    cases busy with
    | false => exact ⟨_, rfl⟩
    | true => cases work.poll setup.fs s.now <;> exact ⟨_, rfl⟩
  | relaying relay ending =>
    rw [here] at heeds
    simp only [relay?, Relay.poll_of_aborted heeds asked]
    exact ⟨_, rfl⟩
  | waiting | admitted | reaping | succeeding | telling | claiming | signalling | aborting | raising
  | leaving | announcing | gone =>
    rw [here] at heeds
    cases heeds

/-- How many turns the worker of a host took. -/
def turns (i : Nat) (past : List Moment) : Nat :=
  (past.map Moment.event).countP (Event.isTurn i)

theorem turns_snoc (i : Nat) (past : List Moment) (moment : Moment) :
    turns i (past ++ [moment]) = turns i past + if moment.event.isTurn i then 1 else 0 := by
  rw [turns, List.map_append, List.countP_append, List.map_singleton, List.countP_singleton]
  rfl

/-- **What is sealed stays sealed along a run.** -/
theorem Run.sealed {dispatch : Dispatch} {i : Nat} {lane : Lane}
    (starts : dispatch.Starts setup s₀) (first : setup.Run s₀ past s)
    (found : s.lanes[i]? = some lane) (asked : lane.record.aborted = true)
    (second : setup.Run s later s') :
    ∃ lane', s'.lanes[i]? = some lane' ∧ lane'.record.aborted = true ∧ lane'.fate = lane.fate ∧
      (lane.worker.heeds = true → lane'.record.phase = .failed ∨
        lane'.worker.heeds = true ∧ lane'.worker.left + turns i later ≤ lane.worker.left) := by
  induction second with
  | nil => exact ⟨lane, found, asked, rfl, fun heeds => .inr ⟨heeds, Nat.le_refl _⟩⟩
  | @snoc later u u' e run step ih =>
    obtain ⟨before, there, asked, same, close⟩ := ih
    have agrees := (first.append run).agrees starts there
    have step := step?_step step
    obtain ⟨after, found', passage⟩ := step.lane ((first.append run).orderly starts) there
    refine ⟨after, found', ?_⟩
    rw [turns_snoc]
    cases passage with
    | turn own turn _ =>
      subst own
      refine ⟨turn.edits.aborted asked, (turn.fate agrees asked).trans same, ?_⟩
      intro heeds
      rcases close heeds with failed | ⟨heeds, near⟩
      · have ended : before.record.phase.isTerminal = true := by rw [failed]; rfl
        exact .inl ((turn.edits.moves.of_isTerminal ended).trans failed)
      · rcases turn.heeds agrees asked heeds with failed | ⟨heeds, nearer⟩
        · exact .inl failed
        · refine .inr ⟨heeds, ?_⟩
          simp only [Event.isTurn, beq_self_eq_true, if_true]
          omega
    | same rests =>
      rw [Event.isTurn_eq_false rests, if_neg Bool.false_ne_true, Nat.add_zero]
      exact ⟨asked, same, close⟩
    | asked rests =>
      rw [Event.isTurn_eq_false rests, if_neg Bool.false_ne_true, Nat.add_zero]
      exact ⟨rfl, before.fate_abort.trans same, close⟩
    | granted rests idle =>
      -- a worker that waits for its slot does not look, so there is nothing to be closer to
      refine ⟨asked, ?_, ?_⟩
      · rw [← same, Lane.fate, Lane.fate, idle]
        rfl
      · intro heeds
        rcases close heeds with failed | ⟨looks, _⟩
        · exact .inl failed
        · rw [idle] at looks
          cases looks

end Setup

/-! ## Which fate it is -/

theorem Record.endsIn_eq_failed_iff {record : Record} {outcome : Except HostError Termination} :
    record.endsIn outcome = .failed ↔
      ∃ e, (outcome.bind fun termination => termination.verdict record) = .error e := by
  unfold endsIn
  cases result : outcome.bind fun termination => termination.verdict record with
  | ok record' => simp
  | error e => simp

namespace Lane

variable {lane : Lane}

/-- A record that has come to its end stays there. -/
theorem Agrees.fate_of_isTerminal (agrees : lane.Agrees)
    (ended : lane.record.phase.isTerminal = true) : lane.fate = lane.record.phase := by
  unfold Agrees at agrees
  unfold fate
  cases here : lane.worker with
  | telling | claiming | signalling | aborting | raising | leaving | announcing | gone => rfl
  | failing | marking =>
    rw [here] at agrees
    rw [Phase.isTerminal_of_isActive agrees.1] at ended
    cases ended
  | _ =>
    rw [here] at agrees
    rw [agrees.1] at ended
    cases ended

/-- A busy host that has been asked to abort fails exactly if its worker still looks, or if it waits
for the end of a session that ends badly. -/
theorem Agrees.fate_eq_failed_iff (agrees : lane.Agrees)
    (active : lane.record.phase.isActive = true) :
    lane.fate = .failed ↔ lane.worker.heeds = true ∨
      ∃ outcome e, lane.worker.awaited = some outcome ∧
        (outcome.bind fun termination => termination.verdict lane.record) = .error e := by
  unfold Agrees at agrees
  unfold fate
  cases here : lane.worker with
  | connecting | opening | opened | attaching | sending | failing | marking =>
    exact iff_of_true rfl (.inl rfl)
  | relaying relay ending =>
    simp only [Worker.fate, Worker.heeds, Worker.awaited]
    by_cases unended : relay.isOpen = true
    · simp [unended]
    · simp [unended, Record.endsIn_eq_failed_iff]
  | reaping due outcome =>
    simp [Worker.fate, Worker.heeds, Worker.awaited, Record.endsIn_eq_failed_iff]
  | succeeding => simp [Worker.fate, Worker.heeds, Worker.awaited]
  | leaving crashed | announcing crashed | gone crashed =>
    rw [here] at agrees
    cases crashed with
    | false =>
      rcases agrees with ⟨phase, -⟩ | ⟨phase, -⟩ <;> rw [phase] at active <;> cases active
    | true => simp [Worker.fate, Worker.heeds, Worker.awaited, agrees.1]
  | waiting | admitted | telling | claiming | signalling | aborting | raising =>
    rw [here] at agrees
    rw [agrees.1] at active
    cases active

end Lane

namespace Worker

theorem left_pos {worker : Worker} (heeds : worker.heeds = true) : 0 < worker.left := by
  cases worker with
  | sending busy work err ending =>
    cases busy with
    | false => exact Nat.zero_lt_succ _
    | true => exact Nat.lt_of_lt_of_le (by decide) (Nat.le_add_right 4 _)
  | connecting | opening | opened | attaching | relaying | failing | marking =>
    exact Nat.zero_lt_succ _
  | _ => cases heeds

end Worker

namespace Setup

variable {setup : Setup} {s s' s₀ : State} {past later : List Moment}

/-- **What comes of a busy host that has been asked to abort**, in every run and on every account.

When its worker is over its record is in the phase that its fate says. That phase is the failed one
exactly if the worker still looked whether to abort, or if it only waited for the end of a session
that ends badly; and then the host is never done. A worker that looks has failed its host after
`left` turns of its own at most, and until then there is always a turn that it can take. -/
theorem Run.abort_outcome {dispatch : Dispatch} {i : Nat} {lane lane' : Lane}
    (starts : dispatch.Starts setup s₀) (first : setup.Run s₀ past s)
    (found : s.lanes[i]? = some lane) (asked : lane.record.aborted = true)
    (active : lane.record.phase.isActive = true) (second : setup.Run s later s')
    (found' : s'.lanes[i]? = some lane') :
    (lane'.worker.isGone = true → lane'.record.phase = lane.fate) ∧
    (lane.fate = .failed ↔ lane.worker.heeds = true ∨
      ∃ outcome e, lane.worker.awaited = some outcome ∧
        (outcome.bind fun termination => termination.verdict lane.record) = .error e) ∧
    (lane.fate = .failed → lane'.record.phase ≠ .done) ∧
    (lane.worker.heeds = true →
      (lane.worker.left ≤ turns i later → lane'.record.phase = .failed) ∧
      (lane'.record.phase = .failed ∨ ∃ t, setup.step? s' (.act (.worker i)) = some t)) := by
  obtain ⟨after, there, asked', same, close⟩ := first.sealed starts found asked second
  obtain rfl : after = lane' := Option.some.inj (there.symm.trans found')
  have agrees := first.agrees starts found
  have agrees' := (first.append second).agrees starts found'
  refine ⟨?_, agrees.fate_eq_failed_iff active, ?_, ?_⟩
  · intro gone
    rw [← same]
    cases here : after.worker with
    | gone crashed => rw [Lane.fate, here]; rfl
    | _ => rw [here] at gone; cases gone
  · intro fails done
    have kept := agrees'.fate_of_isTerminal (by rw [done]; rfl)
    rw [same, fails, done] at kept
    cases kept
  · intro heeds
    constructor
    · intro enough
      rcases close heeds with failed | ⟨looks, near⟩
      · exact failed
      · have ahead := Worker.left_pos looks
        omega
    · rcases close heeds with failed | ⟨looks, _⟩
      · exact .inl failed
      · exact .inr (heeds_turn found' asked' looks)

/-- One host whose session opens at once, with a second to execute. -/
def oneSecond (plan : SessionPlan) : Dispatch :=
  .ofScript (fun _ => ⟨some 0, .session plan⟩) ["a"]
    { limits := ⟨0, Time.second⟩, localUser := "u" }

/-- A host whose session hangs is asked to abort by the watchdog, and fails in three turns. -/
theorem Run.abort_outcome_oneSecond :
    ∃ setup s₀ past s lane later s' lane',
      (oneSecond { stdout := ⟨[], .never⟩ }).Starts setup s₀ ∧ setup.Run s₀ past s ∧
      s.lanes[0]? = some lane ∧ lane.record.aborted = true ∧
      lane.record.phase.isActive = true ∧ setup.Run s later s' ∧ s'.lanes[0]? = some lane' ∧
      lane.worker.left ≤ turns 0 later ∧ lane'.record.phase = .failed := by
  have starts := Dispatch.ofScript.starts (fun _ => ⟨some 0, .session { stdout := ⟨[], .never⟩ }⟩)
    { limits := ⟨0, Time.second⟩, localUser := "u" } "a" []
  obtain ⟨past, first, -⟩ := starts.run.further
    [.act .dispatcher, .act .dispatcher, .act (.worker 0), .act (.worker 0), .act (.worker 0),
      .act (.worker 0), .act (.worker 0), .clock Watchdog.interval, .act .watchdog,
      .act .watchdog, .act .watchdog] rfl
  obtain ⟨later, second, events⟩ :=
    first.further [.act (.worker 0), .act (.worker 0), .act (.worker 0)] rfl
  have enough : turns 0 later = 3 := by
    rw [turns, events]
    rfl
  obtain ⟨-, -, -, looks⟩ := abort_outcome (i := 0) starts first rfl rfl rfl second rfl
  exact ⟨_, _, past, _, _, later, _, _, starts, first, rfl, rfl, rfl, second, rfl,
    Nat.le_of_eq enough.symm, (looks rfl).1 (Nat.le_of_eq enough.symm)⟩

/-- **An abort does not reach a host that waits for the end of its session.** Its streams have ended
when the watchdog asks it to abort, the session ends well later, and the host is done. -/
theorem abort_outcome_fails :
    ¬ ∀ (dispatch : Dispatch) (setup : Setup) (s₀ s s' : State) (past later : List Moment) (i : Nat)
      (lane lane' : Lane), dispatch.Starts setup s₀ → setup.Run s₀ past s →
      s.lanes[i]? = some lane → lane.record.aborted = true →
      lane.record.phase.isActive = true → setup.Run s later s' → s'.lanes[i]? = some lane' →
        lane'.record.phase ≠ .done := by
  intro failed
  have starts := Dispatch.ofScript.starts (fun _ => ⟨some 0, .session
    { stdout := .empty, reap := ⟨5 * Time.second, .ok (.exited 0)⟩ }⟩)
    { limits := ⟨0, Time.second⟩, localUser := "u" } "a" []
  obtain ⟨past, first, -⟩ := starts.run.further
    [.act .dispatcher, .act .dispatcher, .act (.worker 0), .act (.worker 0), .act (.worker 0),
      .act (.worker 0), .act (.worker 0), .act (.worker 0), .act (.worker 0),
      .clock Watchdog.interval, .act .watchdog, .act .watchdog, .act .watchdog] rfl
  obtain ⟨later, second, -⟩ :=
    first.further [.clock (5 * Time.second), .act (.worker 0), .act (.worker 0)] rfl
  exact failed _ _ _ _ _ _ _ 0 _ _ starts first rfl rfl rfl second rfl rfl

end Setup

end Fleet
