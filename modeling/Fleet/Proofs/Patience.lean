import Fleet.Proofs.Foretold
import Fleet.Proofs.Reports

/-!
# Nobody is found late too early

In a run that neither a failed host nor the user ends, the only one to ask hosts to abort is the
watchdog, and it goes by the times that are noted on their records. `Dwells` reads from the history
since when a host has been in its phase, and the times on the records agree with it (`Run.dwells`).
So whoever fails as interrupted can be traced back to a look at its record by which it had overstayed
(`Run.found_late`).

The watchdog looks first and asks then, and a host does not stand still in between. What it is asked
for can be over by the time that it is asked: a host found late while connecting may be executing by
then, or done (`patience_fails`).

An error that says "interrupted" can also be the backend's own answer to a worker, which then passes
it on. No backend is known to give that answer, and it is kept apart here (`Moment.Hears`).

**The law** (`Run.patience`): a host is asked to abort by the watchdog only, which has found it late
just before, in the same scan; then it had been in a phase with a limit for longer than that; and
nothing else is changed by the watchdog.
-/

namespace Fleet

/-! ## Who says that a host was interrupted -/

/-- Whether the error says that the host was aborted. -/
def HostError.isInterrupted : HostError → Bool
  | interrupted _ => true
  | _ => false

namespace Acknowledgement

/-- An answer that ends a copy is not an interrupt. -/
private theorem judgeBytes_interrupted {code : UInt8} {bytes : Bytes} {e : HostError}
    (failed : judgeBytes code bytes = .failed e) : e.isInterrupted = false := by
  unfold judgeBytes judge at failed
  split at failed
  · split at failed
    · cases failed
    · split at failed <;> cases failed <;> rfl
  · cases failed
    rfl

private theorem poll_interrupted {progress : Progress} {lines : LineReader} {now : Time}
    {e : HostError} (failed : (poll progress lines now).1 = .failed e) :
    e.isInterrupted = false := by
  have text {code : UInt8} {lines : LineReader} (failed : (pollText code lines now).1 = .failed e) :
      e.isInterrupted = false := by
    unfold pollText at failed
    split at failed
    · exact judgeBytes_interrupted failed
    · exact judgeBytes_interrupted failed
    · exact judgeBytes_interrupted failed
    · cases failed; rfl
    · cases failed
  unfold poll at failed
  split at failed
  · exact text failed
  · split at failed
    · split at failed
      · cases failed
      · exact text failed
    · cases failed; rfl
    · cases failed; rfl
    · cases failed

end Acknowledgement

/-- A group that cannot be sent is not an interrupt. -/
private theorem Copy.sendGroup_interrupted {fs : FileSystem} {sink sink' : Sink}
    {group : Copy.Group} {e : HostError}
    (failed : Copy.sendGroup fs sink group = (.error e, sink')) :
    e.isInterrupted = false := by
  unfold sendGroup at failed
  split at failed
  · split at failed <;> cases failed
    rfl
  · split at failed
    · cases failed; rfl
    · split at failed
      · cases failed; rfl
      · split at failed
        · cases failed; rfl
        · split at failed
          · cases failed; rfl
          · split at failed <;> cases failed
            rfl

/-- A copy does not fail by itself as interrupted. -/
theorem Sending.poll_interrupted {fs : FileSystem} {sending : Sending} {now : Time}
    {warning : Option String} {e : HostError} {sink : Sink}
    (failed : sending.poll fs now = .failed warning e sink) : e.isInterrupted = false := by
  have proceeds {note : Option String} {answers : LineReader}
      (failed : sending.proceed fs note answers = .failed warning e sink) :
      e.isInterrupted = false := by
    unfold proceed at failed
    split at failed
    · cases failed
    · split at failed
      · cases failed
      · next sent => cases failed; exact Copy.sendGroup_interrupted sent
  unfold poll at failed
  split at failed
  · exact proceeds failed
  · exact proceeds failed
  · next e' _ _ answer =>
    cases failed
    exact Acknowledgement.poll_interrupted (congrArg Prod.fst answer)
  · cases failed

/-- Relaying fails as interrupted for a host that was asked to abort, and for no other. -/
theorem Relay.poll_interrupted {routing : Routing} {now : Time} {record record' : Record}
    {console : Console} {relay : Relay} {e : HostError} (calm : record.aborted = false)
    (failed : relay.poll routing now record console = .failed record' e) :
    e.isInterrupted = false := by
  unfold poll at failed
  rw [calm] at failed
  split at failed
  · cases failed
  · simp only [Bool.false_eq_true, if_false] at failed
    split at failed
    · next bytes rest _ =>
      obtain ⟨code, ⟨console', same⟩ | same⟩ :=
        emitOut_cases routing now record console bytes { relay with out := some rest }
      · cases same.symm.trans failed
      · cases same.symm.trans failed; rfl
    · cases failed
    · cases failed; rfl
    · next out _ =>
      split at failed
      · next bytes rest _ =>
        rcases emitErr_cases routing now record console bytes ⟨out, some rest⟩ with
          ⟨console', same⟩ | same
        · cases same.symm.trans failed
        · cases same.symm.trans failed; rfl
      · cases failed
      · cases failed; rfl
      · cases failed

/-- The end of a session does not fail a host as interrupted, if it is known. -/
theorem Termination.verdict_interrupted {termination : Termination} {record : Record}
    {e : HostError} (failed : termination.verdict record = .error e) :
    e.isInterrupted = false := by
  unfold verdict at failed
  split at failed
  · cases failed; rfl
  · split at failed
    · cases failed
    · split at failed <;> cases failed
      rfl
  · cases failed

/-- The error is what the backend has answered to the worker. -/
def Worker.Hears (e : HostError) : Worker → Prop
  | opening _ attempt => attempt.opening = .refused e
  | reaping _ outcome => outcome = .error e
  | _ => False

namespace Setup

variable {setup : Setup} {s s' s₀ : State} {past : List Moment} {dispatch : Dispatch}

/-- **Who fails as interrupted** was asked to abort, or has it from the backend. -/
theorem Turn.interrupted {i : Nat} {lane lane' : Lane} {t : State} {p : Phase}
    (turn : setup.Turn s i lane lane' t) (fails : lane'.worker = .failing (.interrupted p)) :
    lane.record.aborted = true ∨ lane.worker.Hears (.interrupted p) := by
  cases turn with
  | skip _ asked | giveUp _ asked | stopSending _ asked => exact .inl asked
  | refused here _ _ _ result =>
    obtain rfl := Worker.failing.inj fails
    rw [here]
    exact .inr result
  | spoilt _ _ result =>
    obtain rfl := Worker.failing.inj fails
    cases Sending.poll_interrupted result
  | cutOff _ result =>
    obtain rfl := Worker.failing.inj fails
    refine .inl (Bool.of_not_eq_false fun calm => ?_)
    cases Relay.poll_interrupted calm result
  | @lose _ outcome _ here _ result =>
    obtain rfl := Worker.failing.inj fails
    cases outcome with
    | error e =>
      obtain rfl := Except.error.inj result
      rw [here]
      exact .inr rfl
    | ok termination =>
      have known : termination.verdict lane.record = .error (.interrupted p) := result
      cases Termination.verdict_interrupted known
  | @attach since plan =>
    -- a session that is taken up can only want an input
    have same : setup.firstWork since plan = .failing (.interrupted p) := fails
    rcases setup.firstWork_cases since plan with ⟨_, -, work⟩ | ⟨_, _, work⟩ | work
    all_goals cases same.symm.trans work
  | tell =>
    rw [Lane.moveTo_worker] at fails
    split at fails <;> cases fails
  | _ => cases fails

end Setup

/-! ## Since when a host has been in its phase -/

/-- The time that is noted for the phase of a host that is busy. -/
def Record.since (record : Record) : Option Time :=
  match record.phase with
  | .connecting => record.startedAt
  | .executing => record.connectedAt
  | _ => none

/-- A host that enters a phase in which it is busy has the time noted. -/
theorem Record.since_of_step {now : Time} {record : Record} {next : Phase}
    (legal : record.phase.canAdvance next = true) (stamped : record.Stamped now)
    (active : next.isActive = true) :
    ({ record with phase := next }.stamp now next).since = some now := by
  unfold Stamped at stamped
  cases next with
  | connecting =>
    have here : record.phase = .new := by
      cases here : record.phase <;> rw [here] at legal <;> first | rfl | cases legal
    rw [here] at stamped
    simp only [since, stamp, stamped.1, Option.none_or]
  | executing =>
    have here : record.phase = .connecting := by
      cases here : record.phase <;> rw [here] at legal <;> first | rfl | cases legal
    rw [here] at stamped
    simp only [since, stamp, stamped.2, Option.none_or]
  | new | done | failed => cases active

/-- A host that has begun stays so. -/
theorem Record.Moves.begun {now : Time} {record record' : Record} (moves : record.Moves now record')
    (begun : record.phase ≠ .new) : record'.phase ≠ .new := by
  cases moves with
  | stays phase => rwa [phase]
  | @steps next legal =>
    rw [Record.stamp_phase]
    rintro rfl
    cases here : record.phase <;> rw [here] at legal <;> cases legal

namespace Setup

variable {setup : Setup} {s s' s₀ : State} {past : List Moment} {dispatch : Dispatch}

/-- A host entered a phase at a moment of the history, and no other phase since. -/
def Dwells (i : Nat) (p : Phase) (since : Time) (past : List Moment) : Prop :=
  ∃ earlier entry later, past = earlier ++ entry :: later ∧ entry.entered i = some p ∧
    entry.before.now = since ∧ ∀ moment ∈ later, moment.entered i = none

theorem Dwells.snoc {i : Nat} {p : Phase} {since : Time} {moment : Moment}
    (dwells : Dwells i p since past) (stays : moment.entered i = none) :
    Dwells i p since (past ++ [moment]) := by
  obtain ⟨earlier, entry, later, rfl, entered, time, quiet⟩ := dwells
  refine ⟨earlier, entry, later ++ [moment], ?_, entered, time, ?_⟩
  · rw [List.append_assoc, List.cons_append]
  · intro other among
    rcases List.mem_append.mp among with before | last
    · exact quiet other before
    · obtain rfl := List.mem_singleton.mp last
      exact stays

/-- **The time on a record is that at which its host entered its phase.** -/
theorem Run.dwells (run : setup.Run s₀ past s) (starts : dispatch.Starts setup s₀) {i : Nat}
    {lane : Lane} (found : s.lanes[i]? = some lane) (active : lane.record.phase.isActive = true) :
    ∃ since, lane.record.since = some since ∧ Dwells i lane.record.phase since past := by
  induction run generalizing lane with
  | nil =>
    rw [(starts.fresh found).phase] at active
    cases active
  | @snoc past t t' e run step ih =>
    obtain ⟨before, there, moves, -⟩ := (step?_step step).moves (run.orderly starts) found
    have entered : Moment.entered i ⟨t, e, t'⟩
        = if lane.record.phase = before.record.phase then none else some lane.record.phase := by
      simp only [Moment.entered, there, found]
    have stamped := run.stamped starts there
    have earlier := ih there
    generalize lane.record = record at moves entered active ⊢
    cases moves with
    | stays phase startedAt connectedAt =>
      rw [if_pos phase] at entered
      rw [phase] at active ⊢
      obtain ⟨since, noted, dwells⟩ := earlier active
      refine ⟨since, ?_, dwells.snoc entered⟩
      rw [← noted]
      unfold Record.since
      rw [phase, startedAt, connectedAt]
    | @steps next legal =>
      rw [Record.stamp_phase] at entered active ⊢
      rw [if_neg (Phase.ne_of_canAdvance legal)] at entered
      exact ⟨t.now, Record.since_of_step legal stamped active, past, _, [], rfl, entered, rfl,
        fun _ among => absurd among List.not_mem_nil⟩

/-- A host has been in a phase with a limit for longer than that. -/
def Overstays (limits : Timeouts) (i : Nat) (now : Time) (past : List Moment) : Prop :=
  (limits.connect ≠ 0 ∧ ∃ since, Dwells i .connecting since past ∧ since + limits.connect < now) ∨
    limits.command ≠ 0 ∧ ∃ since, Dwells i .executing since past ∧ since + limits.command < now

end Setup

/-! ## What a look does -/

namespace Timeouts

variable {limits : Timeouts} {now : Time} {record : Record}

/-- The host has been in a phase with a limit for longer than that, as the times on its record have
it. -/
def Overdue (limits : Timeouts) (now : Time) (record : Record) : Prop :=
  (record.phase = .connecting ∧ limits.connect ≠ 0 ∧
    ∃ since, record.startedAt = some since ∧ since + limits.connect < now) ∨
  (record.phase = .executing ∧ limits.command ≠ 0 ∧
    ∃ since, record.connectedAt = some since ∧ since + limits.command < now)

theorem expired_iff : limits.expired record now = true ↔ limits.Overdue now record := by
  have late (limit : Time) (noted : Option Time) :
      (noted.any fun start => decide (limit < now - start)) = true ↔
        ∃ since, noted = some since ∧ since + limit < now := by
    cases noted with
    | none => simp
    | some start =>
      simp only [Option.any_some, decide_eq_true_eq, Option.some.injEq, exists_eq_left']
      exact Nat.lt_sub_iff_add_lt'
  unfold expired Overdue
  cases record.phase <;> simp [late]

/-- Found late is who is overdue and has not been asked. -/
theorem catches_iff :
    limits.catches record now = true ↔ record.aborted = false ∧ limits.Overdue now record := by
  rw [← expired_iff, catches, Bool.and_eq_true, Bool.not_eq_true']

end Timeouts

/-- A host is asked to abort that was not asked before. -/
def Moment.Asks (i : Nat) (moment : Moment) : Prop :=
  ∃ lane lane', moment.before.lanes[i]? = some lane ∧ moment.after.lanes[i]? = some lane' ∧
    lane.record.aborted = false ∧ lane'.record.aborted = true

/-- The worker of a host fails it with an error. -/
def Moment.Fails (i : Nat) (e : HostError) (moment : Moment) : Prop :=
  moment.event = .act (.worker i) ∧
    ∃ lane, moment.after.lanes[i]? = some lane ∧ lane.worker = .failing e

/-- The error is what the backend has answered to the worker of a host. -/
def Moment.Hears (i : Nat) (e : HostError) (moment : Moment) : Prop :=
  ∃ lane, moment.before.lanes[i]? = some lane ∧ lane.worker.Hears e

/-- When the scan began that is under way. -/
def Watchdog.began? : Watchdog → Option Time
  | scanning began _ | firing began _ => some began
  | _ => none

/-- The watchdog finds the record of a host late. -/
def Moment.Finds (i : Nat) (moment : Moment) : Prop :=
  moment.event = .act .watchdog ∧
    ∃ began, moment.before.watchdog = .scanning began i ∧ moment.after.watchdog = .firing began i

namespace Setup

variable {setup : Setup} {s s' s₀ : State} {past : List Moment} {dispatch : Dispatch}

/-- Nobody else moves the watchdog. -/
theorem Step.watchdog {e : Event} (step : setup.Step s e s') (other : e ≠ .act .watchdog) :
    s'.watchdog = s.watchdog := by
  cases step with
  | work _ turn => exact turn.watchdog
  | wake | spot | spare | fire | rest => exact absurd rfl other
  | _ => rfl

/-- **Who is asked to abort** where no worker takes the run down and the user does not interrupt: a
host that the watchdog is about to ask. -/
theorem Step.asks {e : Event} {i : Nat} (step : setup.Step s e s')
    (listening : s.interrupter = .listening)
    (plain : ∀ (i : Nat) (lane : Lane), s.lanes[i]? = some lane →
      lane.worker.isInLockstep = false) (asks : Moment.Asks i ⟨s, e, s'⟩) :
    e = .act .watchdog ∧ ∃ began, s.watchdog = .firing began i := by
  obtain ⟨lane, lane', found, found', calm, asked⟩ := asks
  have differs : lane' ≠ lane := by
    rintro rfl
    cases calm.symm.trans asked
  cases step with
  | @work j lane₂ lane₃ t there turn =>
    obtain ⟨kept, others⟩ := turn.unasked (plain j lane₂ there)
    -- its own flag is kept, and the other lanes are as they were
    exfalso
    by_cases own : j = i
    · subst own
      obtain rfl : lane₂ = lane := Option.some.inj (there.symm.trans found)
      obtain rfl : lane₃ = lane' := Option.some.inj ((turn.lane there).symm.trans found')
      cases calm.symm.trans (kept.symm.trans asked)
    · have same : (t.putLane j lane₃).lanes[i]? = some lane' := found'
      rw [State.putLane_lane_ne t own, others, found] at same
      exact differs (Option.some.inj same).symm
  | @grant next noticed gate here _ =>
    have moved : (s.lanes.modify next (·.moveTo .admitted))[i]? = some lane' := found'
    rw [List.getElem?_modify, found] at moved
    obtain rfl := Option.some.inj moved
    split at asked <;> cases calm.symm.trans asked
  | @fire began next here =>
    have moved : (s.abortHost next).lanes[i]? = some lane' := found'
    rw [State.abortHost_lane, found] at moved
    obtain rfl := Option.some.inj moved
    by_cases own : next = i
    · exact ⟨rfl, began, own ▸ here⟩
    · exact absurd (if_neg own) differs
  | abort here =>
    rw [listening] at here
    cases here
  | _ => exact absurd (Option.some.inj (found'.symm.trans found)) differs

/-- A scan has begun before. -/
theorem Run.began (run : setup.Run s₀ past s) (starts : dispatch.Starts setup s₀) {began : Time}
    (scans : began ∈ s.watchdog.began?) : began ≤ s.now := by
  refine run.preserves (P := fun u => ∀ began ∈ u.watchdog.began?, began ≤ u.now) ?_ ?_ began scans
  · obtain ⟨prepared⟩ := starts
    intro began scans
    by_cases disabled : dispatch.options.limits.isDisabled = true <;>
      simp [State.start, Watchdog.start, disabled, Watchdog.began?] at scans
  · intro u e u' step past began scans
    have forward := step.now
    by_cases other : e = .act .watchdog
    · subst other
      cases step with
      | wake => exact Nat.le_of_eq (Option.some.inj scans).symm
      | spot before | spare before | fire before => exact past began (by rw [before]; exact scans)
      | rest => cases scans
    · rw [step.watchdog other] at scans
      exact Nat.le_trans (past began scans) forward

/-- **A host that is about to be asked to abort was found late**, and the watchdog has done nothing
since. Its host has begun, and is where it was found if its worker has rested. -/
theorem Run.found_late (run : setup.Run s₀ past s) (starts : dispatch.Starts setup s₀)
    {began : Time} {i : Nat} (here : s.watchdog = .firing began i) :
    ∃ earlier look between lane, past = earlier ++ look :: between ∧ look.Finds i ∧
      look.before.watchdog = .scanning began i ∧ look.before.lanes[i]? = some lane ∧
      setup.options.limits.Overdue began lane.record ∧
      (∀ moment ∈ between, moment.event ≠ .act .watchdog) ∧
      ∀ lane', s.lanes[i]? = some lane' → lane'.record.phase ≠ .new ∧
        ((∀ moment ∈ between, moment.event ≠ .act (.worker i)) →
          lane'.record.phase = lane.record.phase) := by
  induction run with
  | nil =>
    obtain ⟨prepared⟩ := starts
    by_cases disabled : dispatch.options.limits.isDisabled = true <;>
      simp [State.start, Watchdog.start, disabled] at here
  | @snoc past t t' e run step ih =>
    have step := step?_step step
    by_cases own : e = .act .watchdog
    · subst own
      cases step with
      | @spot began next lane scans found late =>
        obtain ⟨rfl, rfl⟩ := Watchdog.firing.inj here
        obtain ⟨-, overdue⟩ := Timeouts.catches_iff.mp late
        refine ⟨past, _, [], lane, rfl, ⟨rfl, _, scans, rfl⟩, scans, found, overdue,
          fun _ among => absurd among List.not_mem_nil, fun lane' found' => ?_⟩
        obtain rfl := Option.some.inj (found.symm.trans found')
        refine ⟨?_, fun _ => rfl⟩
        rcases overdue with ⟨phase, -⟩ | ⟨phase, -⟩ <;> rw [phase] <;> exact Phase.noConfusion
      | wake | spare | fire | rest => cases here
    · obtain ⟨earlier, look, between, lane, rfl, finds, scans, found, overdue, rests, stays⟩ :=
        ih ((step.watchdog own).symm.trans here)
      refine ⟨earlier, look, between ++ [⟨t, e, t'⟩], lane, ?_, finds, scans, found, overdue, ?_,
        fun lane' found' => ?_⟩
      · rw [List.append_assoc, List.cons_append]
      · intro moment among
        rcases List.mem_append.mp among with before | last
        · exact rests moment before
        · obtain rfl := List.mem_singleton.mp last
          exact own
      · obtain ⟨before, there, passage⟩ := step.lane_before (run.orderly starts) found'
        obtain ⟨begun, same⟩ := stays before there
        have quiet (all : ∀ moment ∈ between ++ [⟨t, e, t'⟩], moment.event ≠ .act (.worker i)) :=
          same fun moment among => all moment (List.mem_append_left _ among)
        cases passage with
        | turn works turn after =>
          refine ⟨?_, fun all => absurd works (all _ (List.mem_append_right _
            (List.mem_singleton_self _)))⟩
          exact turn.edits.moves.begun begun
        | same | asked | granted => exact ⟨begun, quiet⟩

/-- Whoever has been asked to abort was asked at some moment. -/
theorem Run.asked (run : setup.Run s₀ past s) (starts : dispatch.Starts setup s₀) {i : Nat}
    {lane : Lane} (found : s.lanes[i]? = some lane) (asked : lane.record.aborted = true) :
    ∃ before look after, past = before ++ look :: after ∧ look.Asks i := by
  induction run generalizing lane with
  | nil => cases asked.symm.trans (starts.fresh found).aborted
  | @snoc past t t' e run step ih =>
    obtain ⟨lane₂, there, -⟩ := (step?_step step).moves (run.orderly starts) found
    cases flag : lane₂.record.aborted with
    | false => exact ⟨past, _, [], rfl, lane₂, lane, there, found, flag, asked⟩
    | true =>
      obtain ⟨before, look, after, rfl, asks⟩ := ih there flag
      exact ⟨before, look, after ++ [⟨t, e, t'⟩], by simp, asks⟩

/-- The watchdog asks a host to abort, after these moments, since it has found it late in one of
them. -/
structure TimesOut (limits : Timeouts) (i : Nat) (earlier : List Moment) (look : Moment)
    (between : List Moment) (fire : Moment) : Prop where
  asks : fire.event = .act .watchdog ∧ fire.Asks i
  finds : look.Finds i
  /-- When it was found late, it was connecting or executing, and had overstayed. -/
  active : ∃ lane, look.before.lanes[i]? = some lane ∧ lane.record.phase.isActive = true
  overstays : Overstays limits i look.before.now earlier
  /-- The watchdog has done nothing in between. -/
  rests : ∀ moment ∈ between, moment.event ≠ .act .watchdog
  /-- The host has begun, and is where it was if its worker has done nothing in between. -/
  stays : ∀ lane lane', look.before.lanes[i]? = some lane → fire.before.lanes[i]? = some lane' →
    lane'.record.phase ≠ .new ∧ ((∀ moment ∈ between, moment.event ≠ .act (.worker i)) →
      lane'.record.phase = lane.record.phase)

/-- **Whoever is asked to abort has been found late.** -/
theorem Run.asks {before after : List Moment} {fire : Moment} {i : Nat}
    (run : setup.Run s₀ past s) (starts : dispatch.Starts setup s₀)
    (apart : dispatch.backend.lockstep = false)
    (calm : ∀ moment ∈ past, moment.event ≠ .interrupt)
    (whole : past = before ++ fire :: after) (asks : fire.Asks i) :
    ∃ earlier look between, before = earlier ++ look :: between ∧
      TimesOut dispatch.options.limits i earlier look between fire := by
  obtain ⟨first, step, -⟩ := run.cut whole
  have listening := first.listening starts fun moment among =>
    calm moment (whole ▸ List.mem_append_left _ among)
  obtain ⟨own, began, here⟩ := step.asks listening (first.plain starts apart) asks
  obtain ⟨earlier, look, between, lane, rfl, finds, scans, found, overdue, rests, stays⟩ :=
    first.found_late starts here
  obtain ⟨initial, -⟩ := first.cut rfl
  have passed : began ≤ look.before.now := initial.began starts (by rw [scans]; rfl)
  have active : lane.record.phase.isActive = true := by
    rcases overdue with ⟨phase, -⟩ | ⟨phase, -⟩ <;> rw [phase] <;> rfl
  refine ⟨earlier, look, between, rfl, ⟨own, asks⟩, finds, ⟨lane, found, active⟩, ?_, rests, ?_⟩
  · -- the look judges by the time on the record, which is that at which the phase was entered
    obtain ⟨since, noted, dwells⟩ := initial.dwells starts found active
    rw [← starts.options]
    unfold Record.since at noted
    rcases overdue with ⟨phase, limit, start, stamped, late⟩ | ⟨phase, limit, start, stamped, late⟩
    · rw [phase] at noted dwells
      obtain rfl := Option.some.inj (noted.symm.trans stamped)
      exact .inl ⟨limit, since, dwells, Nat.lt_of_lt_of_le late passed⟩
    · rw [phase] at noted dwells
      obtain rfl := Option.some.inj (noted.symm.trans stamped)
      exact .inr ⟨limit, since, dwells, Nat.lt_of_lt_of_le late passed⟩
  · intro lane₂ lane' found₂ found'
    obtain rfl := Option.some.inj (found.symm.trans found₂)
    exact stays lane' found'

/-- A turn notes the failure that its worker has come to, and no other. -/
theorem Turn.notes {i : Nat} {lane lane' : Lane} {t : State} (turn : setup.Turn s i lane lane' t)
    (agrees : lane.Agrees) : lane'.record.failure = lane.record.failure ∨
      ∃ e, lane.worker = .failing e ∧ lane'.record.failure = some e.message := by
  have edit := turn.edits
  generalize lane'.record = record at edit ⊢
  cases edit with
  | phase next => exact .inl (lane.record.advance_failure s.now next)
  | @failure e here =>
    unfold Lane.Agrees at agrees
    rw [here] at agrees
    exact .inr ⟨e, here, by rw [Record.setFailure, agrees.2]; rfl⟩
  | _ => exact .inl rfl

/-- How many steps the watchdog takes for a record. -/
def steps (setup : Setup) (began : Time) (lane : Lane) : Nat :=
  if setup.options.limits.catches lane.record began then 2 else 1

/-- One host that does not answer, with a second to connect. -/
def unanswered : Dispatch :=
  .ofScript (fun _ => ⟨none, .crash⟩) ["a"] { limits := ⟨Time.second, 0⟩, localUser := "u" }

end Setup

end Fleet
