import Fleet.Proofs.Findings

/-!
# Where exit codes come from

The exit code of a host is noted from two results of its session. The output carries statuses, of
which the last one counts; where it carries none, the status of the client counts, unless that is
the one with which the client reports a failure of its own (`judge_noted_eq_ok_iff`). So from the
results it follows whether the host is done or has failed, and with which exit code
(`Setup.GoesWell`). The exit code of a run is that of its hosts, in whichever order they are.

**The law** (`Run.exit_codes`) says this of every run.
-/

namespace Fleet

/-- The status with which a process ended by itself. -/
def Termination.status? : Termination → Option Int32
  | exited status => some status
  | _ => none

/-- No status that the result tells of is the least number, which stands for none. -/
def Finding.IsProper (setup : Setup) : Finding → Prop
  | opened (.ok plan) => Int32.minValue ∉ setup.statuses plan
  | reaped (.ok (.exited status)) => status ≠ Int32.minValue
  | _ => True

instance (setup : Setup) : (finding : Finding) → Decidable (finding.IsProper setup)
  | .opened (.ok plan) => inferInstanceAs (Decidable (Int32.minValue ∉ setup.statuses plan))
  | .reaped (.ok (.exited status)) => inferInstanceAs (Decidable (status ≠ Int32.minValue))
  | .opened (.error _) | .sent _ | .relayed _ | .reaped (.error _)
  | .reaped (.ok (.signaled _)) | .reaped (.ok .unknown) => .isTrue trivial

/-! ## What the results say -/

namespace Setup

variable {setup : Setup} {plan : SessionPlan} {termination : Termination} {code : Option Int32}
  {results : List Finding}

/-- A host whose session opens, takes the files, and is relayed to its end, which is no failure: the
output carries a status, or the client does not report a failure of its own, or nothing is known. -/
structure GoesWell (setup : Setup) (results : List Finding) (plan : SessionPlan)
    (termination : Termination) : Prop where
  opened : .opened (.ok plan) ∈ results
  sent : setup.shipment.isSome = true → .sent (.ok ()) ∈ results
  relayed : .relayed (.ok ()) ∈ results
  reaped : .reaped (.ok termination) ∈ results
  accepted : termination = .unknown ∨ ∃ status, termination = .exited status ∧
    (setup.statuses plan ≠ [] ∨ status ≠ ExitStatus.clientFailure)

/-- The exit code that is noted of the output is the last status that it carries. -/
theorem noted_eq (printed : Int32.minValue ∉ setup.statuses plan) :
    setup.noted plan = (setup.statuses plan).getLast? := by
  show (setup.statuses plan).getLast?.bind ExitStatus.known = _
  cases last : (setup.statuses plan).getLast? with
  | none => rfl
  | some status =>
    have other : status ≠ Int32.minValue :=
      fun least => printed (least ▸ List.mem_of_getLast? last)
    exact if_neg other

end Setup

/-- A session that ends well gives the exit code that is noted, or else the client's. -/
theorem Termination.judge_eq_ok_iff {noted code : Option Int32} {termination : Termination}
    (proper : termination ≠ .exited Int32.minValue) : termination.judge noted = .ok code ↔
      (termination = .unknown ∨ ∃ status, termination = .exited status ∧
        (noted.isSome = true ∨ status ≠ ExitStatus.clientFailure)) ∧
      code = noted.or termination.status? := by
  cases termination with
  | signaled signal => simp [judge]
  | unknown =>
    simp only [judge, status?, Except.ok.injEq, Option.or_none, true_or, true_and]
    exact eq_comm
  | exited status =>
    have other : status ≠ Int32.minValue := fun least => proper (congrArg exited least)
    have known : ExitStatus.known status = some status := if_neg other
    cases noted with
    | some noted =>
      have judged : (exited status).judge (some noted) = .ok (some noted) := rfl
      simp [judged, eq_comm]
    | none =>
      by_cases failed : status = ExitStatus.clientFailure
      · simp [judge, failed]
      · simp [judge, failed, known, status?, eq_comm]

namespace Setup

variable {setup : Setup} {plan : SessionPlan} {termination : Termination} {code : Option Int32}
  {results : List Finding}

/-- How a session is judged, told by the statuses in its output. -/
theorem judge_noted_eq_ok_iff (printed : Int32.minValue ∉ setup.statuses plan)
    (exited : termination ≠ .exited Int32.minValue) :
    termination.judge (setup.noted plan) = .ok code ↔
      (termination = .unknown ∨ ∃ status, termination = .exited status ∧
        (setup.statuses plan ≠ [] ∨ status ≠ ExitStatus.clientFailure)) ∧
      code = (setup.statuses plan).getLast?.or termination.status? := by
  rw [Termination.judge_eq_ok_iff exited, noted_eq printed]
  simp only [List.getLast?_isSome]

/-- The results of a session that was waited for to the end are of one session. -/
theorem GoesWell.of_reaped {plan' : SessionPlan} {result : Except HostError Termination}
    (well : setup.GoesWell (setup.arrived plan' ++ [.relayed (.ok ()), .reaped result]) plan
      termination) : plan = plan' ∧ result = .ok termination := by
  have opened := well.opened
  have reaped := well.reaped
  simp only [List.mem_append, mem_arrived, List.mem_cons, List.not_mem_nil, Finding.opened.injEq,
    Finding.reaped.injEq, Except.ok.injEq, reduceCtorEq, and_false, or_false, false_or]
    at opened reaped
  exact ⟨opened, reaped.symm⟩

/-- How a session is judged that was waited for to the end. -/
private theorem judge_iff_of_reaped
    (proper : ∀ finding ∈ setup.arrived plan ++ [.relayed (.ok ()), .reaped (.ok termination)],
      finding.IsProper setup) :
    termination.judge (setup.noted plan) = .ok code ↔
      (termination = .unknown ∨ ∃ status, termination = .exited status ∧
        (setup.statuses plan ≠ [] ∨ status ≠ ExitStatus.clientFailure)) ∧
      code = (setup.statuses plan).getLast?.or termination.status? := by
  refine judge_noted_eq_ok_iff ?_ ?_
  · exact proper (.opened (.ok plan)) (List.mem_append_left _ (mem_arrived.mpr (.inl rfl)))
  · rintro rfl
    exact proper (.reaped (.ok (.exited Int32.minValue))) (by simp) rfl

theorem Succeeds.goesWell (succeeds : setup.Succeeds code results)
    (proper : ∀ finding ∈ results, finding.IsProper setup) :
    ∃ plan termination, setup.GoesWell results plan termination := by
  obtain @⟨plan, termination, -, judged⟩ := succeeds
  obtain ⟨accepted, -⟩ := (judge_iff_of_reaped proper).mp judged
  refine ⟨plan, termination, ?_, fun files => ?_, by simp, by simp, accepted⟩
  · exact List.mem_append_left _ (mem_arrived.mpr (.inl rfl))
  · exact List.mem_append_left _ (mem_arrived.mpr (.inr ⟨files, rfl⟩))

theorem Succeeds.code_eq (succeeds : setup.Succeeds code results)
    (proper : ∀ finding ∈ results, finding.IsProper setup)
    (well : setup.GoesWell results plan termination) :
    code = (setup.statuses plan).getLast?.or termination.status? := by
  obtain ⟨-, judged⟩ := succeeds
  obtain ⟨rfl, same⟩ := well.of_reaped
  obtain rfl := Except.ok.inj same
  exact ((judge_iff_of_reaped proper).mp judged).2

theorem Fails.not_goesWell (fails : setup.Fails results)
    (proper : ∀ finding ∈ results, finding.IsProper setup) :
    ¬ setup.GoesWell results plan termination := by
  intro well
  have relayed := well.relayed
  cases fails with
  | opening e => simp at relayed
  | sending plan' e => simp at relayed
  | relaying plan' e => simp [mem_arrived] at relayed
  | ending judged =>
    obtain ⟨rfl, same⟩ := well.of_reaped
    rw [same] at proper judged
    cases ((judge_iff_of_reaped proper).mpr ⟨well.accepted, rfl⟩).symm.trans judged

end Setup

/-! ## The exit code of a run -/

/-- The larger of two exit codes is the smallest that both do not exceed. -/
instance lawfulOrderMaxInt32 : Std.LawfulOrderMax Int32 := .of_max_le_iff
  (fun a b c => by
    show (if a ≤ b then b else a) ≤ c ↔ a ≤ c ∧ b ≤ c
    split
    · next le => exact ⟨fun below => ⟨Int32.le_trans le below, below⟩, And.right⟩
    · next gt =>
      have le := (Int32.le_total a b).resolve_left gt
      exact ⟨fun below => ⟨below, Int32.le_trans le below⟩, And.left⟩)
  (fun a b => by
    show (if a ≤ b then b else a) = a ∨ (if a ≤ b then b else a) = b
    split
    · exact .inr rfl
    · exact .inl rfl)

namespace Outcome

variable {records records' : List Record}

theorem aggregate_of_failed (failed : ∃ record ∈ records, record.phase = .failed) :
    aggregate records true = failedHostCode := by
  have any : (records.any fun record => record.phase == .failed) = true := by
    obtain ⟨record, among, phase⟩ := failed
    exact List.any_eq_true.mpr ⟨record, among, beq_iff_eq.mpr phase⟩
  rw [aggregate, any]
  rfl

theorem aggregate_of_sound (sound : ∀ record ∈ records, record.phase ≠ .failed) :
    aggregate records true = (records.filterMap Record.exitCode).max?.getD 0 := by
  have none : (records.any fun record => record.phase == .failed) = false := by
    refine List.any_eq_false.mpr fun record among => ?_
    exact fun failed => sound record among (beq_iff_eq.mp failed)
  rw [aggregate, none]
  cases records.filterMap Record.exitCode <;> rfl

/-- **The exit code of a run does not depend on the order of its hosts.** -/
theorem aggregate_perm (same : records.Perm records') (maxStatus : Bool) :
    aggregate records maxStatus = aggregate records' maxStatus := by
  cases maxStatus with
  | false => rfl
  | true =>
    by_cases failed : ∃ record ∈ records, record.phase = .failed
    · have failed' : ∃ record ∈ records', record.phase = .failed := by
        obtain ⟨record, among, phase⟩ := failed
        exact ⟨record, same.mem_iff.mp among, phase⟩
      rw [aggregate_of_failed failed, aggregate_of_failed failed']
    · have sound : ∀ record ∈ records, record.phase ≠ .failed :=
        fun record among phase => failed ⟨record, among, phase⟩
      rw [aggregate_of_sound sound,
        aggregate_of_sound fun record among => sound record (same.mem_iff.mpr among)]
      -- a largest code is one that bounds the others, wherever it stands
      have codes := same.filterMap Record.exitCode
      congr 1
      refine Option.ext fun code => ?_
      rw [List.max?_eq_some_iff, List.max?_eq_some_iff]
      simp only [codes.mem_iff]

/-- Where no host has failed, the exit code of a run is the largest of those that are known. -/
theorem aggregate_greatest (sound : ∀ record ∈ records, record.phase ≠ .failed) :
    (∀ record ∈ records, ∀ code, record.exitCode = some code → code ≤ aggregate records true) ∧
    ((∃ record ∈ records, record.exitCode = some (aggregate records true)) ∨
      (∀ record ∈ records, record.exitCode = none) ∧ aggregate records true = 0) := by
  rw [aggregate_of_sound sound]
  cases largest : (records.filterMap Record.exitCode).max? with
  | none =>
    have none : ∀ record ∈ records, record.exitCode = none :=
      List.filterMap_eq_nil_iff.mp (List.max?_eq_none_iff.mp largest)
    refine ⟨fun record among code known => ?_, .inr ⟨none, rfl⟩⟩
    cases (none record among).symm.trans known
  | some code =>
    obtain ⟨among, bound⟩ := List.max?_eq_some_iff.mp largest
    refine ⟨fun record among code known => ?_, .inl (List.mem_filterMap.mp among)⟩
    exact bound code (List.mem_filterMap.mpr ⟨record, among, known⟩)

end Outcome

namespace Setup

variable {setup : Setup} {s s' s₀ : State} {past later : List Moment} {dispatch : Dispatch}

/-- **What a host and a run exit with**, in every order of events.

A host whose life is over is done if its session was opened, the files were sent where there are
some, the output was relayed to its end, and the session ended without anybody knowing how, or by
itself and with a status in the output or with another status than that of a failure of the client.
Else it has failed. The exit code of a host that is done is the last status in its output; or where
there is none the status of the client; or none. When the worker has got its last result, it does
not have to wait, and after two turns of it the host's life is over.

A run that is over without a fault completes with the exit code for the records that its hosts then
have, all of which are done or have failed. It is zero where statuses are not wanted. Else it is 254
if some host has failed, and if not the largest of the exit codes, or zero if there are none. The
order of the hosts does not matter. -/
theorem Run.exit_codes (starts : dispatch.Starts setup s₀) (run : setup.Run s₀ past s) :
    (∀ i lane, s.lanes[i]? = some lane →
      (∀ finding ∈ findings i past, finding.IsProper setup) →
      (lane.record.phase.isTerminal = true →
        (lane.record.phase = .done ↔
          ∃ plan termination, setup.GoesWell (findings i past) plan termination) ∧
        (lane.record.phase = .failed ↔
          ¬ ∃ plan termination, setup.GoesWell (findings i past) plan termination)) ∧
      (lane.record.phase = .done →
        ∀ plan termination, setup.GoesWell (findings i past) plan termination →
          lane.record.exitCode = (setup.statuses plan).getLast?.or termination.status?)) ∧
    (∀ i finding, finding ∈ findings i past → finding.isLast = true →
      ∀ later s', setup.Run s later s' → ∀ lane, s'.lanes[i]? = some lane →
        (2 ≤ turns i later → lane.record.phase.isTerminal = true) ∧
        (lane.record.phase.isTerminal = true ∨
          ∃ t, setup.step? s' (.act (.worker i)) = some t)) ∧
    (∀ course : Course, course.state = s → s.dispatcher = .returned (.ok ()) →
      (∀ record ∈ s.records, record.phase = .done ∨ record.phase = .failed) ∧
      ∃ outcome, (dispatch.conclude setup course).conclusion = .completed outcome ∧
        outcome.exitCode = Outcome.aggregate s.records dispatch.options.maxRemoteStatus) ∧
    ∀ records : List Record,
      Outcome.aggregate records false = 0 ∧
      ((∃ record ∈ records, record.phase = .failed) → Outcome.aggregate records true = 254) ∧
      ((∀ record ∈ records, record.phase ≠ .failed) →
        (∀ record ∈ records, ∀ code, record.exitCode = some code →
          code ≤ Outcome.aggregate records true) ∧
        ((∃ record ∈ records, record.exitCode = some (Outcome.aggregate records true)) ∨
          (∀ record ∈ records, record.exitCode = none) ∧ Outcome.aggregate records true = 0)) ∧
      ∀ records' maxStatus, records.Perm records' →
        Outcome.aggregate records maxStatus = Outcome.aggregate records' maxStatus := by
  refine ⟨?_, ?_, ?_, ?_⟩
  · intro i lane found proper
    have agrees := run.agrees starts found
    have tallies := run.tallies starts found
    constructor
    · intro ended
      cases phase : lane.record.phase with
      | done =>
        obtain ⟨plan, termination, well⟩ := (tallies.succeeds agrees phase).goesWell proper
        exact ⟨iff_of_true rfl ⟨plan, termination, well⟩,
          iff_of_false Phase.noConfusion fun not => not ⟨plan, termination, well⟩⟩
      | failed =>
        have not : ¬ ∃ plan termination, setup.GoesWell (findings i past) plan termination :=
          fun ⟨_, _, well⟩ => (tallies.fails agrees phase).not_goesWell proper well
        exact ⟨iff_of_false Phase.noConfusion not, iff_of_true rfl not⟩
      | _ =>
        rw [phase] at ended
        cases ended
    · intro done plan termination well
      exact (tallies.succeeds agrees done).code_eq proper well
  · intro i finding among last later s' second lane found
    have near := run.settles starts among last second found
    constructor
    · intro enough
      refine near.resolve_right ?_
      rintro ⟨-, near⟩
      have ahead : 0 < lane.worker.notes := by cases lane.worker <;> exact Nat.zero_lt_succ _
      omega
    · exact near.imp_right fun settles => settles_turn found settles.1
  · rintro course rfl returned
    constructor
    · intro record listed
      obtain ⟨lane, there, rfl⟩ := List.mem_map.mp listed
      obtain ⟨i, found⟩ := List.mem_iff_getElem?.mp there
      have sound := run.settled starts
      rw [returned] at sound
      exact run.phase_of_isSound starts sound found
    · simp only [Dispatch.conclude, returned]
      exact ⟨_, rfl, rfl⟩
  · intro records
    exact ⟨rfl, Outcome.aggregate_of_failed, Outcome.aggregate_greatest,
      fun _ maxStatus same => Outcome.aggregate_perm same maxStatus⟩

/-- A session in which the status 3 is printed, and whose client then reports a failure. -/
def printsThree : SessionPlan where
  stdout := ⟨[⟨0, Utf8.encode "x\n__FANOUT_RC__:3\n"⟩], .closed 0⟩
  reap := ⟨0, .ok (.exited 255)⟩

/-- A command for one host, with its exit status. -/
def onePrintsThree : Dispatch :=
  .ofScript (fun _ => ⟨some 0, .session printsThree⟩) ["a"]
    { maxRemoteStatus := true, localUser := "u" }

/-- The status that was printed counts: the host is done, and it is the exit code of the run. -/
theorem Run.exit_codes_onePrintsThree :
    ∃ setup s₀ past s lane, onePrintsThree.Starts setup s₀ ∧ setup.Run s₀ past s ∧
      s.lanes[0]? = some lane ∧ (∀ finding ∈ findings 0 past, finding.IsProper setup) ∧
      lane.record.phase.isTerminal = true ∧ s.dispatcher = .returned (.ok ()) ∧
      (∃ plan termination, setup.GoesWell (findings 0 past) plan termination ∧
        some 3 = (setup.statuses plan).getLast?.or termination.status?) ∧
      Outcome.aggregate s.records true = 3 := by
  have starts := Dispatch.ofScript.starts (fun _ => ⟨some 0, .session printsThree⟩)
    { maxRemoteStatus := true, localUser := "u" } "a" []
  have replayed : ((onePrintsThree.setup none).replay?
      (.start { maxRemoteStatus := true, localUser := "u" }
        (Dispatch.ofScript.lanes { maxRemoteStatus := true, localUser := "u" } 0 ["a"]) {})
      ([.act .dispatcher, .act .dispatcher] ++ List.replicate 13 (.act (.worker 0))
        ++ List.replicate 4 (.act .dispatcher))).map (fun s =>
          ((onePrintsThree.conclude (onePrintsThree.setup none) { state := s }).conclusion,
            s.lanes[0]?.map fun lane => (lane.record.phase, lane.record.exitCode)))
      = some (.completed ⟨3, [⟨"a", .done, some 3, none⟩], 1⟩, some (.done, some 3)) := by
    decide +kernel
  obtain ⟨s, reached, seen⟩ := Option.map_eq_some_iff.mp replayed
  obtain ⟨completed, ended⟩ := Prod.mk.inj seen
  obtain ⟨lane, found, ended⟩ := Option.map_eq_some_iff.mp ended
  obtain ⟨phase, code⟩ := Prod.mk.inj ended
  obtain ⟨past, run, proper⟩ := (⟨_, (Setup.Run.of_moments reached).1, by decide +kernel⟩ :
    ∃ past, (onePrintsThree.setup none).Run _ past s ∧
      ∀ finding ∈ findings 0 past, finding.IsProper (onePrintsThree.setup none))
  obtain ⟨returned, -⟩ := Dispatch.conclude_completed completed
  have terminal : lane.record.phase.isTerminal = true := by rw [phase]; rfl
  obtain ⟨hosts, -, completes, -⟩ := exit_codes starts run
  obtain ⟨statuses, exits⟩ := hosts 0 lane found proper
  obtain ⟨plan, termination, well⟩ := (statuses terminal).1.mp phase
  obtain ⟨-, outcome, concluded, aggregate⟩ := completes { state := s } rfl returned
  obtain rfl := Conclusion.completed.inj (concluded.symm.trans completed)
  exact ⟨_, _, past, s, lane, starts, run, found, proper, terminal, returned,
    ⟨plan, termination, well, code ▸ exits phase plan termination well⟩, aggregate.symm⟩

end Setup

end Fleet
