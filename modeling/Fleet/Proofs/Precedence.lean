import Fleet.Proofs.Extraction
import Fleet.Proofs.Statuses

/-!
# The status in the output comes first

A record holds one exit code. What is noted last stays (`Record.exitCode_foldl`), and a status that
a line of the output announces is noted when the line is relayed (`Relay.emitOut_announced`). The
status with which the client exits counts only for a record without a code
(`Termination.verdict_of_noted`), so it neither replaces what the output said nor makes a failure
of it.

One number stands for no code at all. It can be announced like every other, and is then not noted:
what was known before is forgotten, and the client has the last word.

**The law** (`Run.last_status_kept`): the last status in the output of a session that was waited
for to its end is the exit code of its host, and the host is done, if and only if it is not this
number.
-/

namespace Fleet

/-! ## Codes on a record -/

namespace ExitStatus

theorem known_eq_some_iff {code : Int32} : known code = some code ↔ code ≠ Int32.minValue := by
  unfold known
  by_cases least : code = Int32.minValue
  · simp [least]
  · simp [least]

theorem known_minValue : known Int32.minValue = none := if_pos rfl

end ExitStatus

namespace Record

variable {record : Record}

theorem phase_foldl_setExitCode (record : Record) (codes : List Int32) :
    (codes.foldl setExitCode record).phase = record.phase := by
  induction codes generalizing record with
  | nil => rfl
  | cons code codes ih =>
    obtain ⟨noted, same⟩ := record.setExitCode_eq code
    rw [List.foldl_cons, ih, same]

/-- **Of several codes the last one is noted.** -/
theorem exitCode_foldl {codes : List Int32} {last : Int32}
    (running : record.phase.isTerminal = false) (latest : codes.getLast? = some last) :
    (codes.foldl setExitCode record).exitCode = ExitStatus.known last := by
  obtain ⟨front, rfl⟩ := List.getLast?_eq_some_iff.mp latest
  have still : (front.foldl setExitCode record).phase.isTerminal = false := by
    rw [phase_foldl_setExitCode, running]
  rw [List.foldl_append, List.foldl_cons, List.foldl_nil, setExitCode_of_running still]

end Record

/-- **A status that the output carried is worth more than the client's.** -/
theorem Termination.verdict_of_noted {record : Record} {code : Int32}
    (noted : record.exitCode = some code) (status : Int32) :
    (exited status).verdict record = .ok record := by
  rw [verdict, noted]
  rfl

/-- Without one, the client may report a failure of its own. -/
theorem Termination.verdict_of_none {record : Record} (none : record.exitCode = none)
    (status : Int32) :
    (exited status).verdict record = if status = ExitStatus.clientFailure
      then .error (.clientFailed status) else .ok (record.setExitCode status) := by
  rw [verdict, none]
  rfl

/-- The client leaves a record alone, whatever its status, exactly if it has a code. -/
theorem Termination.verdict_keeps_iff {record : Record} :
    (∀ status, (exited status).verdict record = .ok record) ↔ record.exitCode ≠ none := by
  cases known : record.exitCode with
  | some code => simp [verdict_of_noted known]
  | none =>
    refine ⟨fun kept => ?_, fun no => absurd rfl no⟩
    have failed := (verdict_of_none known ExitStatus.clientFailure).symm.trans
      (kept ExitStatus.clientFailure)
    rw [if_pos rfl] at failed
    cases failed

/-- **What a line announces is noted when the line is relayed**, also if the console does not take
the line. -/
theorem Relay.emitOut_announced {routing : Routing} {line : Bytes} {n : Int32}
    (wanted : routing.extractStatus = true)
    (announced : ExitStatus.Announces (Utf8.lossy line).toList n) (now : Time) (record : Record)
    (console : Console) (next : Relay) :
    (∃ console', emitOut routing now record console line next
        = .advanced (record.setExitCode n) console' next) ∨
      emitOut routing now record console line next
        = .failed (record.setExitCode n) (.io .consoleClosed) := by
  have code : (routing.readOut line).2 = some n := by
    rw [Routing.readOut, if_pos wanted]
    exact ExitStatus.extract_announced announced
  unfold emitOut
  simp only [code]
  split
  · exact .inl ⟨_, rfl⟩
  · exact .inr rfl

/-! ## From the output to the end of the host -/

namespace Setup

variable {setup : Setup} {s s' s₀ : State} {past later : List Moment} {dispatch : Dispatch}
  {plan : SessionPlan} {status n : Int32} {results : List Finding} {code : Option Int32}

/-- The last status in the output is the one of the last line that announces any. -/
theorem noted_of_announced {before after : List Bytes} {line : Bytes}
    (wanted : setup.options.maxRemoteStatus = true) (bare : setup.shipment = none)
    (output : pieces plan.stdout.bytes = before ++ line :: after)
    (announced : ExitStatus.Announces (Utf8.lossy line).toList n)
    (silent : ∀ line ∈ after, (ExitStatus.extract (Utf8.lossy line)).2 = none) :
    setup.noted plan = ExitStatus.known n := by
  have reads (line : Bytes) : setup.reads line = (ExitStatus.extract (Utf8.lossy line)).2 := by
    rw [reads, wanted, bare]
    rfl
  have here : setup.reads line = some n := by
    rw [reads]
    exact ExitStatus.extract_announced announced
  have nothing : after.filterMap setup.reads = [] :=
    List.filterMap_eq_nil_iff.mpr fun line among => (reads line).trans (silent line among)
  rw [noted, codeOf, output, List.filterMap_append, List.filterMap_cons_some here, nothing,
    List.getLast?_concat, Option.bind_some]

/-- The results of a session that was waited for to the end. -/
private theorem of_reaped {plan' : SessionPlan} {result : Except HostError Termination}
    (opened : .opened (.ok plan) ∈ setup.arrived plan' ++ [.relayed (.ok ()), .reaped result])
    (reaped : .reaped (.ok (.exited status))
      ∈ setup.arrived plan' ++ [.relayed (.ok ()), .reaped result]) :
    plan = plan' ∧ result = .ok (.exited status) := by
  simp only [List.mem_append, mem_arrived, List.mem_cons, List.not_mem_nil, Finding.opened.injEq,
    Finding.reaped.injEq, Except.ok.injEq, reduceCtorEq, and_false, or_false, false_or]
    at opened reaped
  exact ⟨opened, reaped.symm⟩

/-- A host that is done has been judged by the status of its client. -/
theorem Succeeds.judged (succeeds : setup.Succeeds code results)
    (opened : .opened (.ok plan) ∈ results) (reaped : .reaped (.ok (.exited status)) ∈ results) :
    (Termination.exited status).judge (setup.noted plan) = .ok code := by
  cases succeeds with
  | intro ending judged =>
    obtain ⟨rfl, same⟩ := of_reaped opened reaped
    rwa [← Except.ok.inj same]

/-- And so has one that failed after its session had been waited for. -/
theorem Fails.judged (fails : setup.Fails results) (opened : .opened (.ok plan) ∈ results)
    (reaped : .reaped (.ok (.exited status)) ∈ results) :
    ∃ e, (Termination.exited status).judge (setup.noted plan) = .error e := by
  cases fails with
  | opening e => simp at reaped
  | sending plan' e => simp at reaped
  | relaying plan' e => simp [mem_arrived] at reaped
  | ending judged =>
    obtain ⟨rfl, same⟩ := of_reaped opened reaped
    rw [same] at judged
    exact ⟨_, judged⟩

/-- A host that is waited for to the end is done with the status in its output exactly if that is
noted. -/
private theorem kept_iff {lane : Lane} (tallies : lane.Tallies setup results)
    (agrees : lane.Agrees) (ended : lane.record.phase.isTerminal = true)
    (opened : .opened (.ok plan) ∈ results) (reaped : .reaped (.ok (.exited status)) ∈ results)
    (noted : setup.noted plan = ExitStatus.known n) :
    (lane.record.phase = .done ∧ lane.record.exitCode = some n) ↔ n ≠ Int32.minValue := by
  constructor
  · rintro ⟨done, exits⟩ rfl
    have judged := (tallies.succeeds agrees done).judged opened reaped
    rw [noted, ExitStatus.known_minValue, exits] at judged
    -- without a status in the output the code is the client's, which is no such number either
    unfold Termination.judge at judged
    simp only [Option.isSome_none, Bool.false_eq_true, if_false] at judged
    split at judged
    · cases judged
    · have least := Except.ok.inj judged
      unfold ExitStatus.known at least
      split at least
      · cases least
      · next other => exact other (Option.some.inj least)
  · intro proper
    have known := ExitStatus.known_eq_some_iff.mpr proper
    cases phase : lane.record.phase with
    | done =>
      have judged := (tallies.succeeds agrees phase).judged opened reaped
      rw [noted, known] at judged
      exact ⟨rfl, (Except.ok.inj judged).symm⟩
    | failed =>
      obtain ⟨e, judged⟩ := (tallies.fails agrees phase).judged opened reaped
      rw [noted, known] at judged
      cases judged
    | _ =>
      rw [phase] at ended
      cases ended

/-- **Exit codes are kept, all but one.**

Of the codes that are noted for a host whose life is not over, the last one is what its record
reports, exactly if it is not the least number of 32 bits; that one leaves no code.

When a line is relayed that announces a status, the record has noted it. It then reports the
status, and no status of the client replaces it or makes a failure of it, both exactly if it is not
the least number. If it is, the record has no code, and the status of the client counts: as a
failure, or as the exit code.

In every run, a host whose output announced a status last, and whose client was waited for and
exited by itself, comes to its end in two turns of its worker. It is then done with the announced
status as its exit code, exactly if that is not the least number. -/
theorem Run.last_status_kept (starts : dispatch.Starts setup s₀) (run : setup.Run s₀ past s) :
    (∀ (record : Record) (codes : List Int32) (last : Int32),
      record.phase.isTerminal = false → codes.getLast? = some last →
      let noted := codes.foldl Record.setExitCode record
      (noted.exitCode = some last ↔ last ≠ Int32.minValue) ∧
        (last = Int32.minValue → noted.exitCode = none)) ∧
    (∀ (routing : Routing) (now : Time) (record : Record) (console : Console) (line : Bytes)
        (next : Relay) (n : Int32), routing.extractStatus = true →
      record.phase.isTerminal = false → ExitStatus.Announces (Utf8.lossy line).toList n →
      ∃ noted : Record,
        ((∃ console', Relay.emitOut routing now record console line next
            = .advanced noted console' next) ∨
          Relay.emitOut routing now record console line next
            = .failed noted (.io .consoleClosed)) ∧
        (noted.exitCode = some n ↔ n ≠ Int32.minValue) ∧
        ((∀ status, (Termination.exited status).verdict noted = .ok noted) ↔
          n ≠ Int32.minValue) ∧
        (n = Int32.minValue → noted.exitCode = none ∧
          ∀ status, (Termination.exited status).verdict noted
            = if status = ExitStatus.clientFailure then .error (.clientFailed status)
              else .ok (noted.setExitCode status))) ∧
    ∀ (i : Nat) (plan : SessionPlan) (status : Int32) (before : List Bytes) (line : Bytes)
        (after : List Bytes) (n : Int32),
      setup.options.maxRemoteStatus = true → setup.shipment = none →
      .opened (.ok plan) ∈ findings i past → .reaped (.ok (.exited status)) ∈ findings i past →
      pieces plan.stdout.bytes = before ++ line :: after →
      ExitStatus.Announces (Utf8.lossy line).toList n →
      (∀ line ∈ after, (ExitStatus.extract (Utf8.lossy line)).2 = none) →
      (∀ lane, s.lanes[i]? = some lane → lane.record.phase.isTerminal = true →
        ((lane.record.phase = .done ∧ lane.record.exitCode = some n) ↔ n ≠ Int32.minValue)) ∧
      ∀ later s' lane, setup.Run s later s' → s'.lanes[i]? = some lane → 2 ≤ turns i later →
        lane.record.phase.isTerminal = true := by
  refine ⟨?_, ?_, ?_⟩
  · intro record codes last running latest
    have noted := Record.exitCode_foldl running latest
    simp only [noted]
    exact ⟨ExitStatus.known_eq_some_iff, fun least => least ▸ ExitStatus.known_minValue⟩
  · intro routing now record console line next n wanted running announced
    have noted : (record.setExitCode n).exitCode = ExitStatus.known n := by
      rw [Record.setExitCode_of_running running]
    refine ⟨record.setExitCode n, ?_, ?_, ?_, ?_⟩
    · exact Relay.emitOut_announced wanted announced now record console next
    · rw [noted]
      exact ExitStatus.known_eq_some_iff
    · rw [Termination.verdict_keeps_iff, noted, ExitStatus.known]
      simp
    · rintro rfl
      have none := noted.trans ExitStatus.known_minValue
      exact ⟨none, Termination.verdict_of_none none⟩
  · intro i plan status before line after n wanted bare opened reaped output announced silent
    have noted := noted_of_announced wanted bare output announced silent
    constructor
    · intro lane found ended
      exact kept_iff (run.tallies starts found) (run.agrees starts found) ended opened reaped noted
    · intro later s' lane second found enough
      refine (run.settles starts reaped rfl second found).resolve_right ?_
      rintro ⟨-, near⟩
      have ahead : 0 < lane.worker.notes := by cases lane.worker <;> exact Nat.zero_lt_succ _
      omega

/-- A session in which the least number is printed as a status, and whose client then reports a
failure. -/
def printsLeast : SessionPlan where
  stdout := ⟨[⟨0, Utf8.encode "x\n__FANOUT_RC__:-2147483648\n"⟩], .closed 0⟩
  reap := ⟨0, .ok (.exited 255)⟩

/-- A command for one host, with its exit status. -/
def onePrintsLeast : Dispatch :=
  .ofScript (fun _ => ⟨some 0, .session printsLeast⟩) ["a"]
    { maxRemoteStatus := true, localUser := "u" }

theorem announces_three :
    ExitStatus.Announces (Utf8.lossy (Utf8.encode "__FANOUT_RC__:3")).toList 3 := by
  rw [Utf8.lossy_encode]
  exact ⟨[], [], [], by decide, by simp, by simp, by decide⟩

theorem announces_least : ExitStatus.Announces
    (Utf8.lossy (Utf8.encode "__FANOUT_RC__:-2147483648")).toList Int32.minValue := by
  rw [Utf8.lossy_encode]
  exact ⟨[], [], [], by decide, by simp, by simp, by decide⟩

/-- Three is printed, and then the client reports a failure: the host is done with the code three. -/
theorem Run.last_status_kept_three :
    ∃ setup s₀ past s lane, onePrintsThree.Starts setup s₀ ∧ setup.Run s₀ past s ∧
      setup.options.maxRemoteStatus = true ∧ setup.shipment = none ∧
      .opened (.ok printsThree) ∈ findings 0 past ∧
      .reaped (.ok (.exited 255)) ∈ findings 0 past ∧
      pieces printsThree.stdout.bytes = [Utf8.encode "x", Utf8.encode "__FANOUT_RC__:3"] ∧
      s.lanes[0]? = some lane ∧ lane.record.phase.isTerminal = true ∧
      lane.record.phase = .done ∧ lane.record.exitCode = some 3 := by
  have starts := Dispatch.ofScript.starts (fun _ => ⟨some 0, .session printsThree⟩)
    { maxRemoteStatus := true, localUser := "u" } "a" []
  have replayed : ((onePrintsThree.setup none).replay?
      (.start { maxRemoteStatus := true, localUser := "u" }
        (Dispatch.ofScript.lanes { maxRemoteStatus := true, localUser := "u" } 0 ["a"]) {})
      ([.act .dispatcher, .act .dispatcher] ++ List.replicate 13 (.act (.worker 0)))).map (fun s =>
          s.lanes[0]?.map fun lane => lane.record.phase) = some (some .done) := by
    decide +kernel
  obtain ⟨s, reached, seen⟩ := Option.map_eq_some_iff.mp replayed
  obtain ⟨lane, found, phase⟩ := Option.map_eq_some_iff.mp seen
  have terminal : lane.record.phase.isTerminal = true := by rw [phase]; rfl
  obtain ⟨past, run, opened, reaped⟩ := (⟨_, (Setup.Run.of_moments reached).1, by decide +kernel,
    by decide +kernel⟩ : ∃ past, (onePrintsThree.setup none).Run _ past s ∧
      .opened (.ok printsThree) ∈ findings 0 past ∧
      .reaped (.ok (.exited 255)) ∈ findings 0 past)
  have output : pieces printsThree.stdout.bytes
      = [Utf8.encode "x"] ++ Utf8.encode "__FANOUT_RC__:3" :: [] := by decide
  obtain ⟨-, -, hosts⟩ := last_status_kept starts run
  obtain ⟨kept, -⟩ := hosts 0 printsThree 255 _ _ _ 3 rfl rfl opened reaped output announces_three
    (fun _ no => absurd no List.not_mem_nil)
  obtain ⟨-, exits⟩ := (kept lane found terminal).mpr (by decide)
  exact ⟨_, _, past, s, lane, starts, run, rfl, rfl, opened, reaped, output, found, terminal, phase,
    exits⟩

/-- **The least number is not kept.** A record to which it is noted reports no code; and a host
that announces it as its status has no exit code, and fails for the status of its client. -/
theorem last_status_kept_fails :
    (∃ record : Record, record.phase.isTerminal = false ∧
      (([3, Int32.minValue] : List Int32).foldl Record.setExitCode record).exitCode = none) ∧
    ∃ setup s₀ past s lane, onePrintsLeast.Starts setup s₀ ∧ setup.Run s₀ past s ∧
      setup.options.maxRemoteStatus = true ∧ setup.shipment = none ∧
      .opened (.ok printsLeast) ∈ findings 0 past ∧
      .reaped (.ok (.exited 255)) ∈ findings 0 past ∧
      pieces printsLeast.stdout.bytes
        = [Utf8.encode "x", Utf8.encode "__FANOUT_RC__:-2147483648"] ∧
      ExitStatus.Announces (Utf8.lossy (Utf8.encode "__FANOUT_RC__:-2147483648")).toList
        Int32.minValue ∧
      s.lanes[0]? = some lane ∧ lane.record.phase = .failed ∧ lane.record.exitCode = none ∧
      lane.record.failure
        = some "client exited with status 255 before the command reported one" := by
  refine ⟨⟨Relay.executing, rfl, by decide⟩, ?_⟩
  have starts := Dispatch.ofScript.starts (fun _ => ⟨some 0, .session printsLeast⟩)
    { maxRemoteStatus := true, localUser := "u" } "a" []
  have replayed : ((onePrintsLeast.setup none).replay?
      (.start { maxRemoteStatus := true, localUser := "u" }
        (Dispatch.ofScript.lanes { maxRemoteStatus := true, localUser := "u" } 0 ["a"]) {})
      ([.act .dispatcher, .act .dispatcher] ++ List.replicate 13 (.act (.worker 0)))).map (fun s =>
          s.lanes[0]?.map fun lane =>
            (lane.record.phase, lane.record.exitCode, lane.record.failure))
      = some (some (.failed, none,
        some "client exited with status 255 before the command reported one")) := by
    decide +kernel
  obtain ⟨s, reached, seen⟩ := Option.map_eq_some_iff.mp replayed
  obtain ⟨lane, found, ended⟩ := Option.map_eq_some_iff.mp seen
  simp only [Prod.mk.injEq] at ended
  obtain ⟨phase, code, failure⟩ := ended
  exact ⟨_, _, _, s, lane, starts, (Setup.Run.of_moments reached).1, rfl, rfl, by decide +kernel,
    by decide +kernel, by decide, announces_least, found, phase, code, failure⟩

end Setup

end Fleet
