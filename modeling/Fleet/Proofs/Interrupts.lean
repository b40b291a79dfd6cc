import Fleet.Proofs.Reports
import Fleet.Proofs.Stopping

/-!
# What interrupts do

Interrupts come at some times, and one task takes them. The first ones of them ask for reports; one
that comes closely behind the one before ends the run. The window goes along with every report, so
what counts are neighbours. But where two interrupts are close, so are two neighbours between them
(`Interrupt.Judged.terminates_iff`).

**The law** (`Setup.Run.interrupts_answered`): in every order of events the task answers as it is
to. For a report it reads the record of every host once and in order; the lines that it tells are
those of the reports that it was asked for, each host as it was when its record was read, and they
change nothing. When it ends the run it visits every host once and in order, sends one signal to
each that is executing and can be signalled, whether or not that works, and then asks each to abort.

**What it does not say**: that a line that is told can be read. A console that takes no more loses
it (`Setup.interrupts_answered_fails_on_full_console`).
-/

namespace Fleet

namespace Interrupt

/-! ## What a sequence of interrupts means -/

/-- What is done about interrupts by somebody who stops at the first that ends the run. -/
def untilTermination : List Action → List Action
  | [] => []
  | .report :: rest => .report :: untilTermination rest
  | .terminate :: _ => [.terminate]

/-- What is done about interrupts at these times. -/
def Coordinator.conduct (c : Coordinator) (times : List Time) : List Action :=
  untilTermination (c.handleAll times)

/-- No interrupt is closer than the window to any before it. -/
def Apart (times : List Time) : Prop := times.Pairwise fun before now => before + window ≤ now

/-- What is to be done about interrupts. A batch run ends at the first. Any other goes on with a
report at each, until one comes less than the window after the one just before it. -/
inductive Judged : Policy → List Time → List Action → Prop where
  | none : Judged .batch [] []
  | first (now : Time) (later : List Time) : Judged .batch (now :: later) [.terminate]
  | reports {times : List Time} (apart : Apart times) :
      Judged .twoStep times (List.replicate times.length .report)
  | ends {early : List Time} {last now : Time} (apart : Apart (early ++ [last]))
      (close : now < last + window) (later : List Time) :
      Judged .twoStep (early ++ last :: now :: later)
        (List.replicate (early.length + 1) .report ++ [.terminate])

variable {times early later : List Time} {before last now : Time}

theorem Apart.cons (far : before + window ≤ now) (apart : Apart (now :: later)) :
    Apart (before :: now :: later) := by
  refine List.pairwise_cons.mpr ⟨fun time among => ?_, apart⟩
  rcases List.mem_cons.mp among with rfl | among
  · exact far
  · exact Nat.le_trans far (Nat.le_trans (Nat.le_add_right _ _)
      ((List.pairwise_cons.mp apart).1 time among))

theorem Coordinator.conduct_cons (c : Coordinator) (now : Time) (later : List Time) :
    c.conduct (now :: later) = match c.handle now with
      | (.report, next) => .report :: next.conduct later
      | (.terminate, _) => [.terminate] := by
  cases meaning : c.handle now with
  | mk action next => cases action <;> simp [conduct, handleAll, meaning, untilTermination]

private theorem sub_lt_iff {a b c : Nat} (pos : 0 < c) : a - b < c ↔ a < b + c := by omega

private theorem close_iff : now - before < window ↔ now < before + window :=
  sub_lt_iff (by decide)

/-- Behind an interrupt that was answered with a report. -/
theorem conduct_after (before : Time) (times : List Time) :
    (Apart (before :: times) ∧ Coordinator.conduct ⟨.twoStep, some before⟩ times
      = List.replicate times.length .report) ∨
    ∃ early last now later, before :: times = early ++ last :: now :: later ∧
      now < last + window ∧ Apart (early ++ [last]) ∧
      Coordinator.conduct ⟨.twoStep, some before⟩ times
        = List.replicate early.length .report ++ [.terminate] := by
  induction times generalizing before with
  | nil => exact .inl ⟨List.pairwise_singleton _ _, rfl⟩
  | cons now later ih =>
    by_cases close : now < before + window
    · refine .inr ⟨[], before, now, later, rfl, close, List.pairwise_singleton _ _, ?_⟩
      have short := close_iff.mpr close
      rw [Coordinator.conduct_cons]
      simp [Coordinator.handle, short]
    · have far : before + window ≤ now := Nat.le_of_not_lt close
      have long := mt close_iff.mp close
      have told : Coordinator.conduct ⟨.twoStep, some before⟩ (now :: later)
          = .report :: Coordinator.conduct ⟨.twoStep, some now⟩ later := by
        rw [Coordinator.conduct_cons]
        simp [Coordinator.handle, long]
      rw [told]
      rcases ih now with ⟨apart, all⟩ | ⟨early, last, next, rest, whole, close, apart, some⟩
      · exact .inl ⟨apart.cons far, congrArg (.report :: ·) all⟩
      · refine .inr ⟨before :: early, last, next, rest, congrArg (before :: ·) whole, close, ?_,
          congrArg (.report :: ·) some⟩
        -- the interrupts before the end begin with this one
        cases early with
        | nil =>
          obtain ⟨rfl, -⟩ := List.cons.inj whole
          exact apart.cons far
        | cons first early =>
          obtain ⟨rfl, -⟩ := List.cons.inj whole
          exact apart.cons far

/-- **What is done is what is to be done**, whatever the times. -/
theorem conduct_judged (policy : Policy) (times : List Time) :
    Judged policy times (Coordinator.conduct ⟨policy, none⟩ times) := by
  cases policy with
  | batch =>
    cases times with
    | nil => exact .none
    | cons now later => exact .first now later
  | twoStep =>
    cases times with
    | nil => exact .reports .nil
    | cons now later =>
      have told : Coordinator.conduct ⟨.twoStep, none⟩ (now :: later)
          = .report :: Coordinator.conduct ⟨.twoStep, some now⟩ later := by
        rw [Coordinator.conduct_cons]
        rfl
      rw [told]
      rcases conduct_after now later with
        ⟨apart, all⟩ | ⟨early, last, next, rest, whole, close, apart, some⟩
      · rw [all]
        exact .reports apart
      · rw [whole, some]
        exact .ends apart close rest

/-- **A run ends on two close interrupts, neighbours or not.** -/
theorem Judged.terminates_iff {actions : List Action} (judged : Judged .twoStep times actions) :
    .terminate ∈ actions ↔ ∃ a b, [a, b].Sublist times ∧ b < a + window := by
  have alike : (∃ a b, [a, b].Sublist times ∧ b < a + window) ↔ ¬ Apart times := by
    rw [Apart, List.pairwise_iff_forall_sublist]
    constructor
    · rintro ⟨a, b, pair, close⟩ far
      exact Nat.not_le_of_gt close (far pair)
    · intro near
      refine Classical.byContradiction fun far => near fun {a b} pair => ?_
      exact Nat.le_of_not_lt fun close => far ⟨a, b, pair, close⟩
  cases judged with
  | reports apart =>
    rw [alike]
    exact ⟨fun among => (nomatch List.eq_of_mem_replicate among), fun near => absurd apart near⟩
  | @ends early last now apart close later =>
    refine iff_of_true (List.mem_append_right _ (List.mem_singleton_self _)) ?_
    refine ⟨last, now, ?_, close⟩
    exact .trans (.cons_cons _ (.cons_cons _ (List.nil_sublist later)))
      (List.sublist_append_right early _)

end Interrupt

/-! ## What the task for interrupts does -/

namespace InterruptTask

/-- The lines that it has still to tell, as far as it knows them. -/
def toTell : InterruptTask → List String
  | heading _ => [Interrupt.reportHeading]
  | surveying _ _ lines | reporting lines => lines
  | signalling _ | announcing => [Interrupt.terminationNotice]
  | _ => []

/-- The records that it has still to read of so many hosts, with the time of the interrupt. -/
def toRead (nhosts : Nat) : InterruptTask → List (Time × Nat)
  | heading came => (List.range nhosts).map (came, ·)
  | surveying came next _ => (List.range' next (nhosts - next)).map (came, ·)
  | _ => []

/-- Whether it is busy with a report. -/
def isReporting : InterruptTask → Bool
  | heading _ | surveying .. | reporting _ => true
  | _ => false

/-- The most steps that a report of so many hosts takes from here on. -/
def toGo (nhosts : Nat) : InterruptTask → Nat
  | heading _ => 2 * nhosts + 3
  | surveying _ next lines => 2 * (nhosts - next) + lines.length + 2
  | reporting lines => lines.length + 1
  | _ => 0

/-- How many of so many hosts it has visited to signal them. -/
def visits (nhosts : Nat) : InterruptTask → Nat
  | signalling next => min next nhosts
  | announcing | aborting _ | gone => nhosts
  | _ => 0

/-- How many of so many hosts it has asked to abort. -/
def asks (nhosts : Nat) : InterruptTask → Nat
  | aborting next => min next nhosts
  | gone => nhosts
  | _ => 0

end InterruptTask

namespace Moment

/-- How an interrupt is answered, and when it came; none if it is lost. -/
def answer (moment : Moment) : Option (Time × Interrupt.Action) :=
  match moment.event, moment.before.interrupter, moment.after.interrupter with
  | .interrupt, .listening, .heading _ => some (moment.before.now, .report)
  | .interrupt, .listening, .signalling _ => some (moment.before.now, .terminate)
  | _, _, _ => none

/-- The line that the task tells. -/
def told (moment : Moment) : Option String :=
  match moment.event, moment.before.interrupter with
  | .act .interrupter, .heading _ => some Interrupt.reportHeading
  | .act .interrupter, .reporting (line :: _) => some line
  | .act .interrupter, .announcing => some Interrupt.terminationNotice
  | _, _ => none

/-- The host whose record the task reads for a report, as it is then, with the time of the interrupt
that asked for the report. -/
def read (moment : Moment) : Option ((Time × Nat) × Lane) :=
  match moment.event, moment.before.interrupter with
  | .act .interrupter, .surveying came next _ => moment.before.lanes[next]?.map ((came, next), ·)
  | _, _ => none

/-- The host that the task visits to signal it, as it is then. -/
def visited (moment : Moment) : Option (Nat × Lane) :=
  match moment.event, moment.before.interrupter with
  | .act .interrupter, .signalling next => moment.before.lanes[next]?.map (next, ·)
  | _, _ => none

/-- The host that the task asks to abort. -/
def stopped (moment : Moment) : Option Nat :=
  match moment.event, moment.before.interrupter with
  | .act .interrupter, .aborting next =>
    if next < moment.before.lanes.length then some next else none
  | _, _ => none

end Moment

/-- The signals for a host that is visited: one if it is executing and there is a way, whether the
signal will be delivered or not. -/
def Lane.farewell (lane : Lane) : List SentSignal :=
  if lane.record.phase = .executing then
    lane.record.backchannel.toList.map fun backchannel => ⟨backchannel.name, 15⟩
  else []

theorem Lane.terminationSignal_eq (lane : Lane) :
    lane.record.terminationSignal = lane.farewell := by
  unfold Record.terminationSignal Lane.farewell
  cases lane.record.phase <;> cases lane.record.backchannel <;> rfl

namespace Setup

open Interrupt (Policy Judged Coordinator)

variable {setup : Setup} {s s' s₀ : State} {past : List Moment} {dispatch : Dispatch}

/-- What a report says of a host: nothing unless a worker is busy with it. -/
def standing (setup : Setup) (now : Time) (host : Host) (lane : Lane) : Option String :=
  let note := match setup.verbose, lane.record.remaining now setup.options.limits.connect
      setup.options.limits.command with
    | true, some left => " (" ++ toString (left / Time.second) ++ "s left)"
    | _, _ => ""
  match lane.record.phase with
  | .connecting => some (host.hostname ++ ": " ++ "connecting" ++ note)
  | .executing => some (host.hostname ++ ": " ++ "executing" ++ note)
  | .new | .done | .failed => none

/-- The lines that are asked for in a moment: when an interrupt is answered the heading of a report
or the announcement of the end, and when a record is read what is to be said of that target. -/
def ordered (setup : Setup) (targets : TargetList) (moment : Moment) : List String :=
  (moment.answer.toList.map fun answer =>
    match answer.2 with
    | .report => Interrupt.reportHeading
    | .terminate => Interrupt.terminationNotice) ++
  moment.read.toList.filterMap fun ((came, i), lane) =>
    targets[i]?.bind fun host => setup.standing came host lane

/-- **A report says of a host what is to be said of it.** -/
theorem standing_eq (setup : Setup) (now : Time) (lane : Lane) :
    setup.standing now lane.record.host lane
      = Interrupt.statusLine? setup.options.limits now setup.verbose lane.record := by
  have line (word : String) : lane.record.host.hostname ++ ": " ++ word ++
      (match setup.verbose, lane.record.remaining now setup.options.limits.connect
        setup.options.limits.command with
      | true, some left => " (" ++ toString (left / Time.second) ++ "s left)"
      | _, _ => "")
      = match setup.verbose, lane.record.remaining now setup.options.limits.connect
          setup.options.limits.command with
        | true, some left => lane.record.host.hostname ++ ": " ++ word ++ " ("
            ++ toString (left / Time.second) ++ "s left)"
        | _, _ => lane.record.host.hostname ++ ": " ++ word := by
    split
    · simp only [String.append_assoc]
    · exact String.append_empty
  unfold standing Interrupt.statusLine? Interrupt.statusLine
  cases phase : lane.record.phase with
  | connecting => exact congrArg some (line "connecting")
  | executing => exact congrArg some (line "executing")
  | _ => rfl

/-! ### Answers -/

theorem filterMap_skip {α : Type} {pick : Moment → Option α} {moment : Moment}
    (none : pick moment = none) : (past ++ [moment]).filterMap pick = past.filterMap pick := by
  rw [filterMap_snoc, none, Option.toList_none, List.append_nil]

theorem filterMap_take {α : Type} {pick : Moment → Option α} {moment : Moment} {picked : α}
    (some : pick moment = some picked) :
    (past ++ [moment]).filterMap pick = past.filterMap pick ++ [picked] := by
  rw [filterMap_snoc, some, Option.toList_some]

theorem Turn.coordinator {i : Nat} {lane lane' : Lane} {t : State}
    (turn : setup.Turn s i lane lane' t) : t.coordinator = s.coordinator := by
  cases turn <;> rfl

theorem answer_report {came : Time} (here : s.interrupter = .listening)
    (after : s'.interrupter = .heading came) :
    Moment.answer ⟨s, .interrupt, s'⟩ = some (s.now, .report) := by
  simp only [Moment.answer, here, after]

theorem answer_terminate {next : Nat} (here : s.interrupter = .listening)
    (after : s'.interrupter = .signalling next) :
    Moment.answer ⟨s, .interrupt, s'⟩ = some (s.now, .terminate) := by
  simp only [Moment.answer, here, after]

theorem answer_lost (s : State) : Moment.answer ⟨s, .interrupt, s⟩ = none := by
  cases here : s.interrupter <;> simp [Moment.answer, here]

/-- An interrupt that is not answered is lost. -/
theorem Step.unanswered (step : setup.Step s .interrupt s')
    (unanswered : Moment.answer ⟨s, .interrupt, s'⟩ = none) :
    s' = s ∧ (s.interrupter ≠ .listening ∨ s.dispatcher.hasReturned = true) := by
  cases step with
  | lost busy => exact ⟨rfl, busy⟩
  | ask here => cases (answer_report here rfl).symm.trans unanswered
  | stop here => cases (answer_terminate here rfl).symm.trans unanswered

/-- **What has been answered is what the coordinator would do about these interrupts**, and what it
would do about more of them if it had to is what it will do. -/
theorem Run.conducts (run : setup.Run s₀ past s) (listening : s₀.interrupter = .listening)
    (later : List Time) :
    s₀.coordinator.conduct ((past.filterMap Moment.answer).map Prod.fst ++ later)
      = (past.filterMap Moment.answer).map Prod.snd
        ++ if s.interrupter.hasDecided then [] else s.coordinator.conduct later := by
  induction run generalizing later with
  | nil =>
    rw [listening]
    rfl
  | @snoc past t t' e run step ih =>
    cases step?_step step with
    | @work i lane lane' u found turn =>
      rw [filterMap_skip rfl, ih]
      show _ = _ ++ if u.interrupter.hasDecided then [] else u.coordinator.conduct later
      rw [turn.interrupter, turn.coordinator]
    | ask here running meaning =>
      have answered := ih (t.now :: later)
      rw [here, if_neg (by decide), Interrupt.Coordinator.conduct_cons, meaning] at answered
      rw [filterMap_take (answer_report here rfl), List.map_append, List.map_append,
        List.append_assoc, List.append_assoc]
      exact answered
    | stop here running meaning =>
      have answered := ih (t.now :: later)
      rw [here, if_neg (by decide), Interrupt.Coordinator.conduct_cons, meaning] at answered
      rw [filterMap_take (answer_terminate here rfl), List.map_append, List.map_append,
        List.append_assoc, List.append_assoc]
      exact answered
    | lost busy =>
      rw [filterMap_skip (answer_lost t)]
      exact ih later
    | head here | survey here | surveyed here | reported here | report here | signal here
    | signalled here | announce here | abort here | raise here =>
      rw [filterMap_skip rfl, ih, here]
      rfl
    | _ =>
      rw [filterMap_skip rfl]
      exact ih later

/-- Interrupts are answered when they come. -/
theorem Moment.answer_event {moment : Moment} {answer : Time × Interrupt.Action}
    (answered : moment.answer = some answer) :
    moment.event = .interrupt ∧ answer.1 = moment.before.now := by
  unfold Moment.answer at answered
  split at answered
  · next here _ _ => cases answered; exact ⟨here, rfl⟩
  · next here _ _ => cases answered; exact ⟨here, rfl⟩
  · cases answered

/-- Interrupts are answered in the order of their times. -/
theorem Run.answers_sorted (run : setup.Run s₀ past s) :
    ((past.filterMap Moment.answer).map Prod.fst).Pairwise (· ≤ ·) ∧
      ∀ time ∈ (past.filterMap Moment.answer).map Prod.fst, time ≤ s.now := by
  induction run with
  | nil => exact ⟨.nil, fun _ among => absurd among List.not_mem_nil⟩
  | @snoc past t t' e run step ih =>
    obtain ⟨sorted, before⟩ := ih
    have forward := (step?_step step).now
    cases answered : Moment.answer ⟨t, e, t'⟩ with
    | none =>
      rw [filterMap_skip answered]
      exact ⟨sorted, fun time among => Nat.le_trans (before time among) forward⟩
    | some answer =>
      have now : answer.1 = t.now := (Moment.answer_event answered).2
      rw [filterMap_take answered, List.map_append, List.map_singleton, now]
      constructor
      · refine List.pairwise_append.mpr ⟨sorted, List.pairwise_singleton _ _, ?_⟩
        intro a first b last
        obtain rfl := List.mem_singleton.mp last
        exact before a first
      · intro time among
        rcases List.mem_append.mp among with earlier | last
        · exact Nat.le_trans (before time earlier) forward
        · obtain rfl := List.mem_singleton.mp last
          exact forward

/-! ### Lines -/

theorem ordered_report {came : Time} {targets : TargetList} (here : s.interrupter = .listening)
    (after : s'.interrupter = .heading came) :
    setup.ordered targets ⟨s, .interrupt, s'⟩ = [Interrupt.reportHeading] := by
  rw [ordered, answer_report here after]
  rfl

theorem ordered_terminate {next : Nat} {targets : TargetList} (here : s.interrupter = .listening)
    (after : s'.interrupter = .signalling next) :
    setup.ordered targets ⟨s, .interrupt, s'⟩ = [Interrupt.terminationNotice] := by
  rw [ordered, answer_terminate here after]
  rfl

theorem read_survey {came : Time} {next : Nat} {lines : List String} {lane : Lane}
    (here : s.interrupter = .surveying came next lines) (found : s.lanes[next]? = some lane) :
    Moment.read ⟨s, .act .interrupter, s'⟩ = some ((came, next), lane) := by
  simp only [Moment.read, here, found, Option.map_some]

theorem read_surveyed {came : Time} {next : Nat} {lines : List String}
    (here : s.interrupter = .surveying came next lines) (past : s.lanes.length ≤ next) :
    Moment.read ⟨s, .act .interrupter, s'⟩ = none := by
  simp only [Moment.read, here, List.getElem?_eq_none past, Option.map_none]

/-- When a record is read, what is asked for is what the report takes of it. -/
theorem ordered_survey {came : Time} {next : Nat} {lines : List String} {lane : Lane}
    {targets : TargetList} (hosts : s.lanes.map (fun lane => lane.record.host) = targets)
    (here : s.interrupter = .surveying came next lines) (found : s.lanes[next]? = some lane) :
    setup.ordered targets ⟨s, .act .interrupter, s'⟩ = (Interrupt.statusLine? setup.options.limits
      came setup.verbose lane.record).toList := by
  have target : targets[next]? = some lane.record.host := by
    rw [← hosts, List.getElem?_map, found, Option.map_some]
  rw [ordered, read_survey here found, ← standing_eq]
  simp only [Option.toList_some, List.filterMap_cons, List.filterMap_nil, target, Option.bind_some]
  cases setup.standing came lane.record.host lane <;> rfl

/-- Where no record is read nothing is asked for but by the user. -/
theorem ordered_act {targets : TargetList} (unread : Moment.read ⟨s, .act .interrupter, s'⟩ = none) :
    setup.ordered targets ⟨s, .act .interrupter, s'⟩ = [] := by
  rw [ordered, unread]
  rfl

theorem told_heading {came : Time} (here : s.interrupter = .heading came) :
    Moment.told ⟨s, .act .interrupter, s'⟩ = some Interrupt.reportHeading := by
  simp only [Moment.told, here]

theorem told_line {line : String} {lines : List String}
    (here : s.interrupter = .reporting (line :: lines)) :
    Moment.told ⟨s, .act .interrupter, s'⟩ = some line := by
  simp only [Moment.told, here]

theorem told_notice (here : s.interrupter = .announcing) :
    Moment.told ⟨s, .act .interrupter, s'⟩ = some Interrupt.terminationNotice := by
  simp only [Moment.told, here]

theorem flatMap_snoc {α β : Type} (pick : α → List β) (past : List α) (last : α) :
    (past ++ [last]).flatMap pick = past.flatMap pick ++ pick last := by
  rw [List.flatMap_append, List.flatMap_singleton]

/-- **The lines told, and those that are left, are those that were asked for**, in order. -/
theorem Run.lines_told (run : setup.Run s₀ past s) (starts : dispatch.Starts setup s₀) :
    past.flatMap (setup.ordered dispatch.targets)
      = past.filterMap Moment.told ++ s.interrupter.toTell := by
  induction run with
  | nil =>
    obtain ⟨prepared⟩ := starts
    rfl
  | @snoc past t t' e run step ih =>
    rw [flatMap_snoc, ih]
    cases step?_step step with
    | @work i lane lane' u found turn =>
      rw [filterMap_skip rfl]
      show _ = _ ++ u.interrupter.toTell
      rw [turn.interrupter]
      exact List.append_nil _
    | ask here running meaning =>
      rw [ordered_report here rfl, filterMap_skip rfl, here]
      simp [InterruptTask.toTell]
    | stop here running meaning =>
      rw [ordered_terminate here rfl, filterMap_skip rfl, here]
      simp [InterruptTask.toTell]
    | lost busy =>
      rw [ordered, answer_lost, filterMap_skip rfl]
      exact List.append_nil _
    | head here =>
      rw [ordered_act (by simp only [Moment.read, here]), filterMap_take (told_heading here), here]
      simp [InterruptTask.toTell]
    | survey here found =>
      rw [ordered_survey (run.hosts starts) here found,
        filterMap_skip (by simp only [Moment.told, here]), here]
      simp [InterruptTask.toTell]
    | surveyed here bound =>
      rw [ordered_act (read_surveyed here bound), filterMap_skip (by simp only [Moment.told, here]),
        here]
      exact List.append_nil _
    | report here =>
      rw [ordered_act (by simp only [Moment.read, here]), filterMap_take (told_line here), here]
      simp [InterruptTask.toTell]
    | announce here =>
      rw [ordered_act (by simp only [Moment.read, here]), filterMap_take (told_notice here), here]
      simp [InterruptTask.toTell]
    | reported here | signal here | signalled here | abort here | raise here =>
      rw [ordered_act (by simp only [Moment.read, here]),
        filterMap_skip (by simp only [Moment.told, here]), here]
      exact List.append_nil _
    | _ =>
      rw [filterMap_skip rfl]
      exact List.append_nil _

/-! ### Records -/

/-- What is to be read of so many hosts for some answers: for each report every record, in order. -/
def surveys (nhosts : Nat) (answers : List (Time × Interrupt.Action)) : List (Time × Nat) :=
  answers.flatMap fun answer =>
    match answer.2 with
    | .report => (List.range nhosts).map (answer.1, ·)
    | .terminate => []

/-- **The records read, and those that are left, are those of all reports**, each once and in
order. -/
theorem Run.records_read (run : setup.Run s₀ past s) (listening : s₀.interrupter = .listening) :
    (past.filterMap Moment.read).map Prod.fst ++ s.interrupter.toRead s.lanes.length
      = surveys s.lanes.length (past.filterMap Moment.answer) := by
  induction run with
  | nil =>
    rw [listening]
    rfl
  | @snoc past t t' e run step ih =>
    have happened := step?_step step
    rw [happened.length]
    cases happened with
    | @work i lane lane' u found turn =>
      rw [filterMap_skip rfl, filterMap_skip rfl, ← ih]
      show _ ++ u.interrupter.toRead _ = _
      rw [turn.interrupter]
    | ask here running meaning =>
      rw [filterMap_skip rfl, filterMap_take (answer_report here rfl), surveys, flatMap_snoc]
      rw [here] at ih
      rw [surveys] at ih
      rw [← ih]
      simp [InterruptTask.toRead]
    | stop here running meaning =>
      rw [filterMap_skip rfl, filterMap_take (answer_terminate here rfl), surveys, flatMap_snoc]
      rw [here] at ih
      rw [surveys] at ih
      rw [← ih]
      simp [InterruptTask.toRead]
    | lost busy =>
      rw [filterMap_skip rfl, filterMap_skip (answer_lost t)]
      exact ih
    | head here =>
      rw [filterMap_skip (by simp only [Moment.read, here]), filterMap_skip rfl, ← ih, here]
      simp [InterruptTask.toRead, List.range_eq_range']
    | @survey came next lines lane here found =>
      obtain ⟨left, rest⟩ : ∃ left, t.lanes.length - next = left + 1 :=
        ⟨_, Nat.eq_add_of_sub_eq (Nat.sub_pos_of_lt (List.getElem?_eq_some_iff.mp found).1) rfl⟩
      rw [filterMap_take (read_survey here found), filterMap_skip rfl, ← ih, here]
      simp only [InterruptTask.toRead, rest, List.range'_succ, Nat.sub_add_eq]
      simp
    | surveyed here bound =>
      rw [filterMap_skip (read_surveyed here bound), filterMap_skip rfl, ← ih, here]
      simp [InterruptTask.toRead, Nat.sub_eq_zero_of_le bound]
    | reported here | report here | signal here | signalled here | announce here | abort here
    | raise here =>
      rw [filterMap_skip (by simp only [Moment.read, here]), filterMap_skip rfl, ← ih, here]
      rfl
    | _ =>
      rw [filterMap_skip rfl, filterMap_skip rfl]
      exact ih

/-! ### Hosts -/

/-- **The hosts are visited in order**, each once. -/
theorem Run.visited_range (run : setup.Run s₀ past s) (listening : s₀.interrupter = .listening) :
    (past.filterMap Moment.visited).map Prod.fst
      = List.range (s.interrupter.visits s.lanes.length) := by
  induction run with
  | nil =>
    rw [listening]
    rfl
  | @snoc past t t' e run step ih =>
    have happened := step?_step step
    rw [happened.length]
    cases happened with
    | @work i lane lane' u found turn =>
      rw [filterMap_skip rfl, ih]
      show _ = List.range (u.interrupter.visits _)
      rw [turn.interrupter]
    | @signal next other here found =>
      have inside := (List.getElem?_eq_some_iff.mp found).1
      have picked : Moment.visited ⟨t, .act .interrupter,
          { t.signalHost other with interrupter := .signalling (next + 1) }⟩
          = some (next, other) := by
        simp only [Moment.visited, here, found]
        rfl
      rw [filterMap_take picked, List.map_append, ih, here]
      simp only [InterruptTask.visits, Nat.min_eq_left (Nat.le_of_lt inside),
        Nat.min_eq_left inside, List.range_succ]
      rfl
    | signalled here past =>
      rw [filterMap_skip (by
        simp only [Moment.visited, here, List.getElem?_eq_none past, Option.map_none]), ih, here]
      simp only [InterruptTask.visits, Nat.min_eq_right past]
    | ask here | stop here =>
      rw [filterMap_skip rfl, ih, here]
      simp [InterruptTask.visits]
    | head here | survey here | surveyed here | reported here | report here | announce here
    | abort here | raise here =>
      rw [filterMap_skip (by simp only [Moment.visited, here]), ih, here]
      rfl
    | _ =>
      rw [filterMap_skip rfl]
      exact ih

/-- **The hosts are asked to abort in order**, each once. -/
theorem Run.stopped_range (run : setup.Run s₀ past s) (listening : s₀.interrupter = .listening) :
    past.filterMap Moment.stopped = List.range (s.interrupter.asks s.lanes.length) := by
  induction run with
  | nil =>
    rw [listening]
    rfl
  | @snoc past t t' e run step ih =>
    have happened := step?_step step
    rw [happened.length]
    cases happened with
    | @work i lane lane' u found turn =>
      rw [filterMap_skip rfl, ih]
      show _ = List.range (u.interrupter.asks _)
      rw [turn.interrupter]
    | @abort next here bound =>
      have picked : Moment.stopped ⟨t, .act .interrupter,
          { t.abortHost next with interrupter := .aborting (next + 1) }⟩ = some next := by
        simp only [Moment.stopped, here, if_pos bound]
      rw [filterMap_take picked, ih, here]
      simp only [InterruptTask.asks, Nat.min_eq_left (Nat.le_of_lt bound),
        Nat.min_eq_left bound, List.range_succ]
    | raise here past =>
      rw [filterMap_skip (by simp only [Moment.stopped, here, if_neg (Nat.not_lt_of_le past)]), ih,
        here]
      simp only [InterruptTask.asks, Nat.min_eq_right past]
    | announce here =>
      rw [filterMap_skip (by simp only [Moment.stopped, here]), ih, here]
      simp [InterruptTask.asks]
    | ask here | stop here =>
      rw [filterMap_skip rfl, ih, here]
      rfl
    | head here | survey here | surveyed here | reported here | report here | signal here
    | signalled here =>
      rw [filterMap_skip (by simp only [Moment.stopped, here]), ih, here]
      rfl
    | _ =>
      rw [filterMap_skip rfl]
      exact ih

/-! ### Nothing else -/

/-- All that the user and the task for interrupts do to a run in one event: a line is told, a signal
goes out, a host is asked to abort. -/
structure Attends (moment : Moment) : Prop where
  /-- A line that is told is written, unless there is no room for it. -/
  console : moment.after.console.lines = moment.before.console.lines ++
    match moment.told with
    | some line =>
      if moment.before.console.room .err = some 0 then []
      else [⟨moment.before.now, .err, line ++ "\n"⟩]
    | none => []
  signals : moment.after.signals = moment.before.signals ++
    moment.visited.toList.flatMap fun place => place.2.farewell
  lanes : ∀ (i : Nat) (lane : Lane), moment.before.lanes[i]? = some lane →
    moment.after.lanes[i]? = some (if moment.stopped = some i then lane.abort else lane)

theorem tell_lines (s : State) (line : String) : (s.tell line).console.lines
    = s.console.lines ++ if s.console.room .err = some 0 then []
        else [⟨s.now, .err, line ++ "\n"⟩] := by
  by_cases room : s.console.room .err = some 0
  · rw [State.tell, Console.diagnostic, Console.write?, if_pos room, if_pos room, List.append_nil]
    rfl
  · rw [if_neg room]
    exact Console.diagnostic_lines room

/-- **The user and the task for interrupts do nothing else.** -/
theorem Step.attends {e : Event} (step : setup.Step s e s')
    (own : e = .interrupt ∨ e = .act .interrupter) : Attends ⟨s, e, s'⟩ := by
  have idle {t : State} {e : Event} (console : t.console = s.console)
      (signals : t.signals = s.signals) (lanes : t.lanes = s.lanes)
      (told : Moment.told ⟨s, e, t⟩ = none) (visited : Moment.visited ⟨s, e, t⟩ = none)
      (stopped : Moment.stopped ⟨s, e, t⟩ = none) : Attends ⟨s, e, t⟩ := by
    refine ⟨?_, ?_, ?_⟩
    · rw [told, console]
      exact (List.append_nil _).symm
    · rw [visited, signals]
      exact (List.append_nil _).symm
    · intro i lane found
      rw [stopped, lanes]
      exact found
  cases step with
  | lost | ask | stop => exact idle rfl rfl rfl rfl rfl rfl
  | survey here | surveyed here | reported here =>
    exact idle rfl rfl rfl (by simp only [Moment.told, here]) (by simp only [Moment.visited, here])
      (by simp only [Moment.stopped, here])
  | signalled here past =>
    exact idle rfl rfl rfl (by simp only [Moment.told, here])
      (by simp only [Moment.visited, here, List.getElem?_eq_none past, Option.map_none])
      (by simp only [Moment.stopped, here])
  | raise here past =>
    exact idle rfl rfl rfl (by simp only [Moment.told, here]) (by simp only [Moment.visited, here])
      (by simp only [Moment.stopped, here, if_neg (Nat.not_lt_of_le past)])
  | head here =>
    refine ⟨?_, ?_, ?_⟩
    · rw [told_heading here]
      exact tell_lines s _
    · simp only [Moment.visited, here]
      exact (List.append_nil _).symm
    · intro i lane found
      simp only [Moment.stopped, here]
      exact found
  | @report line lines here =>
    refine ⟨?_, ?_, ?_⟩
    · rw [told_line here]
      exact tell_lines s line
    · simp only [Moment.visited, here]
      exact (List.append_nil _).symm
    · intro i lane found
      simp only [Moment.stopped, here]
      exact found
  | announce here =>
    refine ⟨?_, ?_, ?_⟩
    · rw [told_notice here]
      exact tell_lines s _
    · simp only [Moment.visited, here]
      exact (List.append_nil _).symm
    · intro i lane found
      simp only [Moment.stopped, here]
      exact found
  | @signal next other here found =>
    refine ⟨?_, ?_, ?_⟩
    · simp only [Moment.told, here]
      exact (List.append_nil _).symm
    · simp only [Moment.visited, here, found, Option.map_some, Option.toList_some,
        List.flatMap_singleton, ← Lane.terminationSignal_eq]
      rfl
    · intro i lane there
      simp only [Moment.stopped, here]
      exact there
  | @abort next here bound =>
    refine ⟨?_, ?_, ?_⟩
    · simp only [Moment.told, here]
      exact (List.append_nil _).symm
    · simp only [Moment.visited, here]
      exact (List.append_nil _).symm
    · intro i lane found
      simp only [Moment.stopped, here, if_pos bound, Option.some.injEq]
      exact (State.abortHost_lane s next i).trans (by rw [found]; rfl)
  | _ => rcases own with own | own <;> cases own

/-- A turn sends no signal unless its worker takes the run down. -/
theorem Turn.signals {i : Nat} {lane lane' : Lane} {t : State}
    (turn : setup.Turn s i lane lane' t) (plain : lane.worker.isInLockstep = false) :
    t.signals = s.signals := by
  cases turn with
  | signal here =>
    rw [here] at plain
    cases plain
  | _ => rfl

/-- **Where one failed host does not end the run for all, no other signals go out.** -/
theorem Run.signals_sent (run : setup.Run s₀ past s) (starts : dispatch.Starts setup s₀)
    (apart : dispatch.backend.lockstep = false) :
    s.signals = (past.filterMap Moment.visited).flatMap fun place => place.2.farewell := by
  induction run with
  | nil =>
    obtain ⟨prepared⟩ := starts
    rfl
  | @snoc past t t' e run step ih =>
    have happened := step?_step step
    rw [filterMap_snoc, List.flatMap_append, ← ih]
    by_cases own : e = .interrupt ∨ e = .act .interrupter
    · exact (happened.attends own).signals
    · cases happened with
      | work found turn =>
        exact (turn.signals (run.plain starts apart _ _ found)).trans (List.append_nil _).symm
      | lost | ask | stop => exact absurd (.inl rfl) own
      | head | survey | surveyed | reported | report | signal | signalled | announce | abort
      | raise => exact absurd (.inr rfl) own
      | _ => exact (List.append_nil _).symm

/-! ### All of it -/

/-- What has been decided is carried out in a fair course. -/
theorem Run.carried_out (run : setup.Run s₀ past s)
    (ends : .terminate ∈ (past.filterMap Moment.answer).map Prod.snd) {course : setup.Unending s}
    (fair : course.Fair) : ∃ m, (course.state m).interrupter = .gone := by
  refine fair.gone ?_
  obtain ⟨answer, among, action⟩ := List.mem_map.mp ends
  obtain ⟨moment, among, answered⟩ := List.mem_filterMap.mp among
  obtain ⟨_, _, -, -, later, -⟩ := run.split among
  refine later.preserves (P := fun u => u.interrupter.hasDecided = true) ?_
    fun _ _ _ step decided => step.hasDecided decided
  unfold Moment.answer at answered
  split at answered
  · cases answered
    cases action
  · next after =>
    rw [after]
    rfl
  · cases answered

/-- A report can always go on. -/
theorem interrupterStep?_isSome (busy : s.interrupter.isReporting = true) :
    (setup.interrupterStep? s).isSome = true := by
  unfold interrupterStep?
  cases here : s.interrupter with
  | heading => rfl
  | surveying came next lines =>
    dsimp only
    split <;> rfl
  | reporting lines => cases lines <;> rfl
  | _ =>
    rw [here] at busy
    cases busy

/-- A report goes on, or it is over. -/
theorem Step.reports (step : setup.Step s (.act .interrupter) s')
    (busy : s.interrupter.isReporting = true) : s'.interrupter = .listening ∨
      s'.interrupter.isReporting = true ∧
        s'.interrupter.toGo s'.lanes.length < s.interrupter.toGo s.lanes.length := by
  have length := step.length
  cases step with
  | reported => exact .inl rfl
  | head here =>
    refine .inr ⟨rfl, ?_⟩
    rw [length, here]
    show 2 * (s.lanes.length - 0) + 0 + 2 < 2 * s.lanes.length + 3
    omega
  | @survey came next lines lane here found =>
    have inside := (List.getElem?_eq_some_iff.mp found).1
    have line := Option.length_toList_le (o := Interrupt.statusLine? setup.options.limits came
      setup.verbose lane.record)
    refine .inr ⟨rfl, ?_⟩
    rw [length, here]
    simp only [InterruptTask.toGo, List.length_append]
    omega
  | surveyed here bound =>
    refine .inr ⟨rfl, ?_⟩
    rw [length, here]
    simp only [InterruptTask.toGo]
    omega
  | report here =>
    refine .inr ⟨rfl, ?_⟩
    rw [here]
    exact Nat.lt_succ_self _
  | signal here | signalled here | announce here | abort here | raise here =>
    rw [here] at busy
    cases busy

/-- **In a fair course everything is told** that was asked for. -/
theorem Unending.Fair.told_all {course : setup.Unending s} (fair : course.Fair) :
    ∃ m, (course.state m).interrupter.toTell = [] ∧
      ∀ nhosts, (course.state m).interrupter.toRead nhosts = [] := by
  cases here : s.interrupter with
  | listening | aborting | gone =>
    refine ⟨0, ?_⟩
    rw [course.begins, here]
    exact ⟨rfl, fun _ => rfl⟩
  | signalling | announcing =>
    obtain ⟨m, gone⟩ := fair.gone (by rw [here]; rfl)
    refine ⟨m, ?_⟩
    rw [gone]
    exact ⟨rfl, fun _ => rfl⟩
  | heading | surveying | reporting =>
    suffices ∃ m, 0 ≤ m ∧ (course.state m).interrupter = .listening by
      obtain ⟨m, -, listens⟩ := this
      refine ⟨m, ?_⟩
      rw [listens]
      exact ⟨rfl, fun _ => rfl⟩
    refine fair.reaches (fun m left actor => actor = .interrupter ∧
      (course.state m).interrupter.isReporting = true ∧
        (course.state m).interrupter.toGo (course.state m).lanes.length = left) ?_ ?_
      ⟨rfl, by rw [course.begins, here]; rfl, rfl⟩
    · rintro m left actor ⟨rfl, busy, -⟩
      exact interrupterStep?_isSome busy
    · rintro m left actor ⟨rfl, busy, rfl⟩
      have step := step?_step (course.step m)
      by_cases own : course.event m = .act .interrupter
      · rw [own] at step
        exact (step.reports busy).imp_right fun ⟨busy, less⟩ =>
          ⟨_, .interrupter, ⟨rfl, busy, rfl⟩, .inl less⟩
      · have same := step.undisturbed own fun idle => by rw [idle] at busy; cases busy
        refine .inr ⟨_, .interrupter, ⟨rfl, same ▸ busy, rfl⟩, .inr ⟨?_, rfl, own⟩⟩
        rw [same, step.length]

/-- **Interrupts are answered as they are to be**, in every order of events and for any times.

The interrupts that find the task waiting are answered with reports until one comes less than the
window after the one just before it, and that one ends the run; a batch run ends at the first. So a
run that takes two steps ends if and only if two interrupts are that close, neighbours or not. An
interrupt is lost only on a task that is busy, or in a run that is over, and then changes nothing.

For a report the task reads the record of every host once, in the order of the targets. The lines
told are those asked for, in order: the heading of a report, then one line for each host that is
connecting or executing when its record is read. Each is written if there is room for it. A report
changes no host. Who ends the run visits every host once, in order, and sends one
signal to it if it is executing and there is a way, whether or not the signal is delivered; then
asks every host to abort; and sends no other signal, and changes nothing else about any host. Where
one failed host does not end the run for all, no other signals go out at all. In a fair course all
that was asked for is told, and what ends the run is carried out. -/
theorem Run.interrupts_answered (starts : dispatch.Starts setup s₀) (run : setup.Run s₀ past s) :
    let answers := past.filterMap Moment.answer
    let policy := if dispatch.options.batch then Policy.batch else .twoStep
    (∀ policy times, Judged policy times (Coordinator.conduct ⟨policy, none⟩ times)) ∧
    (Judged policy (answers.map Prod.fst) (answers.map Prod.snd) ∧
      (answers.map Prod.fst).Pairwise (· ≤ ·)) ∧
    (∀ times actions, Judged .twoStep times actions → (.terminate ∈ actions ↔
      ∃ a b, [a, b].Sublist times ∧ b < a + Interrupt.window)) ∧
    (∀ moment ∈ past, moment.event = .interrupt → moment.answer = none →
      moment.after = moment.before ∧ (moment.before.interrupter ≠ .listening ∨
        moment.before.dispatcher.hasReturned = true)) ∧
    past.flatMap (setup.ordered dispatch.targets)
      = past.filterMap Moment.told ++ s.interrupter.toTell ∧
    (past.filterMap Moment.read).map Prod.fst ++ s.interrupter.toRead dispatch.targets.length
      = surveys dispatch.targets.length answers ∧
    (∀ moment ∈ past, moment.event = .interrupt ∨ moment.event = .act .interrupter →
      Attends moment) ∧
    (past.filterMap Moment.visited).map Prod.fst
      = List.range (s.interrupter.visits dispatch.targets.length) ∧
    past.filterMap Moment.stopped
      = List.range (s.interrupter.asks dispatch.targets.length) ∧
    (dispatch.backend.lockstep = false →
      s.signals = (past.filterMap Moment.visited).flatMap fun place => place.2.farewell) ∧
    (s.interrupter = .gone → ∀ lane ∈ s.lanes, lane.record.aborted = true) ∧
    ∀ course : setup.Unending s, course.Fair →
      (∃ m, (course.state m).interrupter.toTell = [] ∧
        ∀ nhosts, (course.state m).interrupter.toRead nhosts = []) ∧
      (.terminate ∈ answers.map Prod.snd → ∃ m, (course.state m).interrupter = .gone) := by
  have listening : s₀.interrupter = .listening := by
    obtain ⟨prepared⟩ := starts
    rfl
  have fresh : s₀.coordinator
      = ⟨if dispatch.options.batch then Policy.batch else .twoStep, none⟩ := by
    obtain ⟨prepared⟩ := starts
    rfl
  have nhosts : s.lanes.length = dispatch.targets.length := run.length.trans starts.length
  refine ⟨Interrupt.conduct_judged, ⟨?_, run.answers_sorted.1⟩, fun _ _ => Judged.terminates_iff,
    ?_, run.lines_told starts, nhosts ▸ run.records_read listening, ?_, nhosts ▸ run.visited_range listening,
    nhosts ▸ run.stopped_range listening, run.signals_sent starts, ?_, ?_⟩
  · have conducts := run.conducts listening []
    have nothing : (if s.interrupter.hasDecided then [] else s.coordinator.conduct []) = [] :=
      ite_self _
    rw [List.append_nil, nothing, List.append_nil, fresh] at conducts
    rw [← conducts]
    exact Interrupt.conduct_judged _ _
  · intro moment among event unanswered
    obtain ⟨_, _, -, step, -⟩ := run.split among
    obtain ⟨before, _, after⟩ := moment
    obtain rfl := event
    exact step.unanswered unanswered
  · intro moment among own
    obtain ⟨_, _, -, step, -⟩ := run.split among
    exact step.attends own
  · intro gone lane among
    obtain ⟨i, found⟩ := List.mem_iff_getElem?.mp among
    have asked := (run.alarmed starts).fatal (run.told_by_user starts gone)
    exact asked i lane (List.getElem?_eq_some_iff.mp found).1 found
  · exact fun course fair => ⟨fair.told_all, fun ends => run.carried_out ends fair⟩

/-- Three hosts. Two are executing for a second, and the first of these cannot be signalled; the
third does not answer. -/
def halfReached : Dispatch :=
  .ofScript (fun name => if name = "c" then ⟨none, .crash⟩ else ⟨some 0, .session {
    stdout := ⟨[], .closed Time.second⟩
    backchannel := some ⟨name, if name = "a" then some (.connect "gone") else none⟩ }⟩)
    ["a", "b", "c"] { localUser := "u" }

/-- The user interrupts twice. The third host gets no signal, the second gets one although the first
could not be reached, and all are asked to abort. -/
theorem Run.interrupts_answered_halfReached :
    ∃ setup s₀ past s, halfReached.Starts setup s₀ ∧ setup.Run s₀ past s ∧
      s.signals = [⟨"a", 15⟩, ⟨"b", 15⟩] ∧
      (past.filterMap Moment.visited).map Prod.fst = [0, 1, 2] ∧
      past.filterMap Moment.stopped = [0, 1, 2] ∧
      ∀ lane ∈ s.lanes, lane.record.aborted = true := by
  have starts := Dispatch.ofScript.starts (fun name => if name = "c" then ⟨none, .crash⟩ else
    ⟨some 0, .session {
      stdout := ⟨[], .closed Time.second⟩
      backchannel := some ⟨name, if name = "a" then some (.connect "gone") else none⟩ }⟩)
    { localUser := "u" } "a" ["b", "c"]
  obtain ⟨past, run, -⟩ := starts.run.further
    (List.replicate 6 (.act .dispatcher) ++ List.replicate 5 (.act (.worker 0))
      ++ List.replicate 5 (.act (.worker 1)) ++ List.replicate 2 (.act (.worker 2))
      ++ [.interrupt] ++ List.replicate 9 (.act .interrupter)
      ++ [.interrupt] ++ List.replicate 9 (.act .interrupter)) rfl
  obtain ⟨-, -, -, -, -, -, -, visited, stopped, -, aborted, -⟩ := interrupts_answered starts run
  exact ⟨_, _, past, _, starts, run, rfl, visited, stopped, aborted rfl⟩

/-- One host that takes a second to connect to, and a console. -/
def slowToConnect (console : Console) : Dispatch :=
  { Dispatch.ofScript (fun _ => ⟨some Time.second, .session {
      stdout := ⟨[], .closed Time.second⟩ }⟩) ["a"] { localUser := "u" } with console }

/-- **The lines of a report are lost on a console that takes no more.** The task goes through the
report, and listens again, with nothing on the console. -/
theorem interrupts_answered_fails_on_full_console :
    ¬ ∀ (dispatch : Dispatch) (setup : Setup) (s₀ s : State) (past : List Moment),
      dispatch.Starts setup s₀ → setup.Run s₀ past s → s.interrupter = .listening →
      ∀ moment ∈ past, ∀ asked lane, moment.read = some (asked, lane) →
        lane.record.phase = .connecting →
          ∃ line ∈ s.console.lines, line.text = lane.record.hostname ++ ": connecting\n" := by
  intro stands
  have starts := @Dispatch.Starts.intro (slowToConnect { errRoom := some 0 }) _
    (Dispatch.ofScript.prepared (fun _ => ⟨some Time.second, .session {
      stdout := ⟨[], .closed Time.second⟩ }⟩) { localUser := "u" } "a" [])
  obtain ⟨past, first, -⟩ := starts.run.further
    (List.replicate 2 (.act .dispatcher) ++ List.replicate 2 (.act (.worker 0))
      ++ [.clock (100 * Time.millisecond), .interrupt, .act .interrupter]) rfl
  have surveyed := first.snoc (e := .act .interrupter) rfl
  obtain ⟨later, second, -⟩ := surveyed.further (List.replicate 3 (.act .interrupter)) rfl
  obtain ⟨line, among, -⟩ := stands _ _ _ _ _ starts (surveyed.append second) rfl _
    (List.mem_append_left _ (List.mem_append_right _ (List.mem_singleton_self _))) _ _ rfl rfl
  cases among

end Setup

end Fleet
