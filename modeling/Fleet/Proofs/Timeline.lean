import Fleet.Record

/-!
# What a record has been through

A record is written by calls, and not every call has an effect: a step may not be legal, another
failure may have been noted before, an exit code may come when all is over. The theorems here are
about any calls in any order, whether they make sense or not.

`Record.entries` reads from the calls which phases the record has entered, and when. Such a list
has one of six shapes, and each of them goes with one phase and with the times on the record
(`Lived`); so whatever is to be said about phases and times is said of six cases.

**The law** (`Record.chronicle`): the times on a record are those at which it entered its phases, in
order, and stay; of failures and backchannels the first is kept, and the exit code is final once the
host's life is over.
-/

namespace Fleet

namespace Record

/-- A record to which nothing has been done. -/
structure IsBlank (record : Record) : Prop where
  phase : record.phase = .new
  startedAt : record.startedAt = none
  connectedAt : record.connectedAt = none
  finishedAt : record.finishedAt = none
  exitCode : record.exitCode = none
  backchannel : record.backchannel = none
  failure : record.failure = none
  aborted : record.aborted = false

/-- What can be done to a record. -/
inductive Call where
  | advance (next : Phase)
  | setExitCode (code : Int32)
  | setFailure (reason : String)
  | setBackchannel (backchannel : Backchannel)
  | abort
  deriving Repr, DecidableEq

/-- The reason for a failure that a call brings. -/
def Call.failure? : Call → Option String
  | setFailure reason => some reason
  | _ => none

/-- The way to signal the remote side that a call brings. -/
def Call.backchannel? : Call → Option Backchannel
  | setBackchannel backchannel => some backchannel
  | _ => none

/-- The record after a call. -/
def receive (record : Record) (now : Time) : Call → Record
  | .advance next => (record.advance now next).2
  | .setExitCode code => record.setExitCode code
  | .setFailure reason => record.setFailure reason
  | .setBackchannel backchannel => record.setBackchannel backchannel
  | .abort => record.abort

/-- The record after calls, each at its moment. -/
def after (record : Record) (calls : List (Time × Call)) : Record :=
  calls.foldl (fun record call => record.receive call.1 call.2) record

/-- The phase that a call takes a record into, if it is another one, with the moment. -/
def enters? (record : Record) (call : Time × Call) : Option (Time × Phase) :=
  if (record.receive call.1 call.2).phase = record.phase then none
  else some (call.1, (record.receive call.1 call.2).phase)

/-- The phases that calls take a record into, each with the moment. -/
def entries (record : Record) : List (Time × Call) → List (Time × Phase)
  | [] => []
  | call :: later => (record.enters? call).toList ++ entries (record.receive call.1 call.2) later

/-- The phase of a record and the times on it. -/
structure Standing where
  phase : Phase
  startedAt : Option Time
  connectedAt : Option Time
  finishedAt : Option Time
  deriving Repr, DecidableEq

/-- The phase of a record and the times on it. -/
def standing (record : Record) : Standing :=
  ⟨record.phase, record.startedAt, record.connectedAt, record.finishedAt⟩

/-- **The lives of a host**: the phases it has entered, and what its record says then. -/
inductive Lived : List (Time × Phase) → Standing → Prop where
  | new : Lived [] ⟨.new, none, none, none⟩
  | connecting {a : Time} : Lived [(a, .connecting)] ⟨.connecting, some a, none, none⟩
  | executing {a b : Time} :
      Lived [(a, .connecting), (b, .executing)] ⟨.executing, some a, some b, none⟩
  | done {a b c : Time} :
      Lived [(a, .connecting), (b, .executing), (c, .done)] ⟨.done, some a, some b, some c⟩
  /-- It failed before its session was open. -/
  | refused {a c : Time} :
      Lived [(a, .connecting), (c, .failed)] ⟨.failed, some a, none, some c⟩
  | failed {a b c : Time} :
      Lived [(a, .connecting), (b, .executing), (c, .failed)] ⟨.failed, some a, some b, some c⟩

namespace Lived

variable {path : List (Time × Phase)} {standing : Standing}

theorem startedAt_eq_some_iff (lived : Lived path standing) (moment : Time) :
    standing.startedAt = some moment ↔ (moment, .connecting) ∈ path := by
  cases lived <;> simp [eq_comm]

theorem connectedAt_eq_some_iff (lived : Lived path standing) (moment : Time) :
    standing.connectedAt = some moment ↔ (moment, .executing) ∈ path := by
  cases lived <;> simp [eq_comm]

theorem finishedAt_eq_some_iff (lived : Lived path standing) (moment : Time) :
    standing.finishedAt = some moment ↔ (moment, .done) ∈ path ∨ (moment, .failed) ∈ path := by
  cases lived <;> simp [eq_comm]

theorem startedAt_isSome_iff (lived : Lived path standing) :
    standing.startedAt.isSome = true ↔ standing.phase ≠ .new := by
  cases lived <;> simp

theorem finishedAt_isSome_iff (lived : Lived path standing) :
    standing.finishedAt.isSome = true ↔ standing.phase = .done ∨ standing.phase = .failed := by
  cases lived <;> simp

/-- The phase that was entered last. -/
theorem mem_path (lived : Lived path standing) :
    standing.phase = .new ∨ ∃ moment, (moment, standing.phase) ∈ path := by
  cases lived <;> simp

/-- The times on a record are in order if the moments of its path are. -/
theorem ordered (lived : Lived path standing) (ordered : (path.map Prod.fst).Pairwise (· ≤ ·)) :
    (∀ started connected, standing.startedAt = some started →
      standing.connectedAt = some connected → started ≤ connected) ∧
    (∀ started finished, standing.startedAt = some started →
      standing.finishedAt = some finished → started ≤ finished) ∧
    ∀ connected finished, standing.connectedAt = some connected →
      standing.finishedAt = some finished → connected ≤ finished := by
  cases lived <;> simp_all

end Lived

variable {record : Record}

/-! ## One call -/

theorem IsBlank.standing (blank : record.IsBlank) : record.standing = ⟨.new, none, none, none⟩ := by
  rw [Record.standing, blank.phase, blank.startedAt, blank.connectedAt, blank.finishedAt]

/-- **A legal step prolongs the life of a host.** -/
theorem Lived.enter {path : List (Time × Phase)} (lived : Lived path record.standing) {next : Phase}
    (legal : record.phase.Leads next) (now : Time) :
    Lived (path ++ [(now, next)]) ({ record with phase := next }.stamp now next).standing := by
  generalize same : record.standing = standing at lived
  have phase : record.phase = standing.phase := by rw [← same]; rfl
  have startedAt : record.startedAt = standing.startedAt := by rw [← same]; rfl
  have connectedAt : record.connectedAt = standing.connectedAt := by rw [← same]; rfl
  have finishedAt : record.finishedAt = standing.finishedAt := by rw [← same]; rfl
  rw [phase] at legal
  cases lived <;> cases legal <;>
    simp only [Record.standing, stamp, startedAt, connectedAt, finishedAt, Option.none_or]
  · exact .connecting
  · exact .executing
  · exact .refused
  · exact .done
  · exact .failed

/-- What a call does to the phase and the times: nothing, unless it is a legal step. -/
theorem receive_cases (record : Record) (now : Time) (call : Call) :
    (record.receive now call).standing = record.standing ∨
      ∃ next, record.phase.Leads next ∧
        record.receive now call = { record with phase := next }.stamp now next := by
  cases call with
  | advance next =>
    by_cases legal : record.phase.canAdvance next = true
    · refine .inr ⟨next, (Phase.canAdvance_iff _ _).mp legal, ?_⟩
      rw [receive, advance_of_legal now legal]
    · exact .inl (by rw [receive, advance, if_neg legal])
  | setExitCode code =>
    obtain ⟨noted, same⟩ := record.setExitCode_eq code
    exact .inl (by rw [receive, same]; rfl)
  | setFailure | setBackchannel | abort => exact .inl rfl

/-- **Every call leaves a host with a life that it can have.** -/
theorem Lived.receive {path : List (Time × Phase)} (lived : Lived path record.standing)
    (call : Time × Call) :
    Lived (path ++ (record.enters? call).toList) (record.receive call.1 call.2).standing := by
  rcases record.receive_cases call.1 call.2 with same | ⟨next, legal, same⟩
  · have phase : (record.receive call.1 call.2).phase = record.phase := congrArg Standing.phase same
    rw [enters?, if_pos phase, same]
    rwa [Option.toList_none, List.append_nil]
  · have phase : (record.receive call.1 call.2).phase = next := by rw [same, stamp_phase]
    have moved : next ≠ record.phase := by
      intro stays
      rw [stays] at legal
      cases here : record.phase <;> rw [here] at legal <;> cases legal
    rw [enters?, if_neg (phase ▸ moved), phase, same]
    exact lived.enter legal call.1

/-- The step of a record says whether it is legal, and if it is not, it changes nothing. -/
theorem advance_iff (record : Record) (now : Time) (next : Phase) :
    ((record.advance now next).1 = true ↔ record.phase.Leads next) ∧
      ((record.advance now next).1 = true → (record.advance now next).2.phase = next) ∧
      ((record.advance now next).1 = false → (record.advance now next).2 = record) := by
  rw [← Phase.canAdvance_iff]
  by_cases legal : record.phase.canAdvance next = true
  · simp [advance_of_legal now legal, legal]
  · simp [advance, legal]

/-! ## Any calls -/

theorem after_cons (record : Record) (call : Time × Call) (later : List (Time × Call)) :
    record.after (call :: later) = (record.receive call.1 call.2).after later := rfl

/-- **What every call keeps, any calls keep.** -/
theorem after_induction {P : Record → Prop} (start : P record)
    (keeps : ∀ record now call, P record → P (record.receive now call))
    (calls : List (Time × Call)) : P (record.after calls) := by
  induction calls generalizing record with
  | nil => exact start
  | cons call later ih => exact ih (keeps record call.1 call.2 start)

theorem Lived.after {path : List (Time × Phase)} (lived : Lived path record.standing)
    (calls : List (Time × Call)) :
    Lived (path ++ record.entries calls) (record.after calls).standing := by
  induction calls generalizing record path with
  | nil =>
    rw [entries, List.append_nil]
    exact lived
  | cons call later ih =>
    rw [entries, ← List.append_assoc]
    exact ih (lived.receive call)

/-- **The life of a host, whatever is done to its record.** -/
theorem IsBlank.lived (blank : record.IsBlank) (calls : List (Time × Call)) :
    Lived (record.entries calls) (record.after calls).standing :=
  (blank.standing ▸ Lived.new : Lived [] record.standing).after calls

/-- A phase is entered at the moment of a call. -/
theorem entries_sublist (record : Record) (calls : List (Time × Call)) :
    ((record.entries calls).map Prod.fst).Sublist (calls.map Prod.fst) := by
  induction calls generalizing record with
  | nil => exact .slnil
  | cons call later ih =>
    rw [entries, List.map_append, List.map_cons]
    unfold enters?
    split
    · exact (ih _).cons _
    · exact (ih _).cons_cons _

/-- **What is written once is the first that is brought.** -/
theorem after_eq_or_findSome? {α : Type} {noted : Record → Option α} {brought? : Call → Option α}
    (writes : ∀ record now call,
      noted (record.receive now call) = (noted record).or (brought? call))
    (record : Record) (calls : List (Time × Call)) :
    noted (record.after calls)
      = (noted record).or (calls.findSome? fun call => brought? call.2) := by
  induction calls generalizing record with
  | nil => exact Option.or_none.symm
  | cons call later ih =>
    rw [after_cons, ih, writes, Option.or_assoc, List.findSome?_cons]
    cases brought? call.2 <;> rfl

theorem receive_failure (record : Record) (now : Time) (call : Call) :
    (record.receive now call).failure = record.failure.or call.failure? := by
  cases call with
  | advance next => exact (record.advance_failure now next).trans Option.or_none.symm
  | setExitCode code =>
    obtain ⟨noted, same⟩ := record.setExitCode_eq code
    rw [receive, same]
    exact Option.or_none.symm
  | setFailure reason => rfl
  | setBackchannel | abort => exact Option.or_none.symm

theorem receive_backchannel (record : Record) (now : Time) (call : Call) :
    (record.receive now call).backchannel = record.backchannel.or call.backchannel? := by
  cases call with
  | advance next =>
    refine Eq.trans ?_ Option.or_none.symm
    rw [receive, advance]
    split
    · cases next <;> rfl
    · rfl
  | setExitCode code =>
    obtain ⟨noted, same⟩ := record.setExitCode_eq code
    rw [receive, same]
    exact Option.or_none.symm
  | setBackchannel backchannel => rfl
  | setFailure | abort => exact Option.or_none.symm

/-- A call that comes when all is over changes neither the phase nor the exit code. -/
theorem receive_of_isTerminal (ended : record.phase.isTerminal = true) (now : Time) (call : Call) :
    (record.receive now call).phase = record.phase ∧
      (record.receive now call).exitCode = record.exitCode := by
  cases call with
  | advance next =>
    rw [receive, advance, if_neg (by rw [Phase.canAdvance_of_isTerminal ended]; decide)]
    exact ⟨rfl, rfl⟩
  | setExitCode code =>
    rw [receive, setExitCode, if_pos ended]
    exact ⟨rfl, rfl⟩
  | setFailure | setBackchannel | abort => exact ⟨rfl, rfl⟩

/-- **The exit code is final when all is over.** -/
theorem after_of_isTerminal (ended : record.phase.isTerminal = true) (calls : List (Time × Call)) :
    (record.after calls).phase = record.phase ∧
      (record.after calls).exitCode = record.exitCode := by
  refine after_induction (P := fun later =>
    later.phase = record.phase ∧ later.exitCode = record.exitCode) ⟨rfl, rfl⟩ ?_ calls
  rintro later now call ⟨phase, exitCode⟩
  obtain ⟨phase', exitCode'⟩ := later.receive_of_isTerminal (phase ▸ ended) now call
  exact ⟨phase'.trans phase, exitCode'.trans exitCode⟩

/-! ## Spans -/

/-- A span from one noted time to another that is not before it. -/
private theorem span_eq_some_iff {since later : Option Time}
    (ordered : ∀ a b, since = some a → later = some b → a ≤ b) (span : Time) :
    (do let b ← later; let a ← since; return b - a) = some span ↔
      ∃ a, since = some a ∧ later = some (a + span) := by
  cases since with
  | none => cases later <;> simp
  | some a =>
    cases later with
    | none => simp
    | some b =>
      have before : a ≤ b := ordered a b rfl rfl
      show some (b - a) = some span ↔ ∃ a', some a = some a' ∧ some b = some (a' + span)
      simp only [Option.some.injEq, exists_eq_left']
      exact Nat.sub_eq_iff_eq_add' before

/-- **What a record says of its host.**

After any calls on a blank record, at moments that do not decrease:

A step is taken exactly if it is legal; otherwise it leaves the record as it is.

The times on the record are the moments at which its host began to connect, entered the execution,
and came to an end. The first is noted unless the host is new, the last if the host is done or has
failed. A time that is noted stays, whatever is called later. They are in order, so that the spans
between them are exact.

The failure and the backchannel are the first that were brought. Once the host is done or has failed
nothing changes its exit code. -/
theorem chronicle (blank : record.IsBlank) {calls : List (Time × Call)}
    (ordered : (calls.map Prod.fst).Pairwise (· ≤ ·)) :
    let now := record.after calls
    (∀ moment next,
      ((now.advance moment next).1 = true ↔ now.phase.Leads next) ∧
      ((now.advance moment next).1 = true → (now.advance moment next).2.phase = next) ∧
      ((now.advance moment next).1 = false → (now.advance moment next).2 = now)) ∧
    ((now.startedAt.isSome = true ↔ now.phase ≠ .new) ∧
      ∀ moment, now.startedAt = some moment ↔ (moment, .connecting) ∈ record.entries calls) ∧
    (∀ moment, now.connectedAt = some moment ↔ (moment, .executing) ∈ record.entries calls) ∧
    ((now.finishedAt.isSome = true ↔ now.phase = .done ∨ now.phase = .failed) ∧
      ∀ moment, now.finishedAt = some moment ↔
        (moment, .done) ∈ record.entries calls ∨ (moment, .failed) ∈ record.entries calls) ∧
    (∀ later moment,
      (now.startedAt = some moment → (now.after later).startedAt = some moment) ∧
      (now.connectedAt = some moment → (now.after later).connectedAt = some moment) ∧
      (now.finishedAt = some moment → (now.after later).finishedAt = some moment)) ∧
    ((∀ started connected, now.startedAt = some started → now.connectedAt = some connected →
        started ≤ connected) ∧
      (∀ started finished, now.startedAt = some started → now.finishedAt = some finished →
        started ≤ finished) ∧
      ∀ connected finished, now.connectedAt = some connected → now.finishedAt = some finished →
        connected ≤ finished) ∧
    ((∀ span, now.connectDuration = some span ↔
        ∃ started, now.startedAt = some started ∧ now.connectedAt = some (started + span)) ∧
      ∀ span, now.executeDuration = some span ↔
        ∃ connected, now.connectedAt = some connected ∧
          now.finishedAt = some (connected + span)) ∧
    now.failure = (calls.findSome? fun call => call.2.failure?) ∧
    now.backchannel = (calls.findSome? fun call => call.2.backchannel?) ∧
    (now.phase = .done ∨ now.phase = .failed →
      ∀ later, (now.after later).exitCode = now.exitCode) := by
  intro now
  have lived : Lived (record.entries calls) now.standing := blank.lived calls
  obtain ⟨connecting, whole, executing⟩ :=
    lived.ordered (ordered.sublist (record.entries_sublist calls))
  refine ⟨now.advance_iff, ⟨lived.startedAt_isSome_iff, lived.startedAt_eq_some_iff⟩,
    lived.connectedAt_eq_some_iff, ⟨lived.finishedAt_isSome_iff, lived.finishedAt_eq_some_iff⟩,
    fun later moment => ?_, ⟨connecting, whole, executing⟩,
    ⟨span_eq_some_iff connecting, span_eq_some_iff executing⟩, ?_, ?_, fun ended later => ?_⟩
  · -- what has been entered stays entered
    have onwards : Lived (record.entries calls ++ now.entries later) (now.after later).standing :=
      lived.after later
    refine ⟨fun noted => ?_, fun noted => ?_, fun noted => ?_⟩
    · exact (onwards.startedAt_eq_some_iff moment).mpr
        (List.mem_append_left _ ((lived.startedAt_eq_some_iff moment).mp noted))
    · exact (onwards.connectedAt_eq_some_iff moment).mpr
        (List.mem_append_left _ ((lived.connectedAt_eq_some_iff moment).mp noted))
    · exact (onwards.finishedAt_eq_some_iff moment).mpr
        (((lived.finishedAt_eq_some_iff moment).mp noted).imp (List.mem_append_left _)
          (List.mem_append_left _))
  · rw [after_eq_or_findSome? receive_failure, blank.failure, Option.none_or]
  · rw [after_eq_or_findSome? receive_backchannel, blank.backchannel, Option.none_or]
  · have terminal : now.phase.isTerminal = true := by
      rcases ended with done | failed
      · rw [done]; rfl
      · rw [failed]; rfl
    exact (after_of_isTerminal terminal later).2

/-- Calls of all kinds, some of them in vain. -/
def mixedCalls : List (Time × Call) :=
  [(1, .advance .executing), (2, .advance .connecting), (3, .setExitCode 3),
    (4, .advance .connecting), (5, .advance .executing), (5, .setBackchannel ⟨"first", none⟩),
    (6, .setBackchannel ⟨"second", none⟩), (7, .setFailure "first"), (7, .setFailure "second"),
    (9, .advance .done), (9, .setExitCode 9)]

theorem chronicle_mixedCalls :
    ∃ record : Record, record.IsBlank ∧ (mixedCalls.map Prod.fst).Pairwise (· ≤ ·) ∧
      let now := record.after mixedCalls
      now.phase = .done ∧ now.advance 10 .failed = (false, now) ∧
        now.startedAt = some 2 ∧ now.connectedAt = some 5 ∧ now.finishedAt = some 9 ∧
        now.connectDuration = some 3 ∧ now.executeDuration = some 4 ∧
        now.failure = some "first" ∧ now.backchannel = some ⟨"first", none⟩ ∧
        ∀ later, (now.after later).startedAt = some 2 ∧ (now.after later).exitCode = some 3 := by
  have blank : IsBlank
      { host := { hostname := "a" }, localUser := "u", remoteUser := "u", kind := .exec,
        nodeIndex := 0 } :=
    ⟨rfl, rfl, rfl, rfl, rfl, rfl, rfl, rfl⟩
  have ordered : (mixedCalls.map Prod.fst).Pairwise (· ≤ ·) := by decide
  obtain ⟨steps, ⟨-, started⟩, connected, ⟨-, finished⟩, stays, -, ⟨connecting, executing⟩, failure,
    backchannel, exitCode⟩ := chronicle blank ordered
  have began := (started 2).mpr (by decide)
  have opened := (connected 5).mpr (by decide)
  have ended := (finished 9).mpr (by decide)
  have refused : (_ : Bool × Record).1 = false :=
    Bool.eq_false_iff.mpr fun taken => by cases (steps 10 .failed).1.mp taken
  exact ⟨_, blank, ordered, rfl, Prod.ext refused ((steps 10 .failed).2.2 refused), began, opened,
    ended, (connecting 3).mpr ⟨2, began, opened⟩, (executing 4).mpr ⟨5, opened, ended⟩, failure,
    backchannel, fun later => ⟨(stays later 2).1 began, exitCode (.inl rfl) later⟩⟩

end Record

end Fleet
