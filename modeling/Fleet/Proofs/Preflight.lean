import Fleet.Proofs.Faults

/-!
# Faults before any host is contacted

A dispatch makes its checks in a fixed order: that there are targets, that the backend is ready,
that the template can be read or the files can be listed, and then for each target in turn that it
has an address and that its command can be rendered. `Dispatch.Stumbles` says which check is the
first to fail, without the program that makes them.

`Dispatch.Shows` is what may be seen of a dispatch that returns, in whichever order its tasks take
their steps. `Dispatch.run` shows one of these.

**The law** (`Dispatch.preflight`): a dispatch that stumbles returns the first fault, and neither
the backend nor the console has seen anything of it. Any fault, also of a run that began, leaves the
targets as they were.
-/

namespace Fleet

/-- Either the first of two parts fails, or the second does after it. -/
theorem andThen_eq_error {ε α β : Type} {x : Except ε α} {f : α → Except ε β} {e : ε} :
    x >>= f = .error e ↔ x = .error e ∨ ∃ a, x = .ok a ∧ f a = .error e := by
  cases x with
  | error e' =>
    constructor
    · intro bad
      exact .inl (by cases bad; rfl)
    · rintro (bad | ⟨a, good, -⟩)
      · cases bad; rfl
      · cases good
  | ok a =>
    constructor
    · intro bad
      exact .inr ⟨a, rfl, bad⟩
    · rintro (bad | ⟨b, good, bad⟩)
      · cases bad
      · obtain rfl := Except.ok.inj good
        exact bad

namespace Preparation

/-- A target passes both its checks. -/
def IsReady (backend : Backend) (options : Options) (source : CommandSource) (nhosts rank : Nat)
    (host : Host) : Prop :=
  ∃ address command, backend.resolve host.hostname = .ok address ∧
    source.command options.maxRemoteStatus (params options nhosts rank host address) = .ok command

/-- The first check that a target fails. -/
inductive Balks (backend : Backend) (options : Options) (source : CommandSource)
    (nhosts rank : Nat) (host : Host) (e : DispatchError) : Prop where
  /-- It has no address. -/
  | resolve (fails : backend.resolve host.hostname = .error e)
  /-- It has no command. -/
  | render {address : Option Address} (resolved : backend.resolve host.hostname = .ok address)
      (fails : source.command options.maxRemoteStatus (params options nhosts rank host address)
        = .error e)

variable {backend : Backend} {options : Options} {source : CommandSource} {nhosts rank : Nat}
  {host : Host} {targets : TargetList} {e : DispatchError}

theorem lane_error_iff : Preparation.lane backend options source nhosts rank host = .error e ↔
    Balks backend options source nhosts rank host e := by
  unfold Preparation.lane
  rw [andThen_eq_error]
  constructor
  · rintro (fails | ⟨address, resolved, later⟩)
    · exact .resolve fails
    · rcases andThen_eq_error.mp later with fails | ⟨command, -, ends⟩
      · exact .render resolved fails
      · cases ends
  · rintro (fails | ⟨resolved, fails⟩)
    · exact .inl fails
    · exact .inr ⟨_, resolved, andThen_eq_error.mpr (.inl fails)⟩

theorem isReady_iff : IsReady backend options source nhosts rank host ↔
    ∃ lane, Preparation.lane backend options source nhosts rank host = .ok lane := by
  constructor
  · rintro ⟨address, command, resolved, rendered⟩
    exact ⟨_, andThen_eq_ok.mpr ⟨address, resolved, andThen_eq_ok.mpr ⟨command, rendered, rfl⟩⟩⟩
  · rintro ⟨lane, made⟩
    obtain ⟨address, resolved, made⟩ := andThen_eq_ok.mp made
    obtain ⟨command, rendered, -⟩ := andThen_eq_ok.mp made
    exact ⟨address, command, resolved, rendered⟩

/-- **The targets are checked in order**, each after all before it have passed. -/
theorem lanesFrom_error_iff : ∀ {rank : Nat},
    lanesFrom backend options source nhosts rank targets = .error e ↔
      ∃ i host, targets[i]? = some host ∧
        (∀ j other, j < i → targets[j]? = some other →
          IsReady backend options source nhosts (rank + j) other) ∧
        Balks backend options source nhosts (rank + i) host e := by
  induction targets with
  | nil =>
    intro rank
    constructor
    · intro bad
      cases bad
    · rintro ⟨i, host, found, -⟩
      cases found
  | cons first rest ih =>
    intro rank
    simp only [lanesFrom]
    rw [andThen_eq_error]
    constructor
    · rintro (bad | ⟨lane, made, later⟩)
      · exact ⟨0, first, rfl, fun _ _ before => absurd before (Nat.not_lt_zero _),
          lane_error_iff.mp bad⟩
      · rcases andThen_eq_error.mp later with bad | ⟨_, -, ends⟩
        · -- a target of the rest stands one place further on, and its rank is the same
          obtain ⟨i, host, found, ready, balks⟩ := ih.mp bad
          refine ⟨i + 1, host, found, ?_, Nat.add_right_comm rank 1 i ▸ balks⟩
          intro j other before there
          cases j with
          | zero =>
            obtain rfl := Option.some.inj there
            exact isReady_iff.mpr ⟨lane, made⟩
          | succ j => exact Nat.add_right_comm rank 1 j ▸ ready j other (by omega) there
        · cases ends
    · rintro ⟨i, host, found, ready, balks⟩
      cases i with
      | zero =>
        obtain rfl := Option.some.inj found
        exact .inl (lane_error_iff.mpr balks)
      | succ i =>
        obtain ⟨lane, made⟩ := isReady_iff.mp (ready 0 first (Nat.succ_pos i) rfl)
        refine .inr ⟨lane, made, andThen_eq_error.mpr (.inl (ih.mpr ⟨i, host, found, ?_, ?_⟩))⟩
        · intro j other before there
          have later := ready (j + 1) other (by omega) there
          exact Nat.add_right_comm rank 1 j ▸ later
        · exact Nat.add_right_comm rank 1 i ▸ balks

end Preparation

namespace Dispatch

variable {dispatch : Dispatch} {e : DispatchError}

/-- The preparation of a dispatch. -/
def prepare (dispatch : Dispatch) : Except DispatchError Preparation :=
  Preparation.make dispatch.backend dispatch.options dispatch.fs dispatch.payload dispatch.targets

/-- `dispatch.Stumbles e`: the first check that fails gives `e`. -/
inductive Stumbles (dispatch : Dispatch) : DispatchError → Prop where
  /-- There are no targets. -/
  | noHosts (none : dispatch.targets = []) : Stumbles dispatch .noHosts
  /-- The backend is not ready. -/
  | init {e : DispatchError} (some : dispatch.targets ≠ [])
      (fails : dispatch.backend.init dispatch.options = .error e) : Stumbles dispatch e
  /-- The template cannot be read. -/
  | template {source : String} {e : DispatchError} (some : dispatch.targets ≠ [])
      (ready : dispatch.backend.init dispatch.options = .ok ())
      (sent : dispatch.payload = .command source)
      (fails : CommandTemplate.parse source = .error e) : Stumbles dispatch e
  /-- The files cannot be listed. -/
  | enumeration {spec : CopySpec} {e : DispatchError} (some : dispatch.targets ≠ [])
      (ready : dispatch.backend.init dispatch.options = .ok ())
      (sent : dispatch.payload = .copy spec)
      (fails : CopySpec.enumerate dispatch.fs spec = .error e) : Stumbles dispatch e
  /-- A target fails one of its checks. All targets before it have passed theirs. -/
  | target {source : CommandSource} {shipment : Option Shipment} {rank : Nat} {host : Host}
      {e : DispatchError} (ready : dispatch.backend.init dispatch.options = .ok ())
      (contents : Preparation.contents dispatch.fs dispatch.payload = .ok (source, shipment))
      (here : dispatch.targets[rank]? = some host)
      (earlier : ∀ j other, j < rank → dispatch.targets[j]? = some other →
        Preparation.IsReady dispatch.backend dispatch.options source
          dispatch.targets.length j other)
      (balks : Preparation.Balks dispatch.backend dispatch.options source
        dispatch.targets.length rank host e) : Stumbles dispatch e

/-- What is sent is read or listed. -/
private theorem contents_error_iff {fs : FileSystem} {payload : Payload} :
    Preparation.contents fs payload = .error e ↔
      (∃ source, payload = .command source ∧ CommandTemplate.parse source = .error e) ∨
        ∃ spec, payload = .copy spec ∧ CopySpec.enumerate fs spec = .error e := by
  cases payload with
  | command source =>
    simp only [Preparation.contents, Payload.command.injEq]
    rw [andThen_eq_error]
    constructor
    · rintro (fails | ⟨_, -, ends⟩)
      · exact .inl ⟨source, rfl, fails⟩
      · cases ends
    · rintro (⟨_, rfl, fails⟩ | ⟨_, other, -⟩)
      · exact .inl fails
      · cases other
  | copy spec =>
    simp only [Preparation.contents, Payload.copy.injEq]
    rw [andThen_eq_error]
    constructor
    · rintro (fails | ⟨_, -, ends⟩)
      · exact .inr ⟨spec, rfl, fails⟩
      · cases ends
    · rintro (⟨_, other, -⟩ | ⟨_, rfl, fails⟩)
      · cases other
      · exact .inl fails

/-- **Preparing a dispatch fails with the first fault.** -/
theorem prepare_error_iff : dispatch.prepare = .error e ↔ dispatch.Stumbles e := by
  unfold prepare
  cases empty : dispatch.targets with
  | nil =>
    constructor
    · intro bad
      cases bad
      exact .noHosts empty
    · intro stumbles
      cases stumbles with
      | noHosts => rfl
      | init some | template some | enumeration some => exact absurd empty some
      | target _ _ here =>
        rw [empty] at here
        cases here
  | cons first rest =>
    have some : dispatch.targets ≠ [] := empty ▸ List.cons_ne_nil first rest
    rw [← empty]
    have nonempty : dispatch.targets.isEmpty = false := by rw [empty]; rfl
    simp only [Preparation.make, nonempty]
    constructor
    · intro bad
      rcases andThen_eq_error.mp bad with fails | ⟨⟨⟩, ready, bad⟩
      · exact .init some fails
      rcases andThen_eq_error.mp bad with fails | ⟨⟨source, shipment⟩, contents, bad⟩
      · rcases contents_error_iff.mp fails with ⟨source, sent, fails⟩ | ⟨spec, sent, fails⟩
        · exact .template some ready sent fails
        · exact .enumeration some ready sent fails
      rcases andThen_eq_error.mp bad with fails | ⟨lanes, -, ends⟩
      · obtain ⟨rank, host, here, earlier, balks⟩ := Preparation.lanesFrom_error_iff.mp fails
        simp only [Nat.zero_add] at earlier balks
        exact .target ready contents here earlier balks
      · cases ends
    · intro stumbles
      refine andThen_eq_error.mpr ?_
      cases stumbles with
      | noHosts none => exact absurd none some
      | init _ fails => exact .inl fails
      | template _ ready sent fails =>
        refine .inr ⟨(), ready, andThen_eq_error.mpr (.inl ?_)⟩
        exact contents_error_iff.mpr (.inl ⟨_, sent, fails⟩)
      | enumeration _ ready sent fails =>
        refine .inr ⟨(), ready, andThen_eq_error.mpr (.inl ?_)⟩
        exact contents_error_iff.mpr (.inr ⟨_, sent, fails⟩)
      | @target _ _ rank host _ ready contents here earlier balks =>
        refine .inr ⟨(), ready, andThen_eq_error.mpr (.inr ⟨_, contents, ?_⟩)⟩
        refine andThen_eq_error.mpr (.inl ?_)
        refine Preparation.lanesFrom_error_iff.mpr ⟨rank, host, here, ?_, ?_⟩
        · simpa only [Nat.zero_add] using earlier
        · simpa only [Nat.zero_add] using balks

/-- A run begins where no check fails. -/
theorem starts_iff : (∃ setup s, dispatch.Starts setup s) ↔ ∀ e, ¬ dispatch.Stumbles e := by
  constructor
  · rintro ⟨setup, s, ⟨prepared⟩⟩ e stumbles
    cases (prepare_error_iff.mpr stumbles).symm.trans prepared
  · intro sound
    cases made : dispatch.prepare with
    | error e => exact absurd (prepare_error_iff.mp made) (sound e)
    | ok preparation => exact ⟨_, _, .intro made⟩

/-! ## What is seen of a dispatch -/

/-- `dispatch.Shows transcript`: what may be seen of a dispatch that returns. -/
inductive Shows (dispatch : Dispatch) : Transcript → Prop where
  /-- Its preparation fails. -/
  | refused {e : DispatchError} (refused : dispatch.prepare = .error e) :
      Shows dispatch
        { conclusion := .faulted e, targets := dispatch.targets, console := dispatch.console }
  /-- Its run has come to a state in which the dispatcher has returned. -/
  | returned {setup : Setup} {s₀ : State} {past : List Moment} {course : Course}
      (starts : dispatch.Starts setup s₀) (run : setup.Run s₀ past course.state)
      (ended : course.state.dispatcher.hasReturned = true) :
      Shows dispatch (dispatch.conclude setup course)

/-- **What `Dispatch.run` tells may be seen**, unless the run does not return in time. -/
theorem run_shows (returns : dispatch.run.conclusion ≠ .stuck) : dispatch.Shows dispatch.run := by
  unfold run at returns ⊢
  split at returns
  · next e refused => exact .refused refused
  · next lanes shipment prepared =>
    obtain ⟨past, followed, -⟩ := Course.follow_run dispatch.horizon.steps
      { state := .start dispatch.options lanes dispatch.console, arrivals := dispatch.interrupts }
    refine .returned (.intro prepared) followed ?_
    simp only [conclude] at returns
    split at returns
    · next here => rw [here]; rfl
    · next here => rw [here]; rfl
    · exact absurd rfl returns

/-- A fault of a run that began leaves the targets as they were. -/
theorem conclude_faulted {setup : Setup} {course : Course}
    (faulted : (dispatch.conclude setup course).conclusion = .faulted e) :
    course.state.dispatcher = .returned (.error e) ∧
      (dispatch.conclude setup course).targets = dispatch.targets := by
  simp only [conclude] at faulted ⊢
  split at faulted
  · cases faulted
  · next here =>
    obtain rfl := Conclusion.faulted.inj faulted
    exact ⟨here, rfl⟩
  · cases faulted

/-- **What faults leave behind.**

Where a check fails, what is seen of the dispatch is the fault of the first such check, and besides
nothing: no session was asked for, no signal was sent, no worker was there, nothing was written,
and no time has passed. A run begins exactly where none fails. And whatever fault a dispatch
returns, be it that of a check or, after hosts have run, an interrupt, a failed host or a worker
that crashed, the targets are as they were, also where failed hosts are to be dropped. -/
theorem preflight (dispatch : Dispatch) :
    (∀ e, dispatch.Stumbles e → dispatch.Shows dispatch.run ∧
      ∀ transcript, dispatch.Shows transcript → transcript.conclusion = .faulted e ∧
        transcript.opens = [] ∧ transcript.signals = [] ∧ transcript.lanes = [] ∧
        transcript.console = dispatch.console ∧ transcript.elapsed = 0) ∧
    ((∃ setup s, dispatch.Starts setup s) ↔ ∀ e, ¬ dispatch.Stumbles e) ∧
    ∀ transcript e, dispatch.Shows transcript → transcript.conclusion = .faulted e →
      transcript.targets = dispatch.targets ∧
        (dispatch.Stumbles e ∨ (∀ e', ¬ dispatch.Stumbles e') ∧
          (e = .interrupted ∨
            (dispatch.backend.lockstep = true ∧ ∃ name, e = .lockstepAbort name) ∨
            ∃ name, e = .worker name "crashed")) := by
  refine ⟨?_, starts_iff, ?_⟩
  · intro e stumbles
    have refused := prepare_error_iff.mpr stumbles
    constructor
    · refine run_shows ?_
      unfold run
      rw [show Preparation.make .. = .error e from refused]
      exact Conclusion.noConfusion
    · intro transcript shown
      cases shown with
      | refused refused' =>
        cases refused.symm.trans refused'
        exact ⟨rfl, rfl, rfl, rfl, rfl, rfl⟩
      | returned starts => exact absurd stumbles (starts_iff.mp ⟨_, _, starts⟩ e)
  · intro transcript e shown faulted
    cases shown with
    | refused refused =>
      cases faulted
      exact ⟨rfl, .inl (prepare_error_iff.mp refused)⟩
    | @returned setup s₀ past course starts run _ =>
      obtain ⟨here, same⟩ := conclude_faulted faulted
      refine ⟨same, .inr ⟨starts_iff.mp ⟨_, _, starts⟩, ?_⟩⟩
      -- the dispatcher has the fault from the queue, or a worker has crashed
      rcases run.verdict starts here with head | ⟨-, name, same, -⟩
      · rcases run.named starts e (List.mem_of_mem_head? head) with ⟨same, -⟩ | ⟨all, name, same, -⟩
        · exact .inl same
        · exact .inr (.inl ⟨starts.backend ▸ all, name, same⟩)
      · exact .inr (.inr ⟨name, same⟩)

/-- Three hosts, of which the second has no address. -/
def secondUnresolved : Dispatch :=
  { ofScript (fun _ => ⟨none, .crash⟩) ["a", "b", "c"] { dropFailed := true, localUser := "u" } with
    backend := {
      kind := .exec
      resolve := fun name =>
        if name = "b" then .error (.resolution name (.reported "no such name")) else .ok none
      attempt := fun _ _ => ⟨none, .crash⟩ } }

/-- Two hosts, of which the first gets no session, and failed hosts are to be dropped. -/
def firstRefused : Dispatch :=
  ofScript (fun name => if name = "a" then ⟨some 0, .refused (.connect "no route")⟩
    else ⟨none, .crash⟩) ["a", "b"] { batch := true, dropFailed := true, localUser := "u" }

/-- A check that fails after another target has passed, and an interrupt after a host has failed. -/
theorem preflight_secondUnresolved :
    (secondUnresolved.Stumbles (.resolution "b" (.reported "no such name")) ∧
      ∀ transcript, secondUnresolved.Shows transcript →
        transcript.conclusion = .faulted (.resolution "b" (.reported "no such name")) ∧
        transcript.opens = [] ∧ transcript.console = {}) ∧
    ∃ setup course, firstRefused.Shows (firstRefused.conclude setup course) ∧
      course.state.records.map Record.phase = [.failed, .connecting] ∧
      (firstRefused.conclude setup course).conclusion = .faulted .interrupted ∧
      (firstRefused.conclude setup course).targets
        = [{ hostname := "a" }, { hostname := "b" }] := by
  constructor
  · have stumbles : secondUnresolved.Stumbles (.resolution "b" (.reported "no such name")) := by
      refine @Stumbles.target secondUnresolved _ _ 1 _ _ rfl rfl rfl ?_ (.resolve rfl)
      intro j other before there
      obtain rfl : j = 0 := by omega
      obtain rfl := Option.some.inj there
      exact ⟨none, _, rfl, rfl⟩
    refine ⟨stumbles, fun transcript shown => ?_⟩
    obtain ⟨fault, opens, -, -, console, -⟩ :=
      ((preflight secondUnresolved).1 _ stumbles).2 transcript shown
    exact ⟨fault, opens, console⟩
  · have starts := ofScript.starts (fun name => if name = "a" then
      ⟨some 0, .refused (.connect "no route")⟩ else ⟨none, .crash⟩)
      { batch := true, dropFailed := true, localUser := "u" } "a" ["b"]
    obtain ⟨past, run, -⟩ := starts.run.further
      (List.replicate 4 (.act .dispatcher) ++ List.replicate 8 (.act (.worker 0))
        ++ List.replicate 2 (.act (.worker 1)) ++ [.interrupt]
        ++ List.replicate 7 (.act .interrupter) ++ [.act .dispatcher]) rfl
    have shown : firstRefused.Shows _ := @Shows.returned firstRefused _ _ _ { state := _ } starts run rfl
    exact ⟨_, _, shown, rfl, rfl, ((preflight firstRefused).2.2 _ _ shown rfl).1⟩

end Dispatch

end Fleet
