import Fleet.Proofs.Lifecycle

/-!
# Slots

The gate counts the slots that are taken. What it counts is nowhere else in the state: whether a
worker has its slot is told by how far it has come, and whether a host is busy by its record, and
the three change at different moments. An event takes one slot, gives one back, or moves none
(`Step.slots`), so the counter is the number of workers that have one in every state.

**The law** (`Run.accounted`, `Run.peak`): in every state that a dispatch can come to, as many slots
are taken as workers have one, never more than the limit, and the peak is the highest count so far.
A busy host has a slot, unless its worker crashed: a worker that crashes gives its slot back and
leaves the record where it was.
-/

namespace Fleet

namespace Worker

/-- Whether the worker crashed and gave its slot back. Nobody sees to its record any more. -/
def isStranded : Worker → Bool
  | announcing crashed | gone crashed => crashed
  | _ => false

end Worker

namespace State

/-- How far each worker has come. -/
def workers (s : State) : List Worker := s.lanes.map Lane.worker

/-- How many workers have a slot. -/
def holders (s : State) : Nat := s.workers.countP Worker.holdsSlot

/-- How many hosts are busy, those left alone by a worker that crashed not counted. -/
def attended (s : State) : Nat :=
  s.lanes.countP fun lane => lane.record.phase.isActive && !lane.worker.isStranded

theorem workers_getElem? {s : State} {i : Nat} {lane : Lane} (found : s.lanes[i]? = some lane) :
    s.workers[i]? = some lane.worker := by
  rw [workers, List.getElem?_map, found, Option.map_some]

@[simp] theorem putLane_workers (s : State) (i : Nat) (lane : Lane) :
    (s.putLane i lane).workers = s.workers.set i lane.worker :=
  List.map_set

@[simp] theorem abortHost_workers (s : State) (i : Nat) :
    (s.abortHost i).workers = s.workers := by
  apply List.ext_getElem?
  intro j
  rw [workers, workers, List.getElem?_map, abortHost_lane, List.getElem?_map, Option.map_map]
  congr 1
  funext lane
  rw [Function.comp_apply]
  split <;> rfl

/-- One worker moves: a count of workers changes as it does. -/
theorem countP_workers_set {s s' : State} {i : Nat} {before after : Worker} (p : Worker → Bool)
    (found : s.workers[i]? = some before) (moved : s'.workers = s.workers.set i after) :
    s'.workers.countP p + (p before).toNat = s.workers.countP p + (p after).toNat := by
  obtain ⟨inside, same⟩ := List.getElem?_eq_some_iff.mp found
  have one (worker : Worker) : (if p worker = true then 1 else 0) = (p worker).toNat := by
    cases p worker <;> rfl
  have enough : (p before).toNat ≤ s.workers.countP p := by
    cases counts : p before with
    | false => exact Nat.zero_le _
    | true => exact List.countP_pos_iff.mpr ⟨before, List.mem_of_getElem? found, counts⟩
  rw [moved, List.countP_set inside, same, one, one]
  omega

/-- One worker moves: the number of slots that workers have changes as it does. -/
theorem holders_set {s s' : State} {i : Nat} {before after : Worker}
    (found : s.workers[i]? = some before) (moved : s'.workers = s.workers.set i after) :
    s'.holders + before.holdsSlot.toNat = s.holders + after.holdsSlot.toNat :=
  countP_workers_set Worker.holdsSlot found moved

end State

namespace Gate

variable {gate next : Gate}

/-- A slot is given only if one is free; the count goes up by one, and the peak with it. -/
theorem take?_eq_some (taken : gate.take? = some next) :
    gate.active < gate.limit ∧ next.limit = gate.limit ∧ next.active = gate.active + 1 ∧
      next.peak = max gate.peak (gate.active + 1) := by
  unfold take? at taken
  split at taken
  · next free => cases taken; exact ⟨free, rfl, rfl, rfl⟩
  · cases taken

end Gate

namespace Options

variable (options : Options) {n : Nat}

/-- At least one host is handled at once, and never more than there are. -/
theorem fanoutLimit_bounds (some : 0 < n) :
    1 ≤ options.fanoutLimit n ∧ options.fanoutLimit n ≤ n := by
  unfold fanoutLimit
  split <;> omega

/-- Without a limit all hosts are handled at once. -/
theorem fanoutLimit_of_unlimited (some : 0 < n) (unlimited : options.fanout = 0) :
    options.fanoutLimit n = n := by
  unfold fanoutLimit
  rw [if_pos unlimited]
  omega

end Options

/-- The limit is set when a run begins. -/
theorem Dispatch.Starts.limit {dispatch : Dispatch} {setup : Setup} {s : State}
    (starts : dispatch.Starts setup s) :
    s.gate.limit = dispatch.options.fanoutLimit dispatch.targets.length := by
  have least := (dispatch.options.fanoutLimit_bounds starts.targets_pos).1
  rw [starts.gate]
  exact Nat.max_eq_left least

namespace Setup

variable {setup : Setup} {s s' s₀ : State} {past : List Moment}

/-! ## What one event does to the slots -/

/-- A turn moves no worker but its own. -/
theorem Turn.workers {i : Nat} {lane lane' : Lane} {t : State}
    (turn : setup.Turn s i lane lane' t) : t.workers = s.workers := by
  rcases turn.lanes_eq with same | ⟨next, rfl⟩
  · rw [State.workers, same, State.workers]
  · exact s.abortHost_workers next

/-- A worker gives its slot back where it leaves, and nowhere else. -/
theorem Turn.slot {i : Nat} {lane lane' : Lane} {t : State} (turn : setup.Turn s i lane lane' t) :
    (t.gate = s.gate ∧ lane'.worker.holdsSlot = lane.worker.holdsSlot) ∨
      (t.gate = s.gate.release ∧ (∃ crashed, lane.worker = .leaving crashed) ∧
        lane'.worker.holdsSlot = false) := by
  cases turn with
  | leave here => exact .inr ⟨rfl, ⟨_, here⟩, rfl⟩
  | @attach since plan here =>
    refine .inl ⟨rfl, ?_⟩
    show (setup.firstWork since plan).holdsSlot = _
    rw [here]
    rcases setup.firstWork_cases since plan with ⟨_, -, same⟩ | ⟨_, _, same⟩ | same <;>
      rw [same] <;> rfl
  | tell here =>
    refine .inl ⟨rfl, ?_⟩
    rw [here, Lane.moveTo_worker]
    split <;> rfl
  | _ => exact .inl ⟨rfl, by rw [‹lane.worker = _›]; rfl⟩

/-- What an event can do to the slots. -/
inductive Slots (s s' : State) : Prop where
  /-- Nothing. -/
  | same (gate : s'.gate = s.gate) (holders : s'.holders = s.holders)
  /-- A worker gets one. -/
  | taken (gate : s.gate.take? = some s'.gate) (holders : s'.holders = s.holders + 1)
  /-- A worker that leaves gives its own back. -/
  | released (gate : s'.gate = s.gate.release) (holders : s'.holders + 1 = s.holders)

/-- **An event takes a slot, gives one back, or moves none**, and the workers do the same. -/
theorem Step.slots {e : Event} (step : setup.Step s e s') (orderly : s.Orderly) :
    Slots s s' := by
  cases step with
  | @work i lane lane' t found turn =>
    have moved : (t.putLane i lane').workers = s.workers.set i lane'.worker := by
      rw [State.putLane_workers, turn.workers]
    have count := State.holders_set (State.workers_getElem? found) moved
    rcases turn.slot with ⟨gate, kept⟩ | ⟨gate, ⟨crashed, here⟩, given⟩
    · rw [kept] at count
      exact .same gate (Nat.add_right_cancel count)
    · rw [here, given] at count
      exact .released gate count
  | @grant next noticed gate here free =>
    -- the host whose turn it is waits still, so it had no slot before
    obtain ⟨inside, idle⟩ := orderly _ _ here
    have found := List.getElem?_eq_getElem inside
    refine .taken free ?_
    have moved : (s.moveWorker next .admitted).workers = s.workers.set next .admitted := by
      rw [State.moveWorker_eq_putLane found, State.putLane_workers, Lane.moveTo_worker]
    have count := State.holders_set (State.workers_getElem? found) moved
    rw [idle next _ (Nat.le_refl next) found] at count
    exact count
  | @fire _ next | @abort next =>
    exact .same rfl (congrArg (List.countP Worker.holdsSlot) (s.abortHost_workers next))
  | _ => exact .same rfl rfl

/-- A run begins with no slot taken. -/
theorem holders_start {dispatch : Dispatch} (starts : dispatch.Starts setup s) :
    s.holders = 0 := by
  apply List.countP_eq_zero.mpr
  intro worker among
  obtain ⟨lane, there, rfl⟩ := List.mem_map.mp among
  obtain ⟨i, found⟩ := List.mem_iff_getElem?.mp there
  rw [(starts.fresh found).worker]
  exact Bool.false_ne_true

/-- **Nobody loses track of the slots**: as many are taken as workers have one, and never more than
the limit, which stays as it is. -/
theorem Run.accounted {dispatch : Dispatch} (run : setup.Run s₀ past s)
    (starts : dispatch.Starts setup s₀) :
    s.gate.active = s.holders ∧ s.gate.active ≤ s.gate.limit ∧ s.gate.peak ≤ s.gate.limit ∧
      s.gate.limit = dispatch.options.fanoutLimit dispatch.targets.length := by
  refine (run.preserves (P := fun u => u.Orderly ∧ u.gate.active = u.holders ∧
    u.gate.active ≤ u.gate.limit ∧ u.gate.peak ≤ u.gate.limit ∧
    u.gate.limit = dispatch.options.fanoutLimit dispatch.targets.length) ?_ ?_).2
  · refine ⟨starts.orderly, ?_, ?_, ?_, starts.limit⟩
    · rw [starts.gate, Gate.ofLimit, holders_start starts]
    · rw [starts.gate]
      exact Nat.zero_le _
    · rw [starts.gate]
      exact Nat.zero_le _
  · rintro u e u' step ⟨orderly, counted, bounded, below, kept⟩
    refine ⟨step.orderly orderly, ?_⟩
    cases step.slots orderly with
    | same gate holders =>
      rw [gate, holders]
      exact ⟨counted, bounded, below, kept⟩
    | taken gate holders =>
      obtain ⟨free, limit, active, peak⟩ := Gate.take?_eq_some gate
      rw [active, limit, peak, holders, counted]
      rw [counted] at free
      exact ⟨rfl, free, Nat.max_le.mpr ⟨below, free⟩, kept⟩
    | released gate holders =>
      have fewer : u'.gate.active = u.gate.active - 1 := by rw [gate, Gate.release]
      have fitting : u'.gate.active = u'.holders := by omega
      rw [fewer] at fitting
      rw [fewer, gate, Gate.release]
      exact ⟨fitting, Nat.le_trans (Nat.sub_le ..) bounded, below, kept⟩

/-! ## The peak -/

/-- How many slots were taken in each state of a run, the last one included. -/
def readings (past : List Moment) (s : State) : List Nat :=
  past.map (fun moment => moment.before.gate.active) ++ [s.gate.active]

theorem readings_snoc (past : List Moment) (moment : Moment) (s : State) :
    readings (past ++ [moment]) s = readings past moment.before ++ [s.gate.active] := by
  rw [readings, readings, List.map_append, List.map_singleton]

/-- **The peak is the highest count so far.** -/
theorem Run.peak {dispatch : Dispatch} (run : setup.Run s₀ past s)
    (starts : dispatch.Starts setup s₀) : (readings past s).max? = some s.gate.peak := by
  induction run with
  | nil =>
    rw [readings, List.map_nil, List.nil_append, List.max?_singleton, starts.gate, Gate.ofLimit]
  | @snoc past t t' e run step ih =>
    obtain ⟨attained, highest⟩ := List.max?_eq_some_iff.mp ih
    have current : t.gate.active ≤ t.gate.peak :=
      highest _ (List.mem_append_right _ (List.mem_singleton_self _))
    rw [readings_snoc, List.max?_eq_some_iff]
    simp only [List.mem_append, List.mem_singleton]
    cases (step?_step step).slots (run.orderly starts) with
    | same gate _ =>
      rw [gate]
      refine ⟨.inl attained, ?_⟩
      rintro n (among | rfl)
      · exact highest n among
      · exact current
    | taken gate _ =>
      -- the one event by which the count can pass the highest so far, and the peak goes with it
      obtain ⟨-, -, active, peak⟩ := Gate.take?_eq_some gate
      rw [active, peak]
      constructor
      · rcases Nat.le_total t.gate.peak (t.gate.active + 1) with higher | lower
        · exact .inr (Nat.max_eq_right higher)
        · exact .inl (by rw [Nat.max_eq_left lower]; exact attained)
      · rintro n (among | rfl)
        · exact Nat.le_trans (highest n among) (Nat.le_max_left ..)
        · exact Nat.le_max_right ..
    | released gate _ =>
      rw [gate]
      refine ⟨.inl attained, ?_⟩
      rintro n (among | rfl)
      · exact highest n among
      · exact Nat.le_trans (Nat.sub_le ..) current

end Setup

/-! ## Busy hosts -/

/-- A busy host has a slot, or its worker crashed and left it. -/
theorem Worker.Agrees.holdsSlot {record : Record} {worker : Worker}
    (agrees : worker.Agrees record) (active : record.phase.isActive = true)
    (attended : worker.isStranded = false) : worker.holdsSlot = true := by
  cases worker with
  | waiting =>
    rw [agrees.1] at active
    cases active
  | announcing crashed | gone crashed =>
    obtain rfl : crashed = false := attended
    rcases agrees with ⟨phase, -⟩ | ⟨phase, -⟩ <;> rw [phase] at active <;> cases active
  | _ => rfl

/-- No more hosts are busy than workers have a slot, those left alone not counted. -/
theorem State.attended_le_holders {s : State} (agrees : ∀ lane ∈ s.lanes, lane.Agrees) :
    s.attended ≤ s.holders := by
  rw [attended, holders, workers, List.countP_map]
  apply List.countP_mono_left
  intro lane among busy
  obtain ⟨active, attended⟩ := Bool.and_eq_true_iff.mp busy
  exact (agrees lane among).holdsSlot active (by simpa using attended)

namespace Setup

variable {setup : Setup} {s s₀ : State} {past : List Moment}

/-- **The fanout is a bound.** In every state that a dispatch can come to, with `limit` between one
and the number of targets: as many slots are taken as workers have one; the hosts that are busy,
those that a crash left alone not counted, are no more than the slots taken, and these no more than
the limit; a worker that is about to give its slot back finds it counted; and the peak is the
highest count that there was. That is the peak which is reported when the dispatch completes in this
state, so none above the limit is; nor does the run report one that is followed. -/
theorem Run.fanout_bound {dispatch : Dispatch} (starts : dispatch.Starts setup s₀)
    (run : setup.Run s₀ past s) :
    ∃ limit, limit = dispatch.options.fanoutLimit dispatch.targets.length ∧
      1 ≤ limit ∧ limit ≤ dispatch.targets.length ∧
      (dispatch.options.fanout = 0 → limit = dispatch.targets.length) ∧
      s.gate.active = s.holders ∧
      s.attended ≤ s.gate.active ∧
      s.gate.active ≤ limit ∧
      (∀ lane ∈ s.lanes, ∀ crashed, lane.worker = .leaving crashed → 0 < s.gate.active) ∧
      (readings past s).max? = some s.gate.peak ∧
      (∀ (course : Course) outcome, course.state = s →
        (dispatch.conclude setup course).conclusion = .completed outcome →
          (readings past s).max? = some outcome.peak ∧ outcome.peak ≤ limit) ∧
      ∀ outcome, dispatch.run.conclusion = .completed outcome → outcome.peak ≤ limit := by
  have ⟨least, most⟩ := dispatch.options.fanoutLimit_bounds starts.targets_pos
  have unlimited := dispatch.options.fanoutLimit_of_unlimited starts.targets_pos
  have ⟨counted, bounded, below, limit⟩ := run.accounted starts
  rw [limit] at bounded below
  refine ⟨_, rfl, least, most, unlimited, counted, ?_, bounded, ?_, run.peak starts, ?_, ?_⟩
  · rw [counted]
    apply State.attended_le_holders
    intro lane among
    obtain ⟨i, found⟩ := List.mem_iff_getElem?.mp among
    exact run.agrees starts found
  · intro lane among crashed here
    have listed : lane.worker ∈ s.workers := List.mem_map_of_mem among
    rw [counted]
    exact List.countP_pos_iff.mpr ⟨lane.worker, listed, by rw [here]; rfl⟩
  · rintro course outcome rfl completed
    obtain ⟨-, rfl⟩ := Dispatch.conclude_completed completed
    exact ⟨run.peak starts, below⟩
  · intro outcome completed
    obtain ⟨setup', first, past', last, starts', run', -, rfl⟩ := Dispatch.run_completed completed
    have ⟨_, _, below, limit'⟩ := run'.accounted starts'
    rw [limit'] at below
    exact below

/-- Two hosts, one at a time. -/
def twoInTurn (script : String → Attempt) : Dispatch :=
  .ofScript script ["a", "b"] { fanout := 1, localUser := "u" }

/-- While the first of two hosts is being connected, the second waits. -/
theorem Run.fanout_bound_twoInTurn :
    ∃ setup s₀ past s, (twoInTurn fun _ => ⟨none, .crash⟩).Starts setup s₀ ∧
      setup.Run s₀ past s ∧ s.attended = 1 ∧ s.gate.active = 1 ∧ s.gate.peak = 1 ∧
      (readings past s).max? = some s.gate.peak := by
  have starts := Dispatch.ofScript.starts (fun _ => ⟨none, .crash⟩)
    { fanout := 1, localUser := "u" } "a" ["b"]
  obtain ⟨past, run, -⟩ := starts.run.further [.act .dispatcher, .act .dispatcher,
    .act (.worker 0), .act (.worker 0), .act .dispatcher] rfl
  obtain ⟨_, rfl, -, -, -, -, -, -, -, peak, -⟩ := fanout_bound starts run
  exact ⟨_, _, past, _, starts, run, rfl, rfl, rfl, peak⟩

/-- **A crash leaves its host busy without a slot.** The worker of the first host crashes and gives
its slot back, the second host gets it, and both records say that they are being connected. -/
theorem fanout_bound_fails_on_crash :
    ¬ ∀ (dispatch : Dispatch) (setup : Setup) (s₀ : State) (past : List Moment) (s : State),
      dispatch.Starts setup s₀ → setup.Run s₀ past s →
        (s.records.countP fun record => record.phase.isActive) ≤ s.gate.active := by
  intro bounded
  have starts := Dispatch.ofScript.starts (fun _ => ⟨some 0, .crash⟩)
    { fanout := 1, localUser := "u" } "a" ["b"]
  obtain ⟨past, run, -⟩ := starts.run.further [.act .dispatcher, .act .dispatcher, .act (.worker 0),
    .act (.worker 0), .act (.worker 0), .act (.worker 0), .act (.worker 0), .act .dispatcher,
    .act .dispatcher, .act (.worker 1)] rfl
  exact absurd (bounded _ _ _ _ _ starts run) (by decide)

end Setup

end Fleet
