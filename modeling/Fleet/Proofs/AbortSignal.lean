import Fleet.AbortSignal
import Fleet.Proofs.Run
import Fleet.Proofs.Waiting
import Mathlib.Data.List.Induction
import Mathlib.Data.List.InsertIdx
import Mathlib.Data.List.Perm.Basic

/-!
# Waiting for an abort

Whoever waits for an abort registers for the next notice, tests the flag, and parks if it is not
set; whoever raises the signal sets the flag and gives notice afterwards. Waiters come and give up
as they like: the relay starts to wait anew for each line. Any number of raises can be under way,
and between any two moments of one task the others may take theirs.

What carries the proofs is `IsUp`: the flag is set and nobody sleeps. The first notice brings it
about, since it finds all who parked before it; and no move undoes it, since a test that finds the
flag set does not park. Left to themselves, waiters come to rest (`queue_isOrderly`).

Waiters are told apart by their names; one that starts again may come with another name. What is
said of a waiter supposes that nobody else comes with its name (`Run.passes`).

**The law** (`Run.never_lost`): nobody returns before the flag is set; after a notice nobody sleeps,
and who comes when the flag is set returns with its second turn. All later raises and notices could
as well be left out (`IsUp.replay_waiters`).
-/

namespace Fleet

/-- The task as if no notice had come while it was registered. -/
def Waiting.unnoticed : Waiting → Waiting
  | registered _ => registered false
  | waiting => waiting

namespace AbortSignal

variable {Id : Type} {signal next : AbortSignal Id}

/-! ## Moves -/

theorem seen?_eq_none_iff : signal.seen? = none ↔ signal.raised = false := by
  unfold seen?
  cases signal.raised <;> simp

theorem seen?_eq_some_iff : signal.seen? = some () ↔ signal.raised = true := by
  unfold seen?
  cases signal.raised <;> simp

/-- `signal.Turn place next`: what the turn of the waiter at a place can come to. -/
inductive Turn (signal : AbortSignal Id) (place : Nat) : AbortSignal Id → Prop where
  /-- It registers. -/
  | register {id : Id} {waiting : Waiting} (found : signal.waiters[place]? = some (id, waiting))
      (ready : waiting = .arriving ∨ waiting = .parked true) :
      Turn signal place (signal.stand place id (.registered false))
  /-- It finds the flag set, and returns. -/
  | leave {id : Id} {noticed : Bool}
      (found : signal.waiters[place]? = some (id, .registered noticed))
      (raised : signal.raised = true) : Turn signal place (signal.leave place id)
  /-- It finds the flag not set. -/
  | park {id : Id} {noticed : Bool}
      (found : signal.waiters[place]? = some (id, .registered noticed))
      (calm : signal.raised = false) : Turn signal place (signal.stand place id (.parked noticed))

theorem Turn.found {place : Nat} (turn : signal.Turn place next) :
    ∃ id waiting, signal.waiters[place]? = some (id, waiting) := by
  cases turn with
  | register found | leave found | park found => exact ⟨_, _, found⟩

/-- **The list of turns is complete.** -/
theorem turn?_turn {place : Nat} (turn : signal.turn? place = some next) :
    signal.Turn place next := by
  obtain ⟨⟨id, waiting⟩, found, turn⟩ := Option.bind_eq_some_iff.mp turn
  obtain ⟨result, tested, rfl⟩ := Option.map_eq_some_iff.mp turn
  cases result with
  | stands later =>
    rcases Waiting.turn?_eq_stands_iff.mp tested with ⟨ready, rfl⟩ | ⟨noticed, rfl, unseen, rfl⟩
    · exact .register found ready
    · exact .park found (seen?_eq_none_iff.mp unseen)
  | passes =>
    obtain ⟨noticed, rfl, seen⟩ := Waiting.turn?_eq_passes_iff.mp tested
    exact .leave found (seen?_eq_some_iff.mp seen)

theorem turn?_of_ready {place : Nat} {id : Id} {waiting : Waiting}
    (found : signal.waiters[place]? = some (id, waiting))
    (ready : waiting = .arriving ∨ waiting = .parked true) :
    signal.turn? place = some (signal.stand place id (.registered false)) := by
  rw [turn?, found]
  rcases ready with rfl | rfl <;> rfl

theorem turn?_of_raised {place : Nat} {id : Id} {noticed : Bool}
    (found : signal.waiters[place]? = some (id, .registered noticed))
    (raised : signal.raised = true) : signal.turn? place = some (signal.leave place id) := by
  rw [turn?, found, seen?, if_pos raised]
  rfl

theorem turn?_of_asleep {place : Nat} {id : Id}
    (found : signal.waiters[place]? = some (id, .parked false)) : signal.turn? place = none := by
  rw [turn?, found]
  rfl

/-- `signal.Step move next`: what a move can come to. -/
inductive Step (signal : AbortSignal Id) : Move Id → AbortSignal Id → Prop where
  | wait (id : Id) :
      Step signal (.wait id) { signal with waiters := signal.waiters ++ [(id, .arriving)] }
  | turn {place : Nat} {next : AbortSignal Id} (turn : signal.Turn place next) :
      Step signal (.turn place) next
  | cancel {place : Nat} {id : Id} {waiting : Waiting}
      (found : signal.waiters[place]? = some (id, waiting)) :
      Step signal (.cancel place) { signal with waiters := signal.waiters.eraseIdx place }
  | raise :
      Step signal .raise { signal with raised := true, unannounced := signal.unannounced + 1 }
  | announce (owed : 0 < signal.unannounced) :
      Step signal .announce { signal with
        unannounced := signal.unannounced - 1,
        waiters := signal.waiters.map fun (id, waiting) => (id, waiting.notice) }

/-- **The list of moves is complete.** -/
theorem step?_step {move : Move Id} (step : signal.step? move = some next) :
    signal.Step move next := by
  cases move with
  | wait id => cases step; exact .wait id
  | turn place => exact .turn (turn?_turn step)
  | cancel place =>
    simp only [step?] at step
    split at step
    · next inside => cases step; exact .cancel (List.getElem?_eq_getElem inside)
    · cases step
  | raise => cases step; exact .raise
  | announce =>
    simp only [step?] at step
    split at step
    · cases step
    · next owed => cases step; exact .announce (Nat.pos_of_ne_zero owed)

/-! ## The flag and the notice -/

/-- Notice is owed only when the flag is set. -/
def IsOrderly (signal : AbortSignal Id) : Prop := 0 < signal.unannounced → signal.raised = true

theorem Step.orderly {move : Move Id} (step : signal.Step move next)
    (orderly : signal.IsOrderly) : next.IsOrderly := by
  cases step with
  | wait | cancel => exact orderly
  | turn turn => cases turn <;> exact orderly
  | raise => exact fun _ => rfl
  | announce owed => exact fun _ => orderly owed

/-- The flag is set by a raise, and never taken back. -/
theorem Step.raised_iff {move : Move Id} (step : signal.Step move next) :
    next.raised = true ↔ signal.raised = true ∨ move = .raise := by
  cases step with
  | turn turn => cases turn <;> simp [stand, AbortSignal.leave]
  | _ => simp

/-- Nobody returns unless the flag is set. -/
theorem Step.raised_of_returns {move : Move Id} (step : signal.Step move next)
    (returns : next.woken ≠ signal.woken) : signal.raised = true := by
  cases step with
  | turn turn =>
    cases turn with
    | leave _ raised => exact raised
    | register | park => exact absurd rfl returns
  | _ => exact absurd rfl returns

/-- The flag is set and nobody sleeps. -/
structure IsUp (signal : AbortSignal Id) : Prop where
  raised : signal.raised = true
  awake : ∀ waiter ∈ signal.waiters, waiter.2 ≠ .parked false

/-- A notice wakes everybody. -/
theorem Step.awake (step : signal.Step .announce next) :
    ∀ waiter ∈ next.waiters, waiter.2 ≠ .parked false := by
  intro waiter among
  cases step with
  | announce owed =>
    obtain ⟨before, -, rfl⟩ := List.mem_map.mp among
    exact before.2.notice_ne_parked

/-- **A notice that follows a raise wakes everybody for good.** -/
theorem Step.isUp (step : signal.Step .announce next) (orderly : signal.IsOrderly) : next.IsUp := by
  refine ⟨?_, step.awake⟩
  cases step with
  | announce owed => exact orderly owed

/-- **No move puts anybody to sleep** when the flag is set. -/
theorem IsUp.step (up : signal.IsUp) {move : Move Id} (step : signal.Step move next) :
    next.IsUp := by
  cases step with
  | wait id =>
    refine ⟨up.raised, fun waiter among => ?_⟩
    rcases List.mem_append.mp among with old | new
    · exact up.awake waiter old
    · obtain rfl := List.mem_singleton.mp new
      exact fun asleep => by cases asleep
  | turn turn =>
    cases turn with
    | register found ready =>
      refine ⟨up.raised, fun waiter among => ?_⟩
      rcases List.mem_or_eq_of_mem_set among with old | rfl
      · exact up.awake waiter old
      · exact fun asleep => by cases asleep
    | leave found raised =>
      exact ⟨raised, fun waiter among => up.awake waiter (List.mem_of_mem_eraseIdx among)⟩
    | park found calm => cases calm.symm.trans up.raised
  | cancel found =>
    exact ⟨up.raised, fun waiter among => up.awake waiter (List.mem_of_mem_eraseIdx among)⟩
  | raise => exact ⟨rfl, up.awake⟩
  | announce owed => exact ⟨up.raised, Step.awake (.announce owed)⟩

/-- **Whoever waits can take its turn**: it registers, or it returns. -/
theorem IsUp.turn (up : signal.IsUp) {place : Nat} {id : Id} {waiting : Waiting}
    (found : signal.waiters[place]? = some (id, waiting)) :
    signal.step? (.turn place) = some (signal.stand place id (.registered false)) ∨
      signal.step? (.turn place) = some (signal.leave place id) := by
  cases waiting with
  | arriving => exact .inl (turn?_of_ready found (.inl rfl))
  | registered noticed => exact .inr (turn?_of_raised found up.raised)
  | parked noticed =>
    cases noticed with
    | true => exact .inl (turn?_of_ready found (.inr rfl))
    | false => exact absurd rfl (up.awake _ (List.mem_of_getElem? found))

/-! ## Runs -/

/-- One move, with the signal before and after it. -/
structure Moment (Id : Type) where
  before : AbortSignal Id
  move : Move Id
  after : AbortSignal Id

namespace Moment

/-- Who comes to wait. -/
def comer? (moment : Moment Id) : Option Id :=
  match moment.move with
  | .wait id => some id
  | _ => none

/-- Who takes a turn. -/
def taker? (moment : Moment Id) : Option Id :=
  match moment.move with
  | .turn place => moment.before.waiters[place]?.map Prod.fst
  | _ => none

/-- Who gives up. -/
def quitter? (moment : Moment Id) : Option Id :=
  match moment.move with
  | .cancel place => moment.before.waiters[place]?.map Prod.fst
  | _ => none

end Moment

/-- `Run start past signal`: the moves of `past` lead from `start` to `signal`. -/
inductive Run (start : AbortSignal Id) : List (Moment Id) → AbortSignal Id → Prop where
  | nil : Run start [] start
  | snoc {past : List (Moment Id)} {signal next : AbortSignal Id} {move : Move Id}
      (run : Run start past signal) (step : signal.step? move = some next) :
      Run start (past ++ [⟨signal, move, next⟩]) next

/-- The signal after moves, if each of them is possible. -/
def replay? (signal : AbortSignal Id) : List (Move Id) → Option (AbortSignal Id)
  | [] => some signal
  | move :: rest => (signal.step? move).bind fun next => replay? next rest

/-- The moments of moves, as far as they are possible. -/
def moments (signal : AbortSignal Id) : List (Move Id) → List (Moment Id)
  | [] => []
  | move :: rest =>
    match signal.step? move with
    | some next => ⟨signal, move, next⟩ :: moments next rest
    | none => []

/-- The flag was set. -/
def Raised (past : List (Moment Id)) : Prop := ∃ moment ∈ past, moment.move = .raise

/-- Notice was given, and so a raise is complete. -/
def Announced (past : List (Moment Id)) : Prop := ∃ moment ∈ past, moment.move = .announce

theorem mem_snoc_iff {past : List (Moment Id)} {last : Moment Id} {move : Move Id} :
    (∃ moment ∈ past ++ [last], moment.move = move) ↔
      (∃ moment ∈ past, moment.move = move) ∨ last.move = move := by
  simp [or_and_right, exists_or]

namespace Run

variable {start : AbortSignal Id} {past : List (Moment Id)}

theorem orderly (run : Run ({} : AbortSignal Id) past signal) : signal.IsOrderly := by
  induction run with
  | nil => exact fun owed => absurd owed (Nat.lt_irrefl 0)
  | snoc _ step ih => exact (step?_step step).orderly ih

/-- **The flag is set exactly if somebody has set it.** -/
theorem raised_iff (run : Run ({} : AbortSignal Id) past signal) :
    signal.raised = true ↔ Raised past := by
  induction run with
  | nil => simp [Raised]
  | snoc _ step ih => rw [(step?_step step).raised_iff, ih, Raised, Raised, mem_snoc_iff]

/-- **Once notice was given nobody sleeps.** -/
theorem up (run : Run ({} : AbortSignal Id) past signal) (announced : Announced past) :
    signal.IsUp := by
  induction run with
  | nil => simp [Announced] at announced
  | snoc run step ih =>
    rcases mem_snoc_iff.mp announced with before | rfl
    · exact (ih before).step (step?_step step)
    · exact (step?_step step).isUp run.orderly

/-- What came before the last move of a run. -/
theorem last {moment : Moment Id} (run : Run start (past ++ [moment]) signal) :
    Run start past moment.before ∧ moment.before.step? moment.move = some moment.after ∧
      moment.after = signal := by
  generalize whole : past ++ [moment] = all at run
  cases run with
  | nil => exact absurd whole (List.append_ne_nil_of_right_ne_nil _ (List.cons_ne_nil _ _))
  | snoc run step =>
    obtain ⟨rfl, same⟩ := List.append_inj' whole rfl
    cases same
    exact ⟨run, step, rfl⟩

/-- Moves that are possible one after another carry a run on. -/
theorem of_moments {last : AbortSignal Id} {moves : List (Move Id)} (run : Run start past signal)
    (replayed : signal.replay? moves = some last) :
    Run start (past ++ signal.moments moves) last := by
  induction moves generalizing signal past with
  | nil =>
    cases replayed
    rw [moments, List.append_nil]
    exact run
  | cons move rest ih =>
    obtain ⟨next, step, replayed⟩ := Option.bind_eq_some_iff.mp replayed
    have further := ih (run.snoc step) replayed
    rw [List.append_assoc] at further
    simp only [moments, step]
    exact further

end Run

/-! ## Coming to rest -/

/-- A turn is possible unless the waiter is parked without a notice. -/
theorem turn?_eq_none_iff {place : Nat} {waiter : Id × Waiting}
    (found : signal.waiters[place]? = some waiter) :
    signal.turn? place = none ↔ waiter.2 = .parked false := by
  rw [turn?, found, Option.bind_some, Option.map_eq_none_iff, Waiting.turn?_eq_none_iff]

/-- **Every turn pays for itself.** -/
theorem debt_lt_of_turn? {place : Nat} (turn : signal.turn? place = some next) :
    Waiting.debt (next.waiters.map Prod.snd) < Waiting.debt (signal.waiters.map Prod.snd) := by
  obtain ⟨⟨id, waiting⟩, found, turn⟩ := Option.bind_eq_some_iff.mp turn
  obtain ⟨result, tested, rfl⟩ := Option.map_eq_some_iff.mp turn
  have stood : (signal.waiters.map Prod.snd)[place]? = some waiting := by
    rw [List.getElem?_map, found, Option.map_some]
  cases result with
  | stands later =>
    simp only [stand, List.map_set]
    exact Waiting.debt_lt_of_stands stood tested
  | passes =>
    simp only [AbortSignal.leave, ← List.eraseIdx_map]
    exact Waiting.debt_lt_of_passes stood tested

/-- **Those who wait for a signal wait in order.** -/
theorem queue_isOrderly : (queue : Queue (AbortSignal Id) (Move Id)).IsOrderly where
  able {signal place waiting} there := by
    obtain ⟨waiter, found, rfl⟩ := Option.map_eq_some_iff.mp (List.getElem?_map.symm.trans there)
    exact turn?_eq_none_iff found
  paid turn := debt_lt_of_turn? turn

/-- The times the flag was set of which notice is to come. -/
theorem queue_owes : (queue : Queue (AbortSignal Id) (Move Id)).Owes unannounced where
  move step := by
    cases step?_step step with
    | turn turn => cases turn <;> exact Nat.le_succ _
    | raise => exact Nat.le_refl _
    | announce => exact Nat.le_succ_of_le (Nat.sub_le ..)
    | _ => exact Nat.le_succ _
  turn step := by
    cases turn?_turn step <;> rfl
  announce signal := by
    simp only [queue, step?]
    split
    · next none => rw [Option.getD_none, none]
    · rfl

/-- While notice is owed of a flag that is set, somebody may sleep; else nobody does. -/
theorem Run.isUp_or_owed {past : List (Moment Id)} (run : Run ({} : AbortSignal Id) past signal)
    (raised : signal.raised = true) : signal.IsUp ∨ 0 < signal.unannounced := by
  induction run with
  | nil => cases raised
  | @snoc _ signal next move run step ih =>
    have step := step?_step step
    -- other moves than these two leave the flag and what is owed of it as they are
    have kept (before : signal.raised = true) (owed : next.unannounced = signal.unannounced) :
        next.IsUp ∨ 0 < next.unannounced :=
      (ih before).imp (·.step step) fun more => owed ▸ more
    cases step with
    | raise => exact .inr (Nat.succ_pos _)
    | announce owed => exact .inl (Step.isUp (.announce owed) run.orderly)
    | wait | cancel => exact kept raised rfl
    | turn turn => cases turn <;> exact kept raised rfl

/-- **A signal at rest keeps nobody waiting.** After each move, its notice and what follows from it,
whoever still waits is parked, and the flag is not set. -/
theorem Run.play {past : List (Moment Id)} (run : Run ({} : AbortSignal Id) past signal)
    (told : signal.unannounced = 0) (move : Move Id) :
    (∃ past', Run ({} : AbortSignal Id) past' (signal.play move)) ∧
      (signal.play move).unannounced = 0 ∧
      ∀ waiter ∈ (signal.play move).waiters,
        waiter.2 = .parked false ∧ (signal.play move).raised = false := by
  have later : ∃ past', Run ({} : AbortSignal Id) past' (signal.play move) :=
    Queue.play_induction (P := fun later => ∃ past', Run ({} : AbortSignal Id) past' later)
      (fun ⟨_, before⟩ step => ⟨_, before.snoc step⟩) ⟨past, run⟩ move
  have paid : (signal.play move).unannounced = 0 := queue_owes.play told move
  refine ⟨later, paid, fun waiter among => ?_⟩
  have asleep := queue_isOrderly.play_rests signal move waiter.2 (List.mem_map_of_mem among)
  refine ⟨asleep, Bool.eq_false_iff.mpr fun raised => ?_⟩
  obtain ⟨_, run'⟩ := later
  rcases run'.isUp_or_owed raised with up | owed
  · exact up.awake waiter among asleep
  · rw [paid] at owed
    cases owed

/-! ## Who waits -/

/-- The names of those who wait. -/
def ids (signal : AbortSignal Id) : List Id := signal.waiters.map Prod.fst

theorem ids_stand {place : Nat} {id : Id} {waiting : Waiting}
    (found : signal.waiters[place]? = some (id, waiting)) (other : Waiting) :
    (signal.stand place id other).ids = signal.ids := by
  have name : (signal.waiters.map Prod.fst)[place]? = some id := by
    rw [List.getElem?_map, found]
    rfl
  obtain ⟨inside, rfl⟩ := List.getElem?_eq_some_iff.mp name
  rw [ids, stand, List.map_set]
  exact List.set_getElem_self inside

theorem ids_notice (waiters : List (Id × Waiting)) :
    (waiters.map fun (id, waiting) => (id, waiting.notice)).map Prod.fst
      = waiters.map Prod.fst := by
  rw [List.map_map]
  rfl

section Count

variable [DecidableEq Id]

/-- One less waits when the waiter at a place is gone. -/
theorem count_eraseIdx {waiters : List (Id × Waiting)} {place : Nat} {other : Id}
    {waiting : Waiting} (found : waiters[place]? = some (other, waiting)) (id : Id) :
    (waiters.map Prod.fst).count id
      = ((waiters.eraseIdx place).map Prod.fst).count id + if other = id then 1 else 0 := by
  obtain ⟨inside, here⟩ := List.getElem?_eq_some_iff.mp found
  have same := ((List.getElem_cons_eraseIdx_perm inside).map Prod.fst).count_eq id
  rw [here, List.map_cons, List.count_cons] at same
  simpa using same.symm

/-- **Everybody who came waits, has returned or has given up.** -/
theorem Run.accounted {past : List (Moment Id)} (run : Run ({} : AbortSignal Id) past signal)
    (id : Id) :
    signal.ids.count id + signal.woken.count id + (past.filterMap Moment.quitter?).count id
      = (past.filterMap Moment.comer?).count id := by
  induction run with
  | nil => rfl
  | snoc run step ih =>
    rw [filterMap_snoc, filterMap_snoc, List.count_append, List.count_append]
    cases step?_step step with
    | wait other =>
      simp only [Moment.quitter?, Moment.comer?, ids, List.map_append, List.count_append,
        Option.toList_none, Option.toList_some, List.map_cons, List.map_nil, List.count_nil] at ih ⊢
      omega
    | turn turn =>
      cases turn with
      | register found | park found =>
        rw [ids_stand found]
        exact ih
      | leave found raised =>
        have gone := count_eraseIdx found id
        simp only [Moment.quitter?, Moment.comer?, ids, AbortSignal.leave, List.count_append,
          Option.toList_none, List.count_nil, List.count_singleton, beq_iff_eq] at ih ⊢
        omega
    | cancel found =>
      have gone := count_eraseIdx found id
      simp only [Moment.quitter?, Moment.comer?, ids, found, Option.map_some, Option.toList_none,
        Option.toList_some, List.count_nil, List.count_singleton, beq_iff_eq] at ih ⊢
      omega
    | raise => exact ih
    | announce owed =>
      unfold ids at ih ⊢
      rw [ids_notice]
      exact ih

/-- Nobody else goes by the name of the waiter at a place, if names are not used twice. -/
theorem ne_of_mem_eraseIdx {place : Nat} {id : Id} {waiting : Waiting}
    (found : signal.waiters[place]? = some (id, waiting)) (once : signal.ids.count id ≤ 1)
    {waiter : Id × Waiting} (among : waiter ∈ signal.waiters.eraseIdx place) : waiter.1 ≠ id := by
  rintro rfl
  have gone := count_eraseIdx found waiter.1
  have twice : 0 < ((signal.waiters.eraseIdx place).map Prod.fst).count waiter.1 :=
    List.count_pos_iff.mpr (List.mem_map_of_mem among)
  unfold ids at once
  rw [if_pos rfl] at gone
  omega

end Count

/-! ## Who comes when the flag is set -/

/-- How far a waiter has come in so many turns that came when the flag was set: it has not begun, or
is registered, or has returned; or it has given up. -/
structure Passes (id : Id) (turns : Nat) (signal : AbortSignal Id) : Prop where
  stands : ∀ waiting, (id, waiting) ∈ signal.waiters →
    waiting = .arriving ∧ turns = 0 ∨ (∃ noticed, waiting = .registered noticed) ∧ turns = 1
  returned : id ∈ signal.woken ↔ turns = 2
  bounded : turns ≤ 2

section Passes

variable {id : Id} {turns : Nat}

/-- What others do makes no difference. -/
theorem Passes.turn_other (passes : Passes id turns signal) (raised : signal.raised = true)
    {place : Nat} {other : Id} {waiting : Waiting}
    (found : signal.waiters[place]? = some (other, waiting)) (differs : other ≠ id)
    (turn : signal.Turn place next) : Passes id turns next := by
  cases turn with
  | register there =>
    obtain ⟨rfl, -⟩ := Prod.mk.inj (Option.some.inj (there.symm.trans found))
    refine ⟨fun standing among => ?_, passes.returned, passes.bounded⟩
    rcases List.mem_or_eq_of_mem_set among with old | same
    · exact passes.stands standing old
    · exact absurd (Prod.mk.inj same).1.symm differs
  | leave there =>
    obtain ⟨rfl, -⟩ := Prod.mk.inj (Option.some.inj (there.symm.trans found))
    refine ⟨fun standing among => passes.stands standing (List.mem_of_mem_eraseIdx among), ?_,
      passes.bounded⟩
    rw [← passes.returned, AbortSignal.leave, List.mem_append, List.mem_singleton]
    exact or_iff_left differs.symm
  | park _ calm => cases calm.symm.trans raised

variable [DecidableEq Id]

/-- It registers with its first turn, and returns with its second. -/
theorem Passes.turn_own (passes : Passes id turns signal) (raised : signal.raised = true)
    (once : signal.ids.count id ≤ 1) {place : Nat} {waiting : Waiting}
    (found : signal.waiters[place]? = some (id, waiting)) (turn : signal.Turn place next) :
    Passes id (turns + 1) next := by
  have stood := passes.stands waiting (List.mem_of_getElem? found)
  have alone {standing : Waiting} (among : (id, standing) ∈ signal.waiters.eraseIdx place) :
      False := ne_of_mem_eraseIdx found once among rfl
  cases turn with
  | register there ready =>
    obtain ⟨rfl, rfl⟩ := Prod.mk.inj (Option.some.inj (there.symm.trans found))
    rcases stood with ⟨-, rfl⟩ | ⟨⟨noticed, rfl⟩, -⟩
    · have inside := (List.getElem?_eq_some_iff.mp found).1
      refine ⟨fun standing among => .inr ⟨?_, rfl⟩, ?_, Nat.le_succ 1⟩
      · rcases List.mem_cons.mp ((List.set_perm_cons_eraseIdx inside _).mem_iff.mp among) with
          same | elsewhere
        · exact ⟨false, (Prod.mk.inj same).2⟩
        · exact (alone elsewhere).elim
      · exact iff_of_false (fun back => by cases passes.returned.mp back) (by decide)
    · rcases ready with no | no <;> cases no
  | leave there =>
    obtain ⟨rfl, rfl⟩ := Prod.mk.inj (Option.some.inj (there.symm.trans found))
    rcases stood with ⟨no, -⟩ | ⟨-, rfl⟩
    · cases no
    · exact ⟨fun standing among => (alone among).elim,
        iff_of_true (List.mem_append_right _ (List.mem_singleton_self _)) rfl, Nat.le_refl 2⟩
  | park _ calm => cases calm.symm.trans raised

/-- **Who comes when the flag is set** takes two turns at most, and does not park. -/
theorem Passes.step (passes : Passes id turns signal) (raised : signal.raised = true)
    (once : signal.ids.count id ≤ 1) {move : Move Id} (new : move ≠ .wait id)
    (step : signal.Step move next) :
    Passes id (turns + (Moment.taker? ⟨signal, move, next⟩).toList.count id) next := by
  cases step with
  | wait other =>
    have differs : other ≠ id := fun same => new (by rw [same])
    refine ⟨fun waiting among => ?_, passes.returned, passes.bounded⟩
    rcases List.mem_append.mp among with old | last
    · exact passes.stands waiting old
    · obtain ⟨rfl, -⟩ := Prod.mk.inj (List.mem_singleton.mp last)
      exact absurd rfl differs
  | @turn place next turn =>
    obtain ⟨other, waiting, found⟩ := turn.found
    simp only [Moment.taker?, found, Option.map_some, Option.toList_some, List.count_singleton,
      beq_iff_eq]
    by_cases own : other = id
    · subst own
      rw [if_pos rfl]
      exact passes.turn_own raised once found turn
    · rw [if_neg own]
      exact passes.turn_other raised found own turn
  | cancel found =>
    exact ⟨fun waiting among => passes.stands waiting (List.mem_of_mem_eraseIdx among),
      passes.returned, passes.bounded⟩
  | raise => exact ⟨passes.stands, passes.returned, passes.bounded⟩
  | announce owed =>
    refine ⟨fun waiting among => ?_, passes.returned, passes.bounded⟩
    obtain ⟨⟨other, before⟩, old, same⟩ := List.mem_map.mp among
    obtain ⟨rfl, rfl⟩ := Prod.mk.inj same
    rcases passes.stands before old with ⟨rfl, none⟩ | ⟨⟨noticed, rfl⟩, one⟩
    · exact .inl ⟨rfl, none⟩
    · exact .inr ⟨⟨true, rfl⟩, one⟩

/-- **Who comes when the flag is set**, all along a run in which its name is not used again. -/
theorem Run.passes {before after : List (Moment Id)} {comes : Moment Id}
    (run : Run ({} : AbortSignal Id) (before ++ comes :: after) signal)
    (arrival : comes.move = .wait id) (raised : Raised before)
    (once : ((before ++ comes :: after).filterMap Moment.comer?).count id ≤ 1) :
    Passes id ((after.filterMap Moment.taker?).count id) signal := by
  have comer : comes.comer? = some id := by rw [Moment.comer?, arrival]
  induction after using List.reverseRecOn generalizing signal with
  | nil =>
    obtain ⟨earlier, step, rfl⟩ := run.last
    rw [arrival] at step
    rw [filterMap_snoc, comer, List.count_append, Option.toList_some, List.count_singleton_self]
      at once
    have nobody := earlier.accounted id
    generalize comes.after = next at step
    cases step?_step step
    refine ⟨fun waiting among => ?_, iff_of_false (fun back => ?_) (Nat.zero_ne_add_one 1),
      Nat.zero_le 2⟩
    · rcases List.mem_append.mp among with old | new
      · have there : 0 < comes.before.ids.count id :=
          List.count_pos_iff.mpr (List.mem_map_of_mem old)
        omega
      · exact .inl ⟨(Prod.mk.inj (List.mem_singleton.mp new)).2, rfl⟩
    · have there : 0 < comes.before.woken.count id := List.count_pos_iff.mpr back
      omega
  | append_singleton after moment ih =>
    rw [← List.cons_append, ← List.append_assoc] at run once
    obtain ⟨earlier, step, rfl⟩ := run.last
    rw [filterMap_snoc, List.count_append] at once
    have counted := earlier.accounted id
    have among : 0 < ((before ++ comes :: after).filterMap Moment.comer?).count id :=
      List.count_pos_iff.mpr (List.mem_filterMap.mpr
        ⟨comes, List.mem_append_right _ List.mem_cons_self, comer⟩)
    have new : moment.move ≠ .wait id := by
      intro again
      have twice : moment.comer? = some id := by rw [Moment.comer?, again]
      rw [twice, Option.toList_some, List.count_singleton_self] at once
      omega
    have up : moment.before.raised = true := earlier.raised_iff.mpr
      (raised.imp fun _ ⟨early, fires⟩ => ⟨List.mem_append_left _ early, fires⟩)
    rw [filterMap_snoc, List.count_append]
    exact (ih earlier (by omega)).step up (by omega) new (step?_step step)

end Passes

/-! ## Further raises -/

/-- The signal as far as it matters when the flag is set. -/
def essence (signal : AbortSignal Id) : AbortSignal Id :=
  { signal with
    unannounced := 0
    waiters := signal.waiters.map fun (id, waiting) => (id, waiting.unnoticed) }

/-- Whether a move is one of a waiter, and not of somebody who raises the signal. -/
def Move.isWaiters : Move Id → Bool
  | .raise | .announce => false
  | _ => true

/-- Nothing that matters is changed by a raise, or by a notice, when the flag is set and nobody
sleeps. -/
theorem IsUp.essence_eq (up : signal.IsUp) {move : Move Id} (raises : move.isWaiters = false)
    (step : signal.Step move next) : next.essence = signal.essence := by
  cases step with
  | wait | turn | cancel => cases raises
  | raise => rw [essence, essence, up.raised]
  | announce owed =>
    have same : (signal.waiters.map fun (id, waiting) => (id, waiting.notice)).map
        (fun (id, waiting) => (id, waiting.unnoticed))
        = signal.waiters.map fun (id, waiting) => (id, waiting.unnoticed) := by
      rw [List.map_map]
      refine List.map_congr_left fun (id, waiting) among => ?_
      have awake := up.awake _ among
      cases waiting with
      | arriving | registered => rfl
      | parked noticed =>
        cases noticed with
        | true => rfl
        | false => exact absurd rfl awake
    rw [essence, same]
    rfl

theorem essence_stand (place : Nat) (id : Id) (waiting : Waiting) :
    (signal.stand place id waiting).essence
      = signal.essence.stand place id waiting.unnoticed := by
  simp only [essence, stand, List.map_set]

theorem essence_leave (place : Nat) (id : Id) :
    (signal.leave place id).essence = signal.essence.leave place id := by
  simp only [essence, AbortSignal.leave, ← List.eraseIdx_map]

/-- When the flag is set the moves of waiters depend on what matters only. -/
theorem map_essence_step? (raised : signal.raised = true) {move : Move Id}
    (waiters : move.isWaiters = true) :
    (signal.step? move).map essence = signal.essence.step? move := by
  cases move with
  | raise | announce => cases waiters
  | wait id => simp [step?, essence, Waiting.unnoticed]
  | cancel place =>
    simp only [step?, essence, List.length_map]
    split
    · simp only [Option.map_some, essence, ← List.eraseIdx_map]
    · rfl
  | turn place =>
    have seen : signal.essence.waiters[place]?
        = signal.waiters[place]?.map fun (id, waiting) => (id, waiting.unnoticed) :=
      List.getElem?_map
    show (signal.turn? place).map essence = signal.essence.turn? place
    cases found : signal.waiters[place]? with
    | none => rw [turn?, turn?, seen, found]; rfl
    | some waiter =>
      obtain ⟨id, waiting⟩ := waiter
      rw [found] at seen
      cases waiting with
      | arriving =>
        rw [turn?_of_ready found (.inl rfl), turn?_of_ready seen (.inl rfl), Option.map_some,
          essence_stand]
        rfl
      | registered noticed =>
        rw [turn?_of_raised found raised, turn?_of_raised seen raised, Option.map_some,
          essence_leave]
      | parked noticed =>
        cases noticed with
        | true =>
          rw [turn?_of_ready found (.inr rfl), turn?_of_ready seen (.inr rfl), Option.map_some,
            essence_stand]
          rfl
        | false => rw [turn?_of_asleep found, turn?_of_asleep seen, Option.map_none]

/-- **Further raises and notices change nothing**: when the flag is set and nobody sleeps, they can
be left out of whatever happens then. -/
theorem IsUp.replay_waiters (up : signal.IsUp) {moves : List (Move Id)} {later : AbortSignal Id}
    (replayed : signal.replay? moves = some later) {other : AbortSignal Id}
    (alike : other.essence = signal.essence) :
    ∃ last, other.replay? (moves.filter Move.isWaiters) = some last ∧
      last.essence = later.essence := by
  induction moves generalizing signal other with
  | nil =>
    cases replayed
    exact ⟨other, rfl, alike⟩
  | cons move rest ih =>
    obtain ⟨next, step, replayed⟩ := Option.bind_eq_some_iff.mp replayed
    have up' : next.IsUp := up.step (step?_step step)
    by_cases waiters : move.isWaiters = true
    · have raised : other.raised = true := by
        have flags := congrArg AbortSignal.raised alike
        exact flags.trans up.raised
      have same : (other.step? move).map essence = some next.essence := by
        rw [map_essence_step? raised waiters, alike, ← map_essence_step? up.raised waiters, step,
          Option.map_some]
      obtain ⟨taken, step', alike'⟩ := Option.map_eq_some_iff.mp same
      obtain ⟨last, reached, essence⟩ := ih up' replayed alike'
      refine ⟨last, ?_, essence⟩
      rw [List.filter_cons_of_pos waiters, replay?, step']
      exact reached
    · have unchanged := up.essence_eq (Bool.eq_false_iff.mpr waiters) (step?_step step)
      rw [List.filter_cons_of_neg waiters]
      exact ih up' replayed (alike.trans unchanged.symm)

/-- **An abort is not lost.** In every run, whoever raises the signal, waits for it or gives up, in
whatever order:

Nobody returns unless the flag was set before.

Once notice was given, and so the flag set, nobody is parked without a notice; whoever waits can
take its turn, and registers with it or returns.

Who comes when the flag is set can always take its turn; with the first it registers, with the
second it returns. So it never parks, and either waits, or has returned, or has given up. Here its
name is not used again.

Once notice was given the raises and notices that follow can be left out: the flag, who has
returned, in which order, and who stands where is the same without them. -/
theorem Run.never_lost [DecidableEq Id] {past : List (Moment Id)}
    (run : Run ({} : AbortSignal Id) past signal) :
    (∀ move next, signal.step? move = some next → next.woken ≠ signal.woken → Raised past) ∧
    (Announced past → Raised past ∧
      ∀ place id waiting, signal.waiters[place]? = some (id, waiting) →
        waiting ≠ .parked false ∧
          (signal.step? (.turn place) = some (signal.stand place id (.registered false)) ∨
            signal.step? (.turn place) = some (signal.leave place id))) ∧
    (∀ before comes after id, past = before ++ comes :: after → comes.move = .wait id →
      Raised before → (past.filterMap Moment.comer?).count id = 1 →
      Passes id ((after.filterMap Moment.taker?).count id) signal ∧
        (∀ place waiting, signal.waiters[place]? = some (id, waiting) →
          (signal.step? (.turn place)).isSome = true) ∧
        (id ∈ signal.ids ∨ id ∈ signal.woken ∨ id ∈ past.filterMap Moment.quitter?)) ∧
    (Announced past → ∀ moves later, signal.replay? moves = some later →
      ∃ other, signal.replay? (moves.filter Move.isWaiters) = some other ∧
        other.essence = later.essence) := by
  refine ⟨fun move next step returns => ?_, fun announced => ?_, ?_, fun announced moves later
    replayed => (run.up announced).replay_waiters replayed rfl⟩
  · exact run.raised_iff.mp ((step?_step step).raised_of_returns returns)
  · have up := run.up announced
    refine ⟨run.raised_iff.mp up.raised, fun place id waiting found => ⟨?_, up.turn found⟩⟩
    exact up.awake _ (List.mem_of_getElem? found)
  · rintro before comes after id rfl arrival raised once
    have passes := run.passes arrival raised (Nat.le_of_eq once)
    have flag : signal.raised = true := run.raised_iff.mpr
      (raised.imp fun _ ⟨early, fires⟩ => ⟨List.mem_append_left _ early, fires⟩)
    refine ⟨passes, fun place waiting found => ?_, ?_⟩
    · rcases passes.stands waiting (List.mem_of_getElem? found) with
        ⟨rfl, -⟩ | ⟨⟨noticed, rfl⟩, -⟩
      · rw [step?, turn?_of_ready found (.inl rfl)]
        rfl
      · rw [step?, turn?_of_raised found flag]
        rfl
    · have counted : 0 < signal.ids.count id + signal.woken.count id
          + ((before ++ comes :: after).filterMap Moment.quitter?).count id := by
        rw [run.accounted id, once]
        exact Nat.one_pos
      rcases Nat.add_pos_iff_pos_or_pos.mp counted with here | gone
      · rcases Nat.add_pos_iff_pos_or_pos.mp here with waits | returned
        · exact .inl (List.count_pos_iff.mp waits)
        · exact .inr (.inl (List.count_pos_iff.mp returned))
      · exact .inr (.inr (List.count_pos_iff.mp gone))

/-- Two come to wait, and one of them parks; then the flag is set, a third comes before notice is
given, and returns after it. -/
def lateMoves : List (Move Nat) :=
  [.wait 0, .turn 0, .turn 0, .wait 1, .turn 1, .raise, .wait 2, .turn 2, .announce, .turn 2]

theorem Run.never_lost_lateMoves :
    ∃ past signal, Run ({} : AbortSignal Nat) past signal ∧ past.map Moment.move = lateMoves ∧
      Announced past ∧ signal.waiters = [(0, .parked true), (1, .registered true)] ∧
      (signal.step? (.turn 0) = some (signal.stand 0 0 (.registered false)) ∨
        signal.step? (.turn 0) = some (signal.leave 0 0)) ∧
      (∃ before comes after, past = before ++ comes :: after ∧ comes.move = .wait 2 ∧
        Raised before ∧ (past.filterMap Moment.comer?).count 2 = 1 ∧
        (after.filterMap Moment.taker?).count 2 = 2 ∧ 2 ∈ signal.woken) ∧
      ∃ later other, signal.replay? [.raise, .turn 0, .announce, .turn 0] = some later ∧
        later.woken = [2, 0] ∧ signal.replay? [.turn 0, .turn 0] = some other ∧
        other.essence = later.essence := by
  have replayed : ({} : AbortSignal Nat).replay? lateMoves
      = some ⟨true, 0, [(0, .parked true), (1, .registered true)], [2]⟩ := rfl
  have run : Run ({} : AbortSignal Nat) (moments {} lateMoves) _ := Run.of_moments .nil replayed
  have announced : Announced (moments ({} : AbortSignal Nat) lateMoves) :=
    ⟨_, List.mem_of_getElem? (i := 8) rfl, rfl⟩
  have raised : Raised (moments ({} : AbortSignal Nat) (lateMoves.take 6)) :=
    ⟨_, List.mem_of_getElem? (i := 5) rfl, rfl⟩
  obtain ⟨-, awake, comers, further⟩ := run.never_lost
  obtain ⟨passes, -, -⟩ := comers (moments {} (lateMoves.take 6)) _ _ 2 rfl rfl raised (by decide)
  obtain ⟨other, reached, essence⟩ :=
    further announced [.raise, .turn 0, .announce, .turn 0] _ rfl
  exact ⟨_, _, run, rfl, announced, rfl, ((awake announced).2 0 0 _ rfl).2,
    ⟨moments {} (lateMoves.take 6), _, _, rfl, rfl, raised, by decide, rfl,
      passes.returned.mpr rfl⟩, _, other, rfl, rfl, reached, essence⟩

end AbortSignal

end Fleet
