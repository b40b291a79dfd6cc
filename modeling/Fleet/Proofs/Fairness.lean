import Fleet.Proofs.Start

/-!
# Runs that go on for ever

A `Setup.Run` may stop anywhere, so it cannot say that something comes about. A `Setup.Unending`
course goes on for ever, and each of its beginnings is a run. It is *fair* if no task waits for ever
that can take a step from some point on. Nothing else is assumed of whoever lets the tasks run: not
which one is first, nor how long it takes. Fair courses exist from every state
(`Unending.roundRobin_fair`).

**The law** (`Unending.Fair.reaches`): what some task owes comes about. At any time one task owes a
step that it can take, and a number bounds the steps that are owed in all; other tasks may lower
the number, or have somebody else owe the next step for a lower one, but never raise it. Then in a
fair course the debt is paid.
-/

namespace Fleet

namespace Setup

/-- Events that follow one another without end, with the states between them. -/
structure Unending (setup : Setup) (s : State) where
  state : Nat → State
  /-- What happens in the state of this number. -/
  event : Nat → Event
  begins : state 0 = s
  step : ∀ n, setup.step? (state n) (event n) = some (state (n + 1))

namespace Unending

variable {setup : Setup} {s : State}

/-- A task that can take a step from some point on takes one. -/
def Fair (course : setup.Unending s) : Prop :=
  ∀ (actor : Actor) (n : Nat),
    (∀ m, n ≤ m → (setup.step? (course.state m) (.act actor)).isSome = true) →
      ∃ m, n ≤ m ∧ course.event m = .act actor

/-- The moments before the state of this number. -/
def past (course : setup.Unending s) : Nat → List Moment
  | 0 => []
  | n + 1 => course.past n ++ [⟨course.state n, course.event n, course.state (n + 1)⟩]

/-- Each beginning is a run. -/
theorem run (course : setup.Unending s) (n : Nat) :
    setup.Run s (course.past n) (course.state n) := by
  induction n with
  | zero =>
    rw [course.begins]
    exact .nil
  | succ n ih => exact ih.snoc (course.step n)

/-- What holds of all events holds of those of each beginning. -/
theorem forall_past {course : setup.Unending s} {P : Event → Prop} (all : ∀ n, P (course.event n))
    (n : Nat) : ∀ moment ∈ course.past n, P moment.event := by
  induction n with
  | zero => exact fun _ among => absurd among List.not_mem_nil
  | succ n ih =>
    intro moment among
    rcases List.mem_append.mp among with before | last
    · exact ih moment before
    · obtain rfl := List.mem_singleton.mp last
      exact all n

/-- What happens when a task is asked to take a step: the step, or a tick of the clock. -/
def turn (setup : Setup) (u : State) (actor : Actor) : Event × State :=
  match setup.step? u (.act actor) with
  | some t => (.act actor, t)
  | none => (.clock (u.now + 1), { u with now := u.now + 1 })

theorem turn_step (setup : Setup) (u : State) (actor : Actor) :
    setup.step? u (turn setup u actor).1 = some (turn setup u actor).2 := by
  unfold turn
  cases step : setup.step? u (.act actor) with
  | some t => exact step
  | none => exact if_pos (Nat.lt_succ_self u.now)

/-- The task of a run with so many hosts that is asked in the step of this number. -/
def asked (nhosts n : Nat) : Actor :=
  (Course.actors nhosts)[n % (Course.actors nhosts).length]?.getD .dispatcher

/-- The states in which the tasks are asked one after another. -/
def visited (setup : Setup) (s : State) : Nat → State
  | 0 => s
  | n + 1 => (turn setup (visited setup s n) (asked s.lanes.length n)).2

/-- The course in which the tasks are asked one after another, again and again. -/
def roundRobin (setup : Setup) (s : State) : setup.Unending s where
  state := visited setup s
  event n := (turn setup (visited setup s n) (asked s.lanes.length n)).1
  begins := rfl
  step _ := turn_step ..

/-- **Asking the tasks one after another is fair.** -/
theorem roundRobin_fair (setup : Setup) (s : State) : (roundRobin setup s).Fair := by
  intro actor n ready
  have among : actor ∈ Course.actors s.lanes.length := by
    -- a worker that can take a step has a lane, and there are no more lanes than in the beginning
    cases actor with
    | worker i =>
      obtain ⟨t, step⟩ := Option.isSome_iff_exists.mp (ready n (Nat.le_refl n))
      obtain ⟨lane, _, _, found, -, -⟩ := workerStep?_turn step
      have inside := (List.getElem?_eq_some_iff.mp found).1
      rw [((roundRobin setup s).run n).length] at inside
      simp [Course.actors, inside]
    | _ => simp [Course.actors]
  obtain ⟨place, same⟩ := List.mem_iff_getElem?.mp among
  have bound := (List.getElem?_eq_some_iff.mp same).1
  have later : n ≤ (Course.actors s.lanes.length).length * n + place :=
    Nat.le_trans (Nat.le_mul_of_pos_left n (Nat.zero_lt_of_lt bound)) (Nat.le_add_right _ _)
  refine ⟨_, later, ?_⟩
  have turnOf :
      asked s.lanes.length ((Course.actors s.lanes.length).length * n + place) = actor := by
    rw [asked, Nat.mul_add_mod, Nat.mod_eq_of_lt bound, same, Option.getD_some]
  obtain ⟨t, step⟩ := Option.isSome_iff_exists.mp (ready _ later)
  change setup.step? (visited setup s _) (.act actor) = some t at step
  show (turn setup (visited setup s _) _).1 = _
  rw [turnOf, turn, step]

/-- **In a fair course what is owed comes about.** `Owes n k actor` says that at the state of number
`n` the actor owes a step, and that no more than `k` are owed after it. -/
theorem Fair.reaches {course : setup.Unending s} (fair : course.Fair)
    (Owes : Nat → Nat → Actor → Prop) {Goal : Nat → Prop}
    (able : ∀ {n k actor}, Owes n k actor →
      (setup.step? (course.state n) (.act actor)).isSome = true)
    (pays : ∀ {n k actor}, Owes n k actor → Goal (n + 1) ∨ ∃ k' actor', Owes (n + 1) k' actor' ∧
      (k' < k ∨ k' = k ∧ actor' = actor ∧ course.event n ≠ .act actor))
    {n k : Nat} {actor : Actor} (owes : Owes n k actor) : ∃ m, n ≤ m ∧ Goal m := by
  induction k using Nat.strongRecOn generalizing n actor with
  | ind k ih =>
    apply Classical.byContradiction
    intro never
    -- as long as the number does not fall, the same actor goes on owing its step
    have stays (d : Nat) : Owes (n + d) k actor := by
      induction d with
      | zero => exact owes
      | succ d still =>
        rcases pays still with reached | ⟨k', actor', owes', fewer | ⟨rfl, rfl, -⟩⟩
        · exact absurd ⟨_, Nat.le_add_right n (d + 1), reached⟩ never
        · obtain ⟨m, later, reached⟩ := ih k' fewer owes'
          exact absurd ⟨m, Nat.le_trans (Nat.le_add_right n (d + 1)) later, reached⟩ never
        · exact owes'
    have ready (m : Nat) (later : n ≤ m) :
        (setup.step? (course.state m) (.act actor)).isSome = true := by
      obtain ⟨d, rfl⟩ := Nat.exists_eq_add_of_le later
      exact able (stays d)
    obtain ⟨m, later, acts⟩ := fair actor n ready
    obtain ⟨d, rfl⟩ := Nat.exists_eq_add_of_le later
    rcases pays (stays d) with reached | ⟨k', actor', owes', fewer | ⟨-, -, rests⟩⟩
    · exact never ⟨_, Nat.le_succ_of_le later, reached⟩
    · obtain ⟨m, after, reached⟩ := ih k' fewer owes'
      exact never ⟨m, Nat.le_trans (Nat.le_succ_of_le later) after, reached⟩
    · exact rests acts

end Unending

end Setup

end Fleet
