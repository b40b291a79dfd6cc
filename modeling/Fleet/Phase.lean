/-!
# The phases of a host

A host waits, connects, executes, and is then done or failed. `Phase.Leads` lists the steps that a
host may take; `canAdvance` decides it. Failing is possible from the two phases in which a worker
is busy with the host, and only there.
-/

namespace Fleet

/-- Where a host stands in its life. -/
inductive Phase where
  /-- Waiting for a slot. -/
  | new
  /-- Its session is being opened. -/
  | connecting
  /-- Its session is open. -/
  | executing
  /-- Its session ended well. -/
  | done
  /-- Something went wrong with it. -/
  | failed
  deriving Repr, DecidableEq

namespace Phase

/-- The name under which a phase is printed. -/
def name : Phase → String
  | new => "new"
  | connecting => "connecting"
  | executing => "executing"
  | done => "done"
  | failed => "failed"

/-- The place of a phase in the order of a host's life. -/
def rank : Phase → Nat
  | new => 0
  | connecting => 1
  | executing => 2
  | done => 3
  | failed => 4

/-- Whether a worker is busy with the host. -/
def isActive : Phase → Bool
  | connecting | executing => true
  | _ => false

/-- Whether the host's life is over. -/
def isTerminal : Phase → Bool
  | done | failed => true
  | _ => false

/-- The steps a host may take. -/
inductive Leads : Phase → Phase → Prop where
  | connect : Leads new connecting
  | execute : Leads connecting executing
  | refuse : Leads connecting failed
  | finish : Leads executing done
  | fail : Leads executing failed

/-- Decides whether a host may step from one phase to another. -/
def canAdvance : Phase → Phase → Bool
  | new, connecting => true
  | connecting, executing => true
  | connecting, failed => true
  | executing, done => true
  | executing, failed => true
  | _, _ => false

theorem canAdvance_iff (p q : Phase) : p.canAdvance q = true ↔ Leads p q := by
  constructor
  · intro h
    cases p <;> cases q <;> simp [canAdvance] at h <;> constructor
  · rintro (_ | _ | _ | _ | _) <;> rfl

/-- A host that a worker is busy with has not come to its end. -/
theorem isTerminal_of_isActive {p : Phase} (h : p.isActive = true) : p.isTerminal = false := by
  cases p <;> simp [isActive] at h <;> rfl

/-- No step leads out of the last two phases. -/
theorem canAdvance_of_isTerminal {p : Phase} (h : p.isTerminal = true) (q : Phase) :
    p.canAdvance q = false := by
  cases p <;> simp [isTerminal] at h <;> cases q <;> rfl

end Phase

end Fleet
