/-!
# The console

All hosts share one console with two streams. A line is written whole, with its label and its
newline, or not at all; that is why lines of different hosts never mix. The console keeps what was
written, with the time and in order. A stream may stop taking lines after a number of them.

Times are counts of nanoseconds since the run began.
-/

namespace Fleet

/-- A moment, in nanoseconds since the run began, or a span of that length. -/
abbrev Time := Nat

namespace Time

/-- One millisecond. -/
def millisecond : Time := 1000000

/-- One second. -/
def second : Time := 1000000000

end Time

/-- The two streams of the console. -/
inductive Stream where
  | out
  | err
  deriving Repr, DecidableEq

/-- One line on the console. -/
structure Written where
  /-- When it was written. -/
  time : Time
  stream : Stream
  /-- What, the newline included. -/
  text : String
  deriving Repr, DecidableEq

/-- The console of a run. -/
structure Console where
  /-- All lines so far, in order. -/
  lines : List Written := []
  /-- How many more lines the first stream takes, where there is a limit. -/
  outRoom : Option Nat := none
  /-- How many more lines the second stream takes, where there is a limit. -/
  errRoom : Option Nat := none
  deriving Repr, DecidableEq

namespace Console

/-- How many more lines a stream takes. -/
def room (console : Console) : Stream → Option Nat
  | .out => console.outRoom
  | .err => console.errRoom

/-- The console with one line less room on a stream. -/
def spend (console : Console) : Stream → Console
  | .out => { console with outRoom := console.outRoom.map (· - 1) }
  | .err => { console with errRoom := console.errRoom.map (· - 1) }

/-- A line as it is written: the label, where there is one, and the newline belong to it. -/
def format (label : Option String) (line : String) : String :=
  match label with
  | some label => label ++ ": " ++ line ++ "\n"
  | none => line ++ "\n"

/-- Writes a line as one unit; none when the stream takes no more. -/
def write? (console : Console) (now : Time) (stream : Stream) (label : Option String)
    (line : String) : Option Console :=
  if console.room stream = some 0 then none
  else some { console.spend stream with
    lines := console.lines ++ [⟨now, stream, format label line⟩] }

/-- Writes a line of our own to the second stream. That it could not be written is ignored. -/
def diagnostic (console : Console) (now : Time) (line : String) : Console :=
  (console.write? now .err none line).getD console

/-! ### What was written stays -/

section Lines

variable {console console' : Console} {now : Time} {stream : Stream} {label : Option String}
  {line : String}

/-- A line is written where there is room, after all others. -/
theorem write?_eq_some (written : console.write? now stream label line = some console') :
    console.room stream ≠ some 0 ∧
      console'.lines = console.lines ++ [⟨now, stream, format label line⟩] := by
  unfold write? at written
  split at written
  · cases written
  · next room => cases written; exact ⟨room, rfl⟩

theorem diagnostic_lines (room : console.room .err ≠ some 0) :
    (console.diagnostic now line).lines = console.lines ++ [⟨now, .err, line ++ "\n"⟩] := by
  rw [diagnostic, write?, if_neg room]
  rfl

theorem diagnostic_grows (console : Console) (now : Time) (line : String) :
    console.lines <+: (console.diagnostic now line).lines := by
  unfold diagnostic
  cases written : console.write? now .err none line with
  | none => exact List.prefix_rfl
  | some console' =>
    rw [Option.getD_some, (write?_eq_some written).2]
    exact List.prefix_append ..

end Lines

end Console

end Fleet
