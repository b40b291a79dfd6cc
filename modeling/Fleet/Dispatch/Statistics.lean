import Fleet.Record

/-!
# Statistics of a run

How long it took to reach the hosts and how long their commands ran: the least, the mean and the
greatest time, in seconds with three places. A time is a binary fraction by then, and it is the
exact value of that fraction that is rounded.
-/

namespace Fleet

namespace Statistics

/-- A quotient rounded to the nearest whole number, a half to the even one. -/
def roundDiv (n d : Nat) : Nat :=
  let twice := 2 * (n % d)
  let down := n / d
  if twice < d || (twice == d && down % 2 == 0) then down else down + 1

/-- The value of a number that is not negative, in thousandths, rounded. The number is a whole
number of steps of a power of two. -/
def thousandths (x : Float) : Nat :=
  let bits := x.toBits.toNat
  let exponent := bits / Nat.pow 2 52 % 2048
  let fraction := bits % Nat.pow 2 52
  let steps := if exponent = 0 then fraction else fraction + Nat.pow 2 52
  let scale := max exponent 1
  if 1075 ≤ scale then 1000 * steps * Nat.pow 2 (scale - 1075)
  else roundDiv (1000 * steps) (Nat.pow 2 (1075 - scale))

/-- Seconds with three places. -/
def showSeconds (time : Time) : String :=
  let whole := Float.ofNat (time / Time.second)
  let part := Float.ofNat (time % Time.second) / Float.ofNat Time.second
  let n := thousandths (whole + part)
  let digits := toString (n % 1000)
  toString (n / 1000) ++ "." ++ String.ofList (List.replicate (3 - digits.length) '0') ++ digits

/-- One line of statistics; none if there are no times. -/
def line? (name : String) (times : List Time) : Option String :=
  match times with
  | [] => none
  | time :: rest =>
    let mean := times.foldl (· + ·) 0 / times.length
    some (name ++ " time: min " ++ showSeconds (rest.foldl min time) ++ "s, avg "
      ++ showSeconds mean ++ "s, max " ++ showSeconds (rest.foldl max time) ++ "s")

/-- The statistics of a run. -/
def lines (records : List Record) : List String :=
  (line? "connect" (records.filterMap Record.connectDuration)).toList
    ++ (line? "command" (records.filterMap Record.executeDuration)).toList

end Statistics

end Fleet
