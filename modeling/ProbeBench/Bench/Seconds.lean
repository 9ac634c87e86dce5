import ProbeBench.Bench.Measurement

/-!
# Seconds

What a clock shows: a number of seconds, whole or not. The time between two whole readings is whole
and exact, however large they are; with a reading among them that is not whole it is a double, and
a whole reading beyond all doubles then has no difference to it.

* `since_self`: from a whole reading to itself no time passes.
-/

namespace ProbeBench

/-- A number of seconds. -/
inductive Seconds where
  | whole (n : Int)
  | real (x : Float)

namespace Seconds

/-- The nearest double. -/
def toDouble : Seconds → Except Failure Float
  | .whole n => (Decimal.double? n).elim (.error .tooLarge) .ok
  | .real x => .ok x

/-- The time from one reading to another. -/
def since : (ended started : Seconds) → Except Failure Seconds
  | .whole m, .whole n => .ok (.whole (m - n))
  | ended, started => return .real ((← ended.toDouble) - (← started.toDouble))

/-- In milliseconds. -/
def milliseconds : Seconds → Milliseconds
  | .whole n => .whole (n * 1000)
  | .real x => .real (x * 1000.0)

/-- In milliseconds, as a double. -/
def toMilliseconds (s : Seconds) : Except Failure Float := do
  return (← s.toDouble) * 1000.0

theorem since_self (n : Int) : (whole n).since (whole n) = .ok (whole 0) := by
  simp [since]

end Seconds

end ProbeBench
