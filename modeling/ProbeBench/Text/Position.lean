/-!
# Signed positions

A position in a sequence may be written from either end: `0` is the first item, `-1` the last.
`offset?` resolves such a position, and `slice` cuts a sequence at two of them, moving each into
the sequence first, so that a cut never fails.

* `offset?_lt`: a position that resolves names an item.
* `slice_nat`: on positions counted from the start, `slice` is `drop` after `take`.
-/

namespace ProbeBench.Text

/-- The offset that position `i` names among `n` items. -/
def offset? (n : Nat) (i : Int) : Option Nat :=
  if 0 ≤ i then
    if i.toNat < n then some i.toNat else none
  else if 0 ≤ i + n then some (i + n).toNat
  else none

/-- The item at position `i`. -/
def item? {α : Type} (xs : List α) (i : Int) : Option α :=
  (offset? xs.length i).bind fun k => xs[k]?

/-- Position `i` as an offset between `0` and `n`. -/
def clamp (n : Nat) (i : Int) : Nat :=
  if 0 ≤ i then min i.toNat n else (i + n).toNat

/-- The items from position `start` up to but not at position `stop`. -/
def slice {α : Type} (xs : List α) (start stop : Int) : List α :=
  (xs.take (clamp xs.length stop)).drop (clamp xs.length start)

/-- The items before position `stop`. -/
def upTo {α : Type} (xs : List α) (stop : Int) : List α :=
  xs.take (clamp xs.length stop)

/-- The items from position `start` on. -/
def fromOn {α : Type} (xs : List α) (start : Int) : List α :=
  xs.drop (clamp xs.length start)

theorem offset?_lt {n k : Nat} {i : Int} (h : offset? n i = some k) : k < n := by
  unfold offset? at h
  split at h
  · split at h
    · cases h; assumption
    · cases h
  · split at h
    · cases h; omega
    · cases h

theorem clamp_natCast (n k : Nat) : clamp n (k : Int) = min k n := by
  simp [clamp]

theorem slice_nat {α : Type} (xs : List α) (a b : Nat) :
    slice xs (a : Int) (b : Int) = (xs.take b).drop a := by
  simp only [slice, clamp_natCast]
  rw [← List.take_eq_take_min]
  by_cases h : a ≤ xs.length
  · rw [Nat.min_eq_left h]
  · rw [Nat.min_eq_right (by omega), List.drop_eq_nil_of_le, List.drop_eq_nil_of_le]
    · rw [List.length_take]
      omega
    · rw [List.length_take]
      omega

theorem item?_natCast {α : Type} (xs : List α) (k : Nat) : item? xs (k : Int) = xs[k]? := by
  by_cases h : k < xs.length
  · simp [item?, offset?, h]
  · simp [item?, offset?, h]

end ProbeBench.Text
