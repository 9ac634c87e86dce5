/-!
# Blank characters

The characters that Unicode counts as white space or as separators of paragraphs, segments and
lines: the blanks of a text that people wrote in any script. It is wider than the blanks of
ASCII, which `isBlank_of_isWhitespace` places in it.
-/

namespace ProbeBench.Text

/-- The code points of blank characters, as inclusive ranges in increasing order. -/
def blankRanges : List (Nat × Nat) :=
  [(0x09, 0x0d), (0x1c, 0x20), (0x85, 0x85), (0xa0, 0xa0), (0x1680, 0x1680), (0x2000, 0x200a),
    (0x2028, 0x2029), (0x202f, 0x202f), (0x205f, 0x205f), (0x3000, 0x3000)]

/-- Whether `c` is a blank of any script. -/
def isBlank (c : Char) : Bool :=
  blankRanges.any fun r => r.1 ≤ c.toNat && c.toNat ≤ r.2

/-- Whether `c` is a control character that separates files, groups, records or units. -/
def isSeparator (c : Char) : Bool := 0x1c ≤ c.toNat && c.toNat ≤ 0x1f

/-- Whether `c` is white space: a blank that is no separator. -/
def isWhiteSpace (c : Char) : Bool := isBlank c && !isSeparator c

theorem isBlank_of_isWhitespace {c : Char} (h : c.isWhitespace = true) : isBlank c = true := by
  simp only [Char.isWhitespace, Bool.or_eq_true, decide_eq_true_eq] at h
  rcases h with ((rfl | rfl) | rfl) | rfl <;> decide

end ProbeBench.Text
