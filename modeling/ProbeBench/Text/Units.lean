/-!
# Lengths in 16-bit units

Positions in the protocol count 16-bit code units: a character beyond the first 65536 takes two of
them, every other one takes one.
-/

namespace ProbeBench.Text

/-- The 16-bit units of one character. -/
def unitsOf (c : Char) : Nat :=
  if c.toNat < 0x10000 then 1 else 2

/-- The 16-bit units of a text. -/
def units : List Char → Nat
  | [] => 0
  | c :: rest => unitsOf c + units rest

@[simp] theorem units_nil : units [] = 0 := rfl

@[simp] theorem units_cons (c : Char) (cs : List Char) :
    units (c :: cs) = unitsOf c + units cs := rfl

theorem units_append (a b : List Char) : units (a ++ b) = units a + units b := by
  induction a with
  | nil => simp
  | cons c rest ih => rw [List.cons_append, units_cons, units_cons, ih, Nat.add_assoc]

theorem unitsOf_pos (c : Char) : 0 < unitsOf c := by
  unfold unitsOf; split <;> decide

end ProbeBench.Text
