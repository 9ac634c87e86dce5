import ProbeBench.Decimal.Reading
import ProbeBench.Decimal.Written

/-!
# Whole numbers read back

`digitsOf` writes a natural number in digits, with no zero at the front but the one of zero itself,
and the readers of whole numbers give the number back.

* `digitsValue_digitsOf`: the digits spell the number.
* `eq_zero_of_digitsOf`: only zero is written with a zero at the front.
* `length_digitsOf_le`: a number that may be written has at most `maxDigits` digits.
* `readInt?_digitsOf`: the reader of header fields gives the number back.
-/

namespace ProbeBench.Decimal

theorem isDigit_of_mem_digitsOf {n : Nat} {c : Char} (h : c ∈ digitsOf n) : isDigit c = true := by
  have hd := Nat.isDigit_of_mem_toDigits (by decide) (by decide) h
  simpa [isDigit, Char.isDigit, Char.le_def] using hd

theorem digitsOf_ne_nil (n : Nat) : digitsOf n ≠ [] :=
  Nat.toDigits_ne_nil

theorem digitsOf_of_lt {n : Nat} (h : n < 10) : digitsOf n = [n.digitChar] :=
  Nat.toDigits_of_lt_base h

theorem digitsOf_of_le {n : Nat} (h : 10 ≤ n) :
    digitsOf n = digitsOf (n / 10) ++ [(n % 10).digitChar] :=
  Nat.toDigits_of_base_le (by decide) h

/-- **The digits of a number spell it.** -/
theorem digitsValue_digitsOf (n : Nat) : digitsValue (digitsOf n) = n := by
  induction n using Nat.strongRecOn with
  | ind n ih =>
    rcases Nat.lt_or_ge n 10 with one | more
    · rw [digitsOf_of_lt one]
      have := Nat.toNat_digitChar_sub_48_of_lt_ten one
      simpa [digitsValue] using this
    · have front := ih (n / 10) (by omega)
      have last := Nat.toNat_digitChar_sub_48_of_lt_ten (n := n % 10) (by omega)
      unfold digitsValue at front ⊢
      rw [digitsOf_of_le more, List.foldl_append, front]
      simp only [List.foldl_cons, List.foldl_nil, last]
      omega

/-- The first digit is a zero only if there is no other. -/
theorem eq_zero_of_digitsOf {n : Nat} {rest : List Char} (h : digitsOf n = '0' :: rest) :
    n = 0 := by
  induction n using Nat.strongRecOn generalizing rest with
  | ind n ih =>
    rcases Nat.lt_or_ge n 10 with one | more
    · rw [digitsOf_of_lt one] at h
      exact Nat.digitChar_eq_zero.mp (List.cons.inj h).1
    · rw [digitsOf_of_le more] at h
      cases hf : digitsOf (n / 10) with
      | nil => exact absurd hf (digitsOf_ne_nil _)
      | cons d front =>
        rw [hf, List.cons_append] at h
        rw [(List.cons.inj h).1] at hf
        have := ih (n / 10) (by omega) hf
        omega

theorem length_digitsOf_le {n : Nat} (h : isWritable n = true) :
    (digitsOf n).length ≤ maxDigits := by
  rw [isWritable, decide_eq_true_eq, Int.natAbs_natCast, Nat.pow_eq] at h
  exact (Nat.length_toDigits_le_iff (by decide) (by decide)).mpr h

/-- A run of digits is read whole. -/
theorem grouped?_of_digits {ds : List Char} (ne : ds ≠ []) (h : ∀ c ∈ ds, isDigit c = true) :
    grouped? ds = some ds := by
  induction ds with
  | nil => exact absurd rfl ne
  | cons c rest ih =>
    have hc := h c List.mem_cons_self
    cases rest with
    | nil => simp [grouped?, hc]
    | cons d more =>
      have hd := h d (List.mem_cons_of_mem c List.mem_cons_self)
      have : d ≠ '_' := by
        rintro rfl
        cases hd
      rw [grouped?, if_pos hc, ih (by simp) fun e he => h e (List.mem_cons_of_mem c he)]
      · rfl
      · simp
      · intro more e
        exact this (List.cons.inj e).1

theorem takeSign_of_digits {ds : List Char} (h : ∀ c ∈ ds, isDigit c = true) :
    takeSign ds = (false, ds) := by
  cases ds with
  | nil => rfl
  | cons c rest =>
    have hc := h c List.mem_cons_self
    unfold takeSign
    split
    · rename_i e
      cases e
      cases hc
    · rename_i e
      cases e
      cases hc
    · rfl

/-- **A written number reads back**, if it has no more digits than may be read. -/
theorem readInt?_digitsOf {n : Nat} (h : (digitsOf n).length ≤ maxDigits) :
    readInt? (digitsOf n) = some (n : Int) := by
  have digits := fun c (hc : c ∈ digitsOf n) => isDigit_of_mem_digitsOf hc
  unfold readInt?
  rw [takeSign_of_digits digits]
  simp only
  rw [grouped?_of_digits (digitsOf_ne_nil n) digits, Option.bind_some, if_neg (by omega),
    digitsValue_digitsOf]
  rfl

end ProbeBench.Decimal
