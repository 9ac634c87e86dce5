import ProbeBench.Json.Parser
import ProbeBench.Json.Printer
import ProbeBench.Proofs.Decimal.Whole

/-!
# Strings, numbers and words read back

The scanners give back what `stringText` and `intText` have written, and the rest behind it. A
string ends with its quote, so anything may follow it; a whole number ends where it cannot go on,
so what follows must not continue a number (`EndsNumber`).

* `scanString_charText`: one character of a string, escaped or not.
* `scanString_stringText`: the content of a string.
* `scanNumber_intText`: a whole number with its sign.
* `scanScalar_intText`, `scanScalar_bool`, `scanScalar_null`: whole numbers and constants as values.
-/

namespace ProbeBench.Json

/-! ## Strings -/

/-- Four digits that give no half of a pair stand for one character, whatever comes behind them. -/
theorem scanString_unit (opened : List Char) {a b c d : Char} {unit : Nat}
    (h : Text.hexValueOf? [a, b, c, d] = some unit) (whole : unit < 0xd800) {rest : List Char}
    (ne : rest ≠ []) :
    scanString opened ('\\' :: 'u' :: a :: b :: c :: d :: rest) =
      (scanString opened rest).map fun r => (Char.ofNat unit :: r.1, r.2) := by
  have hs : single unit = Char.ofNat unit := if_neg (by omega)
  have hu : ¬ (0xd800 ≤ unit ∧ unit < 0xdc00) := by omega
  obtain ⟨e, more, rfl⟩ := List.exists_cons_of_ne_nil ne
  rw [scanString.eq_def]
  split
  case h_4 he =>
    cases he
    simp only [h, hs, if_neg hu]
  case h_5 he =>
    cases he
    simp only [h, hs]
  case h_6 no he =>
    cases he
    exact absurd rfl (no _ _ _ _ _ _)
  case h_7 no he =>
    cases he
    exact absurd rfl no
  case h_8 no he =>
    cases he
    exact (no _ _ rfl rfl).elim
  all_goals simp_all

/-- A character with an escape letter of its own. -/
theorem scanString_letter (opened : List Char) {letter c : Char} (h : escaped? letter = some c)
    (rest : List Char) :
    scanString opened ('\\' :: letter :: rest) =
      (scanString opened rest).map fun r => (c :: r.1, r.2) := by
  have hu : letter ≠ 'u' := by
    rintro rfl
    cases h
  rw [scanString, h]
  all_goals simp [hu]

/-- A character that needs no escape. -/
theorem scanString_plain (opened : List Char) {c : Char} (quote : c ≠ '"') (slash : c ≠ '\\')
    (visible : ¬ c.toNat < 0x20) (rest : List Char) :
    scanString opened (c :: rest) = (scanString opened rest).map fun r => (c :: r.1, r.2) := by
  rw [scanString, if_neg visible]
  all_goals simp [quote, slash]

theorem hexValueOf?_hexDigits :
    ∀ n, n < 0x20 → Text.hexValueOf? (Text.hexDigits false 4 n) = some n := by
  decide

/-- **A character of a string reads back**, with an escape or without. -/
theorem scanString_charText (opened : List Char) (c : Char) {rest : List Char} (ne : rest ≠ []) :
    scanString opened (charText c ++ rest) =
      (scanString opened rest).map fun r => (c :: r.1, r.2) := by
  by_cases short : c = '"' ∨ c = '\\' ∨ c = '\n' ∨ c = '\r' ∨ c = '\t' ∨ c = '\x08' ∨ c = '\x0c'
  · rcases short with rfl | rfl | rfl | rfl | rfl | rfl | rfl <;>
      exact scanString_letter opened rfl rest
  · simp only [not_or] at short
    unfold charText
    simp only [short, if_false]
    split
    · rename_i control
      have hv := hexValueOf?_hexDigits c.toNat control
      have e := scanString_unit opened hv (by omega) ne
      rw [Char.ofNat_toNat] at e
      exact e
    · rename_i visible
      exact scanString_plain opened short.1 short.2.1 visible rest

/-- **The content of a string reads back** up to its closing quote. -/
theorem scanString_flatMap (opened cs rest : List Char) :
    scanString opened (cs.flatMap charText ++ '"' :: rest) = .ok (cs, rest) := by
  induction cs with
  | nil => rfl
  | cons c cs ih =>
    rw [List.flatMap_cons, List.append_assoc, scanString_charText opened c (by simp), ih]
    rfl

/-- A written string has an opening quote, and the rest of it reads back. -/
theorem scanString_stringText (s : String) (rest : List Char) :
    ∃ content, stringText s ++ rest = '"' :: content ∧
      ∀ opened, scanString opened content = .ok (s.toList, rest) := by
  refine ⟨s.toList.flatMap charText ++ '"' :: rest, ?_, fun opened => scanString_flatMap ..⟩
  simp [stringText]

/-! ## Whole numbers -/

/-- The text does not go on as a number. -/
def EndsNumber (cs : List Char) : Prop :=
  ∀ c ∈ cs.head?, Decimal.isDigit c = false ∧ c ≠ '.' ∧ c ≠ 'e' ∧ c ≠ 'E'

theorem endsNumber_nil : EndsNumber [] := by
  intro c h
  cases h

theorem endsNumber_cons {c : Char} {rest : List Char}
    (h : Decimal.isDigit c = false ∧ c ≠ '.' ∧ c ≠ 'e' ∧ c ≠ 'E') : EndsNumber (c :: rest) := by
  intro d hd
  cases hd
  exact h

theorem EndsNumber.takeWhile {ds rest : List Char} (h : EndsNumber rest)
    (digits : ∀ c ∈ ds, Decimal.isDigit c = true) :
    (ds ++ rest).takeWhile Decimal.isDigit = ds ∧
      (ds ++ rest).dropWhile Decimal.isDigit = rest := by
  rw [List.takeWhile_append_of_pos digits, List.dropWhile_append_of_pos digits]
  cases rest with
  | nil => simp
  | cons c rest =>
    have hc := (h c rfl).1
    simp [hc]

theorem EndsNumber.scanFraction {rest : List Char} (h : EndsNumber rest) :
    scanFraction rest = none := by
  unfold Json.scanFraction
  split
  · exact absurd rfl (h _ rfl).2.1
  · rfl

theorem EndsNumber.scanExponent {rest : List Char} (h : EndsNumber rest) :
    scanExponent rest = none := by
  cases rest with
  | nil => rfl
  | cons c rest =>
    have hc := (h c rfl).2.2
    exact if_neg fun e => e.elim hc.1 hc.2

/-- Digits read back up to where they end. -/
theorem scanWhole_digitsOf (n : Nat) {rest : List Char} (h : EndsNumber rest) :
    scanWhole (Decimal.digitsOf n ++ rest) = some (Decimal.digitsOf n, rest) := by
  have digits := fun c (hc : c ∈ Decimal.digitsOf n) => Decimal.isDigit_of_mem_digitsOf hc
  cases hd : Decimal.digitsOf n with
  | nil => exact absurd hd (Decimal.digitsOf_ne_nil n)
  | cons d ds =>
    rw [hd] at digits
    by_cases zero : d = '0'
    · subst zero
      have hn := Decimal.eq_zero_of_digitsOf hd
      subst hn
      have := Decimal.digitsOf_of_lt (show 0 < 10 by decide)
      rw [hd] at this
      cases this
      rfl
    · have tail := h.takeWhile fun c hc => digits c (List.mem_cons_of_mem d hc)
      rw [List.cons_append, scanWhole, if_pos (digits d List.mem_cons_self), tail.1, tail.2]
      exact zero

theorem intText_of_not_neg {n : Int} (h : ¬ n < 0) :
    intText n = Decimal.digitsOf n.natAbs :=
  if_neg h

/-- A number without a sign begins with a digit. -/
theorem digitsOf_eq_cons (n : Nat) : ∃ d ds, Decimal.digitsOf n = d :: ds ∧ Decimal.isDigit d := by
  obtain ⟨d, ds, h⟩ := List.exists_cons_of_ne_nil (Decimal.digitsOf_ne_nil n)
  refine ⟨d, ds, h, Decimal.isDigit_of_mem_digitsOf (n := n) ?_⟩
  rw [h]
  exact List.mem_cons_self

/-- **A whole number reads back**, sign and digits, up to where it ends. -/
theorem scanNumber_intText {n : Int}
    (few : (Decimal.digitsOf n.natAbs).length ≤ Decimal.maxDigits) {rest : List Char}
    (h : EndsNumber rest) : scanNumber (intText n ++ rest) = .ok (some (.int n, rest)) := by
  have whole := scanWhole_digitsOf n.natAbs h
  have long := Nat.not_lt.mpr few
  by_cases negative : n < 0
  · have e : -(n.natAbs : Int) = n := by omega
    rw [intText, if_pos negative, List.cons_append, scanNumber]
    simp only [whole, h.scanFraction, h.scanExponent, Option.map_none, Option.getD_none,
      Option.isNone_none, and_self, if_true, if_neg long, Decimal.digitsValue_digitsOf, e]
  · have e : (n.natAbs : Int) = n := by omega
    obtain ⟨d, ds, hd, digit⟩ := digitsOf_eq_cons n.natAbs
    have unsigned : d ≠ '-' := by
      rintro rfl
      cases digit
    rw [intText_of_not_neg negative]
    unfold scanNumber
    split
    rename_i sign body hs
    split at hs
    · rename_i he
      rw [hd] at he
      exact absurd (List.cons.inj he).1 unsigned
    · cases hs
      simp only [whole, h.scanFraction, h.scanExponent, Option.map_none, Option.getD_none,
        Option.isNone_none, and_self, if_true, if_neg long, Decimal.digitsValue_digitsOf, e]
      rfl

/-! ## Scalars -/

/-- The constants begin with a letter or with a minus and a letter, so they are no whole number. -/
theorem scanScalar_of_not_constant {cs : List Char} {r : Json × List Char}
    (h : scanNumber cs = .ok (some r))
    (other : ∀ w ∈ ["null", "true", "false", "NaN", "Infinity", "-Infinity"], after? w cs = none) :
    scanScalar cs = .ok r := by
  unfold scanScalar
  simp only [List.mem_cons, List.not_mem_nil, or_false, forall_eq_or_imp, forall_eq] at other
  simp [other, h]

/-- **A whole number reads back as a value.** -/
theorem scanScalar_intText {n : Int}
    (few : (Decimal.digitsOf n.natAbs).length ≤ Decimal.maxDigits) {rest : List Char}
    (h : EndsNumber rest) : scanScalar (intText n ++ rest) = .ok (.int n, rest) := by
  refine scanScalar_of_not_constant (scanNumber_intText few h) ?_
  obtain ⟨d, ds, hd, digit⟩ := digitsOf_eq_cons n.natAbs
  have no : 'n' ≠ d ∧ 't' ≠ d ∧ 'f' ≠ d ∧ 'N' ≠ d ∧ 'I' ≠ d ∧ '-' ≠ d := by
    refine ⟨?_, ?_, ?_, ?_, ?_, ?_⟩ <;>
      · rintro rfl
        cases digit
  unfold intText
  split <;> simp [after?, hd, no]

theorem scanScalar_null (rest : List Char) :
    scanScalar ("null".toList ++ rest) = .ok (.null, rest) := by
  simp [scanScalar, after?]

theorem scanScalar_bool (b : Bool) (rest : List Char) :
    scanScalar ((if b then "true".toList else "false".toList) ++ rest) = .ok (.bool b, rest) := by
  cases b <;> simp [scanScalar, after?]

end ProbeBench.Json
