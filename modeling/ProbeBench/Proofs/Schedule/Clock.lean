import ProbeBench.Proofs.Schedule

/-!
# The clock

Times are doubles that are numbers not below zero (`IsTime`). A sum of times is one, even though it
is rounded, and numbers compare as their signs, exponents and mantissas do.

A server that answers at once is heard before any limit runs out, as long as the clock stands where
it began: what is scheduled for now is due, a limit that is not over at once does not run out before
now, and a deadline that is not due comes later than now.

* `compare_eq`: doubles compare as their ranks do.
* `IsTime.add`, `comparable`, `isDueAt_of_not_lt`: times.
* `isDueAt_zero`, `not_limit_lt`, `lt_of_not_isDueAt`: while no time passes.
-/

namespace ProbeBench

open Float.Model Float.Model.UnpackedFloat

theorem unpack_zero : (0.0 : Float).toModel.unpack = .zero .positive := by rfl

theorem unpack_nought : (0 : Float).toModel.unpack = .zero .positive := by rfl

theorem lt_iff (x y : Float) : x < y ↔ x.toModel.unpack.compare y.toModel.unpack = some .lt := by
  show (decide _) = true ↔ _
  rw [decide_eq_true_iff]
  show UnpackedFloat.lt _ _ = true ↔ _
  simp [UnpackedFloat.lt]

theorem le_iff (x y : Float) :
    x ≤ y ↔ (x.toModel.unpack.compare y.toModel.unpack).any (·.isLE) = true := by
  show (decide _) = true ↔ _
  rw [decide_eq_true_iff]
  rfl

/-! ## The order of numbers -/

/-- What decides where a number stands among others: its sign and kind, then its exponent, then its
mantissa. -/
def rank : UnpackedFloat → Int × Int × Int
  | .infinity .negative => (-2, 0, 0)
  | .finite .negative m e _ => (-1, -e, -m)
  | .finite .positive m e _ => (1, e, m)
  | .infinity .positive => (2, 0, 0)
  | .zero _ | .notANumber => (0, 0, 0)

/-- The order of ranks. -/
def compareRanks (a b : Int × Int × Int) : Ordering :=
  (compare a.1 b.1).then ((compare a.2.1 b.2.1).then (compare a.2.2 b.2.2))

theorem compare_natCast (m m' : Nat) : compare (m : Int) m' = compare m m' := by
  simp only [compare, compareOfLessAndEq, Int.ofNat_lt, Int.ofNat_inj]

theorem compare_neg_neg (a b : Int) : compare (-a) (-b) = (compare a b).swap := by
  rw [Int.compare_swap]
  simp only [compare, compareOfLessAndEq, Int.neg_lt_neg_iff, Int.neg_inj, @eq_comm Int b a]

/-- Numbers compare as their ranks do. -/
theorem compare_eq {u v : UnpackedFloat} (hu : u ≠ .notANumber) (hv : v ≠ .notANumber) :
    u.compare v = some (compareRanks (rank u) (rank v)) := by
  cases u with
  | notANumber => exact absurd rfl hu
  | infinity s =>
    cases v with
    | notANumber => exact absurd rfl hv
    | infinity s' => cases s <;> cases s' <;> rfl
    | zero s' => cases s <;> rfl
    | finite s' m e pos => cases s <;> cases s' <;> rfl
  | zero s =>
    cases v with
    | notANumber => exact absurd rfl hv
    | infinity s' => cases s' <;> rfl
    | zero s' => rfl
    | finite s' m e pos => cases s' <;> rfl
  | finite s m e pos =>
    cases v with
    | notANumber => exact absurd rfl hv
    | infinity s' => cases s <;> cases s' <;> rfl
    | zero s' => cases s <;> rfl
    | finite s' m' e' pos' =>
      have same : compareRanks (1, e, m) (1, e', m') = (compare e e').then (compare m m') := by
        rw [← compare_natCast]
        rfl
      have reversed : compareRanks (-1, -e, -m) (-1, -e', -m') =
          ((compare e e').then (compare m m')).swap := by
        rw [← compare_natCast, Ordering.swap_then, ← compare_neg_neg, ← compare_neg_neg]
        rfl
      cases s <;> cases s'
      · exact congrArg some reversed.symm
      · rfl
      · rfl
      · exact congrArg some same.symm

theorem compareRanks_eq_lt {a b : Int × Int × Int} :
    compareRanks a b = .lt ↔
      a.1 < b.1 ∨ a.1 = b.1 ∧ (a.2.1 < b.2.1 ∨ a.2.1 = b.2.1 ∧ a.2.2 < b.2.2) := by
  unfold compareRanks
  rw [Ordering.then_eq_lt, Ordering.then_eq_lt, Int.compare_eq_lt, Int.compare_eq_eq,
    Int.compare_eq_lt, Int.compare_eq_eq, Int.compare_eq_lt]

theorem compareRanks_swap (a b : Int × Int × Int) :
    (compareRanks a b).swap = compareRanks b a := by
  unfold compareRanks
  rw [Ordering.swap_then, Ordering.swap_then, Int.compare_swap, Int.compare_swap,
    Int.compare_swap]

theorem isLE_compareRanks {a b : Int × Int × Int} :
    (compareRanks a b).isLE = true ↔ ¬ compareRanks b a = .lt := by
  rw [← compareRanks_swap a b]
  cases compareRanks a b <;> decide

theorem ne_of_compare {u v : UnpackedFloat} {o : Ordering} (h : u.compare v = some o) :
    u ≠ .notANumber ∧ v ≠ .notANumber := by
  constructor
  · rintro rfl
    cases h
  · rintro rfl
    cases u <;> cases h

theorem le_of_not_before {x y : Float} (hx : x.toModel.unpack ≠ .notANumber)
    (hy : y.toModel.unpack ≠ .notANumber) (h : ¬ x < y) : y ≤ x := by
  rw [lt_iff, compare_eq hx hy] at h
  rw [le_iff, compare_eq hy hx]
  exact isLE_compareRanks.mpr fun e => h (congrArg some e)

theorem not_before_of_le {x y : Float} (h : x ≤ y) : ¬ y < x := by
  intro below
  rw [lt_iff] at below
  obtain ⟨hy, hx⟩ := ne_of_compare below
  rw [le_iff, compare_eq hx hy] at h
  rw [compare_eq hy hx] at below
  exact isLE_compareRanks.mp h (Option.some.inj below)

theorem numbers_of_le {x y : Float} (h : x ≤ y) :
    x.toModel.unpack ≠ .notANumber ∧ y.toModel.unpack ≠ .notANumber := by
  obtain ⟨o, compared, -⟩ := (Option.any_eq_true _ _).mp ((le_iff x y).mp h)
  exact ne_of_compare compared

theorem le_of_before {x y : Float} (h : x < y) : x ≤ y := by
  rw [lt_iff] at h
  rw [le_iff, h]
  rfl

theorem not_lt_of_lt {x y : Float} (h : x < y) : ¬ y < x := not_before_of_le (le_of_before h)

/-- Nothing comes before itself. -/
theorem not_lt_self (x : Float) : ¬ x < x := fun h => not_lt_of_lt h h

/-- What comes before another double comes before any number, or that comes before the other. -/
theorem lt_or_lt_of_lt {x y z : Float} (number : y.toModel.unpack ≠ .notANumber) (h : x < z) :
    x < y ∨ y < z := by
  rw [lt_iff] at h
  obtain ⟨hx, hz⟩ := ne_of_compare h
  rw [compare_eq hx hz, Option.some_inj, compareRanks_eq_lt] at h
  rw [lt_iff, lt_iff, compare_eq hx number, compare_eq number hz, Option.some_inj,
    Option.some_inj, compareRanks_eq_lt, compareRanks_eq_lt]
  omega

/-! ## Times -/

/-- What holds of both sides of a choice holds of the choice. -/
theorem holds_dite {α : Type} {P : α → Prop} {p : Prop} [Decidable p] {u : p → α} {v : ¬ p → α}
    (hu : ∀ h, P (u h)) (hv : ∀ h, P (v h)) : P (if h : p then u h else v h) := by
  split
  · exact hu _
  · exact hv _

theorem ofBitVec_unpackSign (s : Sign) (e : BitVec 11) (m : BitVec 52) :
    Sign.ofBitVec (unpackSign (packComponents .binary64 s e m)) = s := by
  unfold unpackSign packComponents BitVec.extractLsb
  rw [BitVec.extractLsb'_append_eq_of_le (by decide),
    BitVec.extractLsb'_append_eq_of_le (by decide)]
  cases s <;> rfl

/-- A number that is not below zero. -/
inductive IsSpan : UnpackedFloat → Prop
  | zero (s : Sign) : IsSpan (.zero s)
  | finite (m : Nat) (e : Int) (pos : 0 < m) : IsSpan (.finite .positive m e pos)
  | infinity : IsSpan (.infinity .positive)

/-- A time that can be: a number of seconds, not below zero. -/
def IsTime (x : Float) : Prop := 0 ≤ x

theorem isTime_iff {x : Float} : IsTime x ↔ IsSpan x.toModel.unpack := by
  rw [IsTime, le_iff, unpack_nought]
  generalize x.toModel.unpack = u
  constructor
  · intro h
    cases u with
    | notANumber => exact absurd h Bool.false_ne_true
    | zero s => exact .zero s
    | infinity s =>
      cases s with
      | negative => exact absurd h Bool.false_ne_true
      | positive => exact .infinity
    | finite s m e pos =>
      cases s with
      | negative => exact absurd h Bool.false_ne_true
      | positive => exact .finite m e pos
  · rintro (_ | _ | _) <;> rfl

theorem isSpan_unpack {e : BitVec 11} {m : BitVec 52} (number : e = -1#11 → m = 0#52) :
    IsSpan (UnpackedFloat.unpack .binary64 (packComponents .binary64 .positive e m)) := by
  unfold UnpackedFloat.unpack
  dsimp only
  rw [ofBitVec_unpackSign]
  refine iteInduction (fun most => ?_) fun _ => iteInduction (fun _ => ?_) fun _ => .finite _ _ _
  · rw [unpackExponent_packComponents] at most
    refine iteInduction (fun _ => .infinity) fun filled => ?_
    rw [unpackMantissa_packComponents] at filled
    exact absurd (number most) filled
  · exact holds_dite (fun _ => .zero _) fun _ => .finite _ _ _

/-- What is written and read again is still not below zero. -/
theorem IsSpan.packed {u : UnpackedFloat} (h : IsSpan u) :
    IsSpan (UnpackedFloat.unpack .binary64 (UnpackedFloat.pack .binary64 u)) := by
  cases h with
  | zero s => cases s <;> exact .zero _
  | infinity => exact isSpan_unpack fun _ => rfl
  | finite m e pos =>
    unfold UnpackedFloat.pack
    dsimp only
    split
    · exact isSpan_unpack fun _ => rfl
    · rename_i small
      split
      · refine isSpan_unpack fun most => ?_
        have := congrArg BitVec.toNat most
        simp at this
        omega
      · exact isSpan_unpack fun most => absurd most (by decide)

/-- Not even rounding takes a sum below zero. -/
theorem IsSpan.add {u v : UnpackedFloat} (hu : IsSpan u) (hv : IsSpan v) :
    IsSpan (UnpackedFloat.add .binary64 u v) := by
  cases hu with
  | zero s =>
    cases hv with
    | zero s' => cases s <;> cases s' <;> exact .zero _
    | finite m e pos => exact .finite m e pos
    | infinity => exact .infinity
  | infinity => cases hv <;> exact .infinity
  | finite m e pos =>
    cases hv with
    | zero s => exact .finite m e pos
    | infinity => exact .infinity
    | finite m' e' pos' =>
      have round (m : Nat) (e : Int) : IsSpan (round .binary64 .positive m e) := by
        unfold UnpackedFloat.round UnpackedFloat.roundWithAccuracy
        dsimp only
        exact holds_dite (fun _ => .zero _) fun _ => .finite _ _ _
      unfold UnpackedFloat.add UnpackedFloat.normalize
      dsimp only
      split
      · rename_i below
        rw [Int.compare_eq_lt] at below
        simp only [Sign.apply] at below
        omega
      · exact .zero _
      · exact round _ _

theorem IsTime.add {x y : Float} (hx : IsTime x) (hy : IsTime y) : IsTime (x + y) :=
  isTime_iff.mpr (IsSpan.packed (.add (isTime_iff.mp hx) (isTime_iff.mp hy)))

theorem IsTime.number {x : Float} (h : IsTime x) : x.toModel.unpack ≠ .notANumber := by
  intro e
  have := isTime_iff.mp h
  rw [e] at this
  cases this

/-- **Times can be compared.** -/
theorem comparable : Comparable Float IsTime where
  asymm := not_lt_of_lt
  between time := lt_or_lt_of_lt time.number

/-- A deadline that does not come later than now is due. -/
theorem isDueAt_of_not_lt {now deadline : Float} (hn : IsTime now) (hd : IsTime deadline)
    (h : ¬ now < deadline) : isDueAt now deadline = true := by
  rw [isDueAt, decide_eq_true (le_of_not_before hn.number hd.number h)]
  rfl

/-! ## While no time passes -/

/-- What is scheduled for now is due. -/
theorem isDueAt_zero : isDueAt 0.0 (0.0 + 0.0) = true := by decide

theorem now_eq : (0.0 + 0.0 : Float) = 0 := by rfl

/-- **A limit that is not over at once does not run out before now.** -/
theorem not_limit_lt {x : Float} (h : ¬ x ≤ 0) : ¬ (0.0 + x : Float) < 0.0 + 0.0 := by
  by_cases number : x.toModel.unpack = .notANumber
  · -- then the sum is no number either
    have sum : (0.0 + x : Float).toModel.unpack = .notANumber := by
      show UnpackedFloat.unpack .binary64 (UnpackedFloat.pack .binary64
        (UnpackedFloat.add .binary64 (0.0 : Float).toModel.unpack x.toModel.unpack)) = _
      rw [number]
      rfl
    intro before
    exact (ne_of_compare ((lt_iff _ _).mp before)).1 sum
  · have time : IsTime x :=
      le_of_not_before number (numbers_of_le (show (0 : Float) ≤ 0 by decide)).1
        fun below => h (le_of_before below)
    rw [now_eq]
    exact not_before_of_le (IsTime.add (show (0 : Float) ≤ 0.0 by decide) time)

/-- **What is not due comes later than now.** -/
theorem lt_of_not_isDueAt {d : Float} (h : isDueAt 0.0 d = false) : (0.0 + 0.0 : Float) < d := by
  have later : 0.0 + resolution ≤ d := by
    simp only [isDueAt, Bool.or_eq_false_iff, Bool.not_eq_false', decide_eq_true_eq] at h
    exact h.2
  have soon : (0.0 + 0.0 : Float) < 0.0 + resolution := by decide
  exact (lt_or_lt_of_lt (numbers_of_le later).2 soon).resolve_right (not_before_of_le later)

end ProbeBench
