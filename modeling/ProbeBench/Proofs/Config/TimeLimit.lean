import ProbeBench.Proofs.Config.Accepting
import ProbeBench.Proofs.Decimal.Sign

/-!
# Time limits

A limit of requests is given in seconds. Where none is set there is a default, nothing and zero mean
no limit, and a number above zero means itself; `Timed` says so of a table of settings. What is no
number, or below zero, is refused. Two values slip through: false counts as zero before it is seen
to be no number, and what is no number among the floats is not below zero.

* `timeout_usable`: beside these two, the limit of an accepted configuration is the one that was
  meant, and where none was meant the configuration is refused.
* `slipping_accepted`: these two are accepted.
-/

namespace ProbeBench.Config

variable {tree : FileTree} {cwd : Path} {t : Table} {v : Setting} {limit : Option Float}

/-- How a number compares with zero. -/
def Setting.order? : Setting → Option Ordering
  | .int n => some (compare n 0)
  | .float x => (Decimal.Double.ofFloat x).order?
  | _ => none

/-- The seconds that a number means. -/
def Setting.seconds? : Setting → Option Float
  | .int n => Decimal.double? n
  | .float x => some x
  | _ => none

/-- The limit that settings mean. -/
inductive Timed (t : Table) : Option Float → Prop where
  | unset (absent : t.get? "request_timeout" = none) : Timed t (some defaultTimeout)
  | null (given : t.get? "request_timeout" = some .null) : Timed t none
  | zero {v : Setting} (given : t.get? "request_timeout" = some v)
      (nothing : v.order? = some .eq) : Timed t none
  | positive {v : Setting} {x : Float} (given : t.get? "request_timeout" = some v)
      (above : v.order? = some .gt) (seconds : v.seconds? = some x) : Timed t (some x)

/-- A value that slips through: false, and a float that is no number. -/
def Setting.Slips (v : Setting) : Prop :=
  v = .bool false ∨ ∃ x, v = .float x ∧ Decimal.Double.ofFloat x = .nan

/-- What counts as zero and is not false is a number that is zero. -/
theorem order?_of_isZero (zero : isZero v = true) (other : v ≠ .bool false) :
    v.order? = some .eq := by
  cases v with
  | bool b => cases b <;> simp_all [isZero]
  | int n => simpa [isZero, Setting.order?] using zero
  | float x => exact (Decimal.beq_zero_iff x).mp zero
  | _ => cases zero

theorem double?_of_nonneg {n : Int} (nonneg : ¬ n < 0) :
    Decimal.double? n =
      if (Decimal.Numeral.toFloat ⟨false, n.natAbs, 0⟩).isInf then none
      else some (Decimal.Numeral.toFloat ⟨false, n.natAbs, 0⟩) := by
  simp only [Decimal.double?, nonneg, decide_false]

/-- A number that is neither zero nor below it, nor no number at all, is above it. -/
theorem order?_float_of_not {x : Float} (zero : ¬ (x == 0.0) = true) (below : ¬ x < 0.0)
    (number : Decimal.Double.ofFloat x ≠ .nan) : (Setting.float x).order? = some .gt := by
  rw [Decimal.beq_zero_iff] at zero
  rw [Decimal.lt_zero_iff] at below
  show (Decimal.Double.ofFloat x).order? = some .gt
  cases order : (Decimal.Double.ofFloat x).order? with
  | none =>
    refine absurd ?_ number
    cases d : Decimal.Double.ofFloat x with
    | nan => rfl
    | infinite => simp [d, Decimal.Double.order?] at order
    | finite => simp [d, Decimal.Double.order?] at order
  | some o =>
    cases o with
    | lt => exact absurd order below
    | eq => exact absurd order zero
    | gt => rfl

theorem timed_of_checkTimeout (sound : ¬ v.Slips) (given : t.get? "request_timeout" = some v)
    (accepted : checkTimeout v = .ok limit) : Timed t limit := by
  unfold checkTimeout at accepted
  split at accepted
  · rename_i nothing
    cases accepted
    rw [Bool.or_eq_true] at nothing
    rcases nothing with null | zero
    · cases v with
      | null => exact .null given
      | _ => cases null
    · exact .zero given (order?_of_isZero zero fun no => sound (.inl no))
  · rename_i something
    simp only [Bool.or_eq_true, not_or] at something
    split at accepted
    · rename_i n
      split at accepted
      · cases accepted
      · rename_i nonneg
        have above : (Setting.int n).order? = some .gt := by
          have zero : n ≠ 0 := by simpa [isZero] using something.2
          simp only [Setting.order?, Option.some.injEq, Int.compare_eq_gt]
          omega
        simp only at accepted
        split at accepted
        · cases accepted
        · rename_i finite
          cases accepted
          refine .positive given above ?_
          rw [Setting.seconds?, double?_of_nonneg nonneg, if_neg finite]
    · rename_i x
      split at accepted
      · cases accepted
      · rename_i below
        cases accepted
        exact .positive given
          (order?_float_of_not something.2 below fun no => sound (.inr ⟨x, rfl, no⟩)) rfl
    · cases accepted

/-- Settings mean one limit at most. -/
theorem Timed.unique {other : Option Float} (one : Timed t limit) (two : Timed t other) :
    other = limit := by
  cases one with
  | unset absent => cases two <;> simp_all
  | null given =>
    cases two with
    | positive given' above =>
      cases given.symm.trans given'
      cases above
    | _ => simp_all
  | zero given nothing => cases two <;> simp_all
  | positive given above =>
    cases two with
    | null given' =>
      cases given.symm.trans given'
      cases above
    | _ => simp_all

/-- **Accepted time limits are usable.** As long as the limit that is given is neither false nor a
float that is no number, an accepted configuration has the limit that was meant: the default where
none is given, none for nothing and zero, and else the number of seconds that is given and above
zero. Where no limit was meant the configuration is refused, or a path among its files is too long
to be looked up at all. -/
theorem timeout_usable (sound : ∀ v, t.get? "request_timeout" = some v → ¬ v.Slips) :
    (∀ c, check tree cwd t = .ok c → ∀ limit, Timed t limit ↔ c.timeout = limit) ∧
      ((∀ limit, ¬ Timed t limit) → ∃ f, check tree cwd t = .error f ∧
        ((∃ issues, f = .config (.invalid issues)) ∨
          (f = .undecided .nameTooLong ∧ filesOf tree cwd t = .error f))) := by
  have timed : ∀ c, check tree cwd t = .ok c → Timed t c.timeout := by
    intro c accepted
    have checked := (check_eq_ok_iff.mp accepted).timeout
    unfold Config.optional at checked
    split at checked
    · rename_i v given
      exact timed_of_checkTimeout (sound v given) given checked
    · rename_i absent
      rw [← Except.ok.inj checked]
      exact .unset absent
  constructor
  · intro c accepted limit
    constructor
    · exact fun meant => meant.unique (timed c accepted)
    · rintro rfl
      exact timed c accepted
  · intro meaningless
    cases result : check tree cwd t with
    | ok c => exact absurd (timed c result) (meaningless _)
    | error f => exact ⟨f, rfl, (check_fails result).symm⟩

/-- Settings without files, with a time limit. -/
def withLimit (v : Setting) : Table :=
  [("files", .list []), ("command", .list [.text "srv"]), ("request_timeout", v)]

/-- A limit below zero is refused. -/
theorem timeout_usable_negative :
    ∃ f, check [] ⟨"/", []⟩ (withLimit (.int (-1))) = .error f ∧
      ((∃ issues, f = .config (.invalid issues)) ∨
        (f = .undecided .nameTooLong ∧
          filesOf [] ⟨"/", []⟩ (withLimit (.int (-1))) = .error f)) := by
  have given : (withLimit (.int (-1))).get? "request_timeout" = some (.int (-1)) := rfl
  refine (timeout_usable ?_).2 ?_
  · intro v there
    rw [given, Option.some.injEq] at there
    subst there
    simp [Setting.Slips]
  · intro limit meant
    have below : (Setting.int (-1)).order? = some .lt := by decide
    cases meant <;> simp_all

/-- Settings are accepted with whatever their limit is taken for. -/
theorem check_withLimit (accepted : checkTimeout v = .ok limit) :
    ∃ c, check [] ⟨"/", []⟩ (withLimit v) = .ok c ∧ c.timeout = limit := by
  refine ⟨⟨[], ["srv"], .completion, defaultLanguage, [⟨"/", []⟩], .human, limit, .skip, false⟩, ?_,
    rfl⟩
  rw [check_eq_ok_iff]
  exact ⟨rfl, rfl, rfl, rfl, rfl, rfl, accepted, rfl, rfl, rfl⟩

/-- False is taken for no limit, and what is no number for a limit. -/
theorem slipping_accepted :
    (∃ c, check [] ⟨"/", []⟩ (withLimit (.bool false)) = .ok c ∧ c.timeout = none) ∧
      ∃ c, check [] ⟨"/", []⟩ (withLimit (.float (0.0 / 0.0))) = .ok c ∧
        c.timeout = some (0.0 / 0.0) := by
  have noNumber : Decimal.Double.ofFloat (0.0 / 0.0) = .nan := by decide +kernel
  refine ⟨check_withLimit rfl, check_withLimit ?_⟩
  have notZero : ¬ (0.0 / 0.0 == (0.0 : Float)) = true := by
    simp [Decimal.beq_zero_iff, noNumber, Decimal.Double.order?]
  have notBelow : ¬ (0.0 / 0.0 : Float) < 0.0 := by
    simp [Decimal.lt_zero_iff, noNumber, Decimal.Double.order?]
  simp [checkTimeout, Setting.isNull, isZero, notZero, notBelow]

end ProbeBench.Config
