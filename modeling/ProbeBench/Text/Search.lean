/-!
# Searching a sequence

`find?` gives the first offset at which a pattern occurs; `split` cuts a sequence at every
occurrence of a pair of items.

* `find?_le`: an occurrence found ends within the sequence.
* `find?_drop_of_le`: the first occurrence stays the first when items before it are dropped.
* `find?_append`: it also stays the first when items come behind it.
* `find?_eq_none_iff`, `find?_eq_some_iff`: what is found is the first occurrence.
* `splitPair_cases`: the first piece ends at the first pair, or there is only one piece.
-/

namespace ProbeBench.Text

variable {α : Type} [BEq α]

/-- The first offset at which `pattern` occurs. -/
def find? (pattern : List α) : List α → Option Nat
  | [] => if pattern.isEmpty then some 0 else none
  | x :: rest =>
    if pattern.isPrefixOf (x :: rest) then some 0 else (find? pattern rest).map (· + 1)

/-- Puts an item in front of the first piece. -/
def consFirst (x : α) : List (List α) → List (List α)
  | [] => [[x]]
  | piece :: pieces => (x :: piece) :: pieces

/-- The pieces between the occurrences of `a` followed by `b`. -/
def splitPair (a b : α) : List α → List (List α)
  | [] => [[]]
  | [x] => [[x]]
  | x :: y :: rest =>
    if x == a && y == b then [] :: splitPair a b rest else consFirst x (splitPair a b (y :: rest))

theorem length_le_of_isPrefixOf {pattern xs : List α} (h : pattern.isPrefixOf xs = true) :
    pattern.length ≤ xs.length := by
  induction pattern generalizing xs with
  | nil => simp
  | cons p ps ih =>
    cases xs with
    | nil => simp [List.isPrefixOf] at h
    | cons x rest =>
      simp only [List.isPrefixOf, Bool.and_eq_true] at h
      have := ih h.2
      simpa using this

theorem find?_le {pattern xs : List α} {k : Nat} (h : find? pattern xs = some k) :
    k + pattern.length ≤ xs.length := by
  induction xs generalizing k with
  | nil =>
    unfold find? at h
    split at h
    · cases h; simp_all
    · cases h
  | cons x rest ih =>
    unfold find? at h
    split at h
    · rename_i hp
      cases h
      have := length_le_of_isPrefixOf hp
      omega
    · obtain ⟨j, hj, rfl⟩ := Option.map_eq_some_iff.1 h
      have := ih hj
      simp only [List.length_cons]
      omega

theorem find?_drop_of_none {pattern xs : List α} (h : find? pattern xs = none) (n : Nat) :
    find? pattern (xs.drop n) = none := by
  induction xs generalizing n with
  | nil => simpa using h
  | cons x rest ih =>
    cases n with
    | zero => simpa using h
    | succ n =>
      unfold find? at h
      split at h
      · cases h
      · exact ih (Option.map_eq_none_iff.1 h) n

theorem find?_drop_of_le {pattern xs : List α} {n k : Nat} (h : find? pattern xs = some k)
    (le : n ≤ k) : find? pattern (xs.drop n) = some (k - n) := by
  induction xs generalizing n k with
  | nil =>
    have := find?_le h
    have none_left : n = 0 := by simp at this; omega
    simpa [none_left] using h
  | cons x rest ih =>
    cases n with
    | zero => simpa using h
    | succ n =>
      unfold find? at h
      split at h
      · cases h; omega
      · obtain ⟨j, hj, rfl⟩ := Option.map_eq_some_iff.1 h
        rw [List.drop_succ_cons, ih hj (by omega)]
        congr 1
        omega

/-- The pattern stands where it is found. -/
theorem drop_of_find? [LawfulBEq α] {pattern xs : List α} {k : Nat}
    (h : find? pattern xs = some k) : ∃ rest, xs.drop k = pattern ++ rest := by
  induction xs generalizing k with
  | nil =>
    unfold find? at h
    split at h
    · cases h
      exact ⟨[], by simp_all⟩
    · cases h
  | cons x rest ih =>
    unfold find? at h
    split at h
    · rename_i hp
      cases h
      obtain ⟨rest', hr⟩ := List.isPrefixOf_iff_prefix.1 hp
      exact ⟨rest', hr.symm⟩
    · obtain ⟨j, hj, rfl⟩ := Option.map_eq_some_iff.1 h
      exact ih hj

/-- What is not found occurs nowhere. -/
theorem find?_eq_none_iff [LawfulBEq α] {pattern xs : List α} :
    find? pattern xs = none ↔ ¬ pattern <:+: xs := by
  induction xs with
  | nil => simp [find?]
  | cons x rest ih =>
    rw [find?, List.infix_cons_iff, ← List.isPrefixOf_iff_prefix]
    by_cases here : pattern.isPrefixOf (x :: rest) = true
    · simp [here]
    · simp [here, ih]

/-- The pattern does not stand before the place where it is found. -/
theorem not_before_of_find? [LawfulBEq α] {pattern xs : List α} {j k : Nat}
    (h : find? pattern xs = some k) (before : j < k) : ¬ pattern <+: xs.drop j := by
  intro there
  have later := find?_drop_of_le h (Nat.le_of_lt before)
  have found : find? pattern (xs.drop j) = some 0 := by
    cases hj : xs.drop j with
    | nil => simp_all [find?]
    | cons x rest => rw [find?, if_pos (List.isPrefixOf_iff_prefix.mpr (hj ▸ there))]
  rw [found, Option.some.injEq] at later
  omega

/-- What is found stands there, and nowhere before. -/
theorem find?_eq_some_iff [LawfulBEq α] {pattern xs : List α} {k : Nat} :
    find? pattern xs = some k ↔ pattern <+: xs.drop k ∧ ∀ j < k, ¬ pattern <+: xs.drop j := by
  constructor
  · intro h
    obtain ⟨rest, hr⟩ := drop_of_find? h
    exact ⟨⟨rest, hr.symm⟩, fun j before => not_before_of_find? h before⟩
  · rintro ⟨there, first⟩
    cases h : find? pattern xs with
    | none =>
      exact absurd (there.isInfix.trans (List.drop_suffix k xs).isInfix) (find?_eq_none_iff.mp h)
    | some j =>
      obtain ⟨rest, hr⟩ := drop_of_find? h
      have not_after : ¬ j < k := fun before => first j before ⟨rest, hr.symm⟩
      have not_before : ¬ k < j := fun before => not_before_of_find? h before there
      congr 1
      omega

theorem isPrefixOf_append {pattern xs : List α} (h : pattern.isPrefixOf xs = true)
    (more : List α) : pattern.isPrefixOf (xs ++ more) = true := by
  induction pattern generalizing xs with
  | nil => simp [List.isPrefixOf]
  | cons p ps ih =>
    cases xs with
    | nil => simp [List.isPrefixOf] at h
    | cons x rest =>
      simp only [List.cons_append, List.isPrefixOf, Bool.and_eq_true] at h ⊢
      exact ⟨h.1, ih h.2⟩

theorem isPrefixOf_of_append {pattern xs more : List α} (long : pattern.length ≤ xs.length)
    (h : pattern.isPrefixOf (xs ++ more) = true) : pattern.isPrefixOf xs = true := by
  induction pattern generalizing xs with
  | nil => simp [List.isPrefixOf]
  | cons p ps ih =>
    cases xs with
    | nil => simp at long
    | cons x rest =>
      simp only [List.cons_append, List.isPrefixOf, Bool.and_eq_true] at h ⊢
      exact ⟨h.1, ih (by simpa using long) h.2⟩

theorem find?_append {pattern xs : List α} {k : Nat} (h : find? pattern xs = some k)
    (more : List α) (filled : pattern ≠ []) : find? pattern (xs ++ more) = some k := by
  induction xs generalizing k with
  | nil =>
    unfold find? at h
    split at h
    · simp_all
    · cases h
  | cons x rest ih =>
    unfold find? at h
    rw [List.cons_append, find?]
    split at h
    · rename_i hp
      cases h
      exact if_pos (isPrefixOf_append hp more)
    · rename_i hp
      obtain ⟨j, hj, rfl⟩ := Option.map_eq_some_iff.1 h
      have bound := find?_le hj
      have hp' : ¬ pattern.isPrefixOf (x :: (rest ++ more)) = true := by
        refine fun hp' => hp (isPrefixOf_of_append ?_ hp')
        simp only [List.length_cons]
        omega
      rw [if_neg hp', ih hj]
      rfl

/-- A pattern is found behind items among which its first one is not. -/
theorem find?_of_not_mem [LawfulBEq α] {p : α} {xs : List α} (h : p ∉ xs) (ps : List α) :
    find? (p :: ps) (xs ++ p :: ps) = some xs.length := by
  induction xs with
  | nil => simp [find?, List.isPrefixOf_iff_prefix]
  | cons x rest ih =>
    simp only [List.mem_cons, not_or] at h
    have no : ¬ (p :: ps).isPrefixOf (x :: (rest ++ p :: ps)) = true := by
      simp [List.isPrefixOf, h.1]
    rw [List.cons_append, find?, if_neg no, ih h.2]
    rfl

theorem splitPair_cons_of_not {a b x y : α} (rest : List α) (h : (x == a && y == b) = false) :
    splitPair a b (x :: y :: rest) = consFirst x (splitPair a b (y :: rest)) := by
  rw [splitPair, h]
  rfl

theorem splitPair_ne_nil (a b : α) (xs : List α) : splitPair a b xs ≠ [] := by
  fun_induction splitPair a b xs with
  | case1 => simp
  | case2 => simp
  | case3 => simp
  | case4 x y rest pair ih => cases h : splitPair a b (y :: rest) <;> simp [consFirst]

/-- The first piece ends at the first pair, behind which the other pieces are; or the sequence is
one piece. -/
theorem splitPair_cases [LawfulBEq α] (a b : α) (xs : List α) :
    splitPair a b xs = [xs] ∨
      ∃ piece rest, xs = piece ++ a :: b :: rest ∧
        splitPair a b xs = piece :: splitPair a b rest := by
  fun_induction splitPair a b xs with
  | case1 => exact .inl rfl
  | case2 x => exact .inl rfl
  | case3 x y rest pair =>
    simp only [Bool.and_eq_true, beq_iff_eq] at pair
    obtain ⟨rfl, rfl⟩ := pair
    exact .inr ⟨[], rest, rfl, rfl⟩
  | case4 x y rest pair ih =>
    rcases ih with one | ⟨piece, more, hxs, hsplit⟩
    · exact .inl (by rw [one]; rfl)
    · exact .inr ⟨x :: piece, more, by rw [hxs]; rfl, by rw [hsplit]; rfl⟩

theorem splitPair_of_not_mem [LawfulBEq α] {a : α} (b : α) {xs : List α} (h : a ∉ xs) :
    splitPair a b xs = [xs] := by
  rcases splitPair_cases a b xs with one | ⟨piece, rest, rfl, _⟩
  · exact one
  · exact absurd (List.mem_append_right piece List.mem_cons_self) h

/-- Pieces end where a pair does. -/
theorem splitPair_append_pair [LawfulBEq α] {a b : α} (ne : a ≠ b) (xs rest : List α) :
    splitPair a b (xs ++ a :: b :: rest) = splitPair a b xs ++ splitPair a b rest := by
  fun_induction splitPair a b xs with
  | case1 => simp [splitPair]
  | case2 x =>
    have h : (x == a && a == b) = false := by simp [ne]
    rw [List.singleton_append, splitPair_cons_of_not _ h]
    simp [splitPair, consFirst]
  | case3 x y more pair ih =>
    rw [List.cons_append, List.cons_append, splitPair, if_pos pair, ih]
    rfl
  | case4 x y more pair ih =>
    rw [List.cons_append, List.cons_append, splitPair, if_neg pair, ← List.cons_append, ih]
    cases h : splitPair a b (y :: more) with
    | nil => exact absurd h (splitPair_ne_nil a b _)
    | cons piece pieces => rfl

end ProbeBench.Text
