import ProbeBench.Text.LowerBound

/-!
# Searching by halves

A search that tries one entry after the other keeps the index of the last one that is not above the
value (`scan`). The search by halves looks at few of them. It finds the same index wherever every
entry is above the value once one is, as it is among ascending entries.

The search by halves answers for every array, but what it reads is inside only because its indices
come with a proof of it. `lowerBoundWithin?` takes nothing for granted: its indices are integers,
which may fall below the first one, every entry is looked up, and it makes so many turns and no
more. It has no answer where it looks outside the array, or where the turns run out.

* `lowerBoundIn_eq`, `lowerBound?_eq`, `lowerBound?_append`: what the search by halves finds.
* `lastUpTo_scan`: what the search one by one finds, in any order of the entries;
  `lowerBound?_of_lastUpTo`: the search by halves finds the same.
* `halve?_eq`, `search?_eq`, `lowerBoundWithin?_eq`: a turn halves what is left and stays inside, so
  that one turn more than the binary logarithm is enough, in any order of the entries.
* `greatest_by_halves`: the search by halves finds the greatest index of an entry that is not
  above the value.
-/

namespace ProbeBench.Text

/-! ## By halves -/

section Searching

variable {α : Type} [LT α] [DecidableLT α]

/-- Between two indices around it, the search finds the last entry that is not above the value. -/
theorem lowerBoundIn_eq (values : Array α) (value : α) {k : Nat}
    (below : ∀ j (hj : j < values.size), j ≤ k → ¬ value < values[j])
    (above : ∀ j (hj : j < values.size), k < j → value < values[j]) (low high : Nat)
    (bound : high < values.size) (hlow : low ≤ k) (hhigh : k ≤ high) :
    lowerBoundIn values value low high bound = k := by
  fun_induction lowerBoundIn values value low high bound with
  | case1 low high bound between mid isAbove ih =>
    have behind : ¬ mid ≤ k := fun h => below mid (by omega) h isAbove
    exact ih hlow (by omega)
  | case2 low high bound between mid notAbove ih =>
    have before : ¬ k < mid := fun h => notAbove (above mid (by omega) h)
    exact ih (by omega) hhigh
  | case3 low high bound stop => omega

/-- **The search finds the last entry that is not above the value**, where no such entry comes after
one that is. -/
theorem lowerBound?_eq (values : Array α) (value : α) {k : Nat} (inside : k < values.size)
    (below : ∀ j (hj : j < values.size), j ≤ k → ¬ value < values[j])
    (above : ∀ j (hj : j < values.size), k < j → value < values[j]) :
    lowerBound? values value = some k := by
  have filled : 0 < values.size := by omega
  unfold lowerBound?
  rw [dif_pos filled, if_neg (below 0 filled (Nat.zero_le k))]
  split
  · rw [lowerBoundIn_eq values value below above 0 _ _ (Nat.zero_le k) (by omega)]
  · rename_i last
    have before : ¬ k < values.size - 1 := fun h => last (above _ (by omega) h)
    rw [show k = values.size - 1 by omega]

/-! ## One by one -/

/-- The index of the last entry that is not above a value, or the first index where all are. -/
inductive LastUpTo (values : List α) (value : α) : Nat → Prop
  | last {k : Nat} {entry : α} (here : values[k]? = some entry) (upTo : ¬ value < entry)
      (above : ∀ j later, values[j]? = some later → k < j → value < later) :
      LastUpTo values value k
  | first (above : ∀ entry ∈ values, value < entry) : LastUpTo values value 0

/-- Tries the entries from an index on: the index of the last one that is not above the value, or
the index that was kept before. -/
def scanFrom (value : α) (kept index : Nat) : List α → Nat
  | [] => kept
  | entry :: rest => scanFrom value (if value < entry then kept else index) (index + 1) rest

/-- The search that tries one entry after the other. -/
def scan (values : List α) (value : α) : Nat := scanFrom value 0 0 values

/-- One more entry is the last one that is not above the value, or changes nothing. -/
theorem LastUpTo.concat {values : List α} {value : α} {k : Nat} (h : LastUpTo values value k)
    (entry : α) :
    LastUpTo (values ++ [entry]) value (if value < entry then k else values.length) := by
  split
  · rename_i isAbove
    cases h with
    | last here upTo above =>
      have inside := (List.getElem?_eq_some_iff.mp here).1
      have still : (values ++ [entry])[k]? = some _ := (List.getElem?_append_left inside).trans here
      refine .last still upTo fun j later there behind => ?_
      rcases Nat.lt_or_ge j values.length with before | at_end
      · rw [List.getElem?_append_left before] at there
        exact above j later there behind
      · rw [List.getElem?_append_right at_end] at there
        rw [List.mem_singleton.mp (List.mem_of_getElem? there)]
        exact isAbove
    | first above =>
      refine .first fun other among => ?_
      rcases List.mem_append.mp among with among | among
      · exact above other among
      · rw [List.mem_singleton.mp among]
        exact isAbove
  · rename_i notAbove
    refine .last List.getElem?_concat_length notAbove fun j later there behind => ?_
    have inside := (List.getElem?_eq_some_iff.mp there).1
    rw [List.length_append, List.length_singleton] at inside
    omega

theorem lastUpTo_scanFrom {front : List α} {value : α} {kept : Nat}
    (h : LastUpTo front value kept) (rest : List α) :
    LastUpTo (front ++ rest) value (scanFrom value kept front.length rest) := by
  induction rest generalizing front kept with
  | nil => rwa [List.append_nil, scanFrom]
  | cons entry rest ih =>
    have next := ih (h.concat entry)
    rwa [List.length_append, List.append_assoc] at next

/-- **The search one by one finds the last entry that is not above the value**, in whatever order
the entries are. -/
theorem lastUpTo_scan (values : List α) (value : α) : LastUpTo values value (scan values value) :=
  have none_tried : LastUpTo [] value 0 := .first fun _ among => absurd among List.not_mem_nil
  lastUpTo_scanFrom none_tried values

/-- The search by halves finds it too, where every entry is above the value once one is. -/
theorem lowerBound?_of_lastUpTo {values : List α} {value : α} {k : Nat} (filled : values ≠ [])
    (parted : values.Pairwise fun entry later => value < entry → value < later)
    (h : LastUpTo values value k) : lowerBound? values.toArray value = some k := by
  cases h with
  | last here upTo above =>
    obtain ⟨inside, rfl⟩ := List.getElem?_eq_some_iff.mp here
    refine lowerBound?_eq _ _ inside ?_ ?_
    · intro j hj before isAbove
      rcases Nat.lt_or_eq_of_le before with earlier | rfl
      · exact upTo (List.pairwise_iff_getElem.mp parted j k hj inside earlier isAbove)
      · exact upTo isAbove
    · intro j hj behind
      exact above j _ (List.getElem?_eq_getElem hj) behind
  | first above =>
    have inside : 0 < values.toArray.size := List.length_pos_iff.mpr filled
    have isAbove : value < values.toArray[0] := above _ (List.getElem_mem inside)
    rw [lowerBound?, dif_pos inside, if_pos isAbove]

/-! ## Turn by turn -/

/-- The entry at an integer: none below the first index, and none behind the last. -/
def entryAt? (values : Array α) (i : Int) : Option α :=
  if i < 0 then none else values[i.toNat]?

omit [LT α] [DecidableLT α] in
theorem entryAt?_natCast (values : Array α) {k : Nat} (inside : k < values.size) :
    entryAt? values (k : Int) = some values[k] := by
  rw [entryAt?, if_neg (by omega), Int.toNat_natCast, Array.getElem?_eq_getElem inside]

/-- What a search has left: the indices from `low` to `high`, both included. -/
structure Bounds where
  low : Int
  high : Int

namespace Bounds

/-- The upper one of the two middles. -/
def mid (b : Bounds) : Int := b.high - (b.high - b.low) / 2

/-- One turn: the entry in the middle tells which half is left. -/
def halve? (values : Array α) (value : α) (b : Bounds) : Option Bounds :=
  (entryAt? values b.mid).map fun entry =>
    if value < entry then { b with high := b.mid - 1 } else { b with low := b.mid }

/-- The search in at most so many turns. -/
def search? (values : Array α) (value : α) : Nat → Bounds → Option Int
  | 0, b => if b.low < b.high then none else some b.low
  | turns + 1, b =>
    if b.low < b.high then (b.halve? values value).bind (search? values value turns)
    else some b.low

variable {values : Array α} {value : α}

/-- A turn reads an entry between its two indices, and leaves two indices that are not outside. -/
theorem halve?_eq {low high middle : Nat} (upper : middle = high - (high - low) / 2)
    (between : low < high) (inside : middle < values.size) :
    halve? values value ⟨low, high⟩ =
      some (if value < values[middle] then ⟨low, (middle - 1 : Nat)⟩ else ⟨middle, high⟩) := by
  have read : mid ⟨low, high⟩ = (middle : Int) := by
    simp only [mid]
    omega
  rw [halve?, read, entryAt?_natCast values inside, Option.map_some]
  split
  · congr 2
    omega
  · rfl

theorem search?_of_not_lt {b : Bounds} (stop : ¬ b.low < b.high) (turns : Nat) :
    search? values value turns b = some b.low := by
  cases turns with
  | zero => rw [search?, if_neg stop]
  | succ turns => rw [search?, if_neg stop]

/-- Turns that are enough for so many indices are enough for fewer. -/
theorem log2_lt_of_le {few many turns : Nat} (fewer : few ≤ many) (enough : many.log2 < turns) :
    few = 0 ∨ few.log2 < turns := by
  refine Decidable.or_iff_not_imp_left.mpr fun more => (Nat.log2_lt more).mpr ?_
  exact Nat.lt_of_le_of_lt fewer ((Nat.log2_lt (by omega)).mp enough)

/-- For half as many indices, one turn less is enough. -/
theorem log2_half {half many turns : Nat} (halved : 2 * half ≤ many)
    (enough : many.log2 < turns + 1) : half = 0 ∨ half.log2 < turns := by
  refine Decidable.or_iff_not_imp_left.mpr fun more => ?_
  have doubled := (log2_lt_of_le halved enough).resolve_left (by omega)
  rw [Nat.log2_two_mul more] at doubled
  omega

/-- **The search between two indices of the array stays there**, and the turns are enough where
there are more than the binary logarithm of the distance between the two. -/
theorem search?_eq (values : Array α) (value : α) (low high : Nat) (bound : high < values.size)
    (order : low ≤ high) (turns : Nat) (enough : high - low = 0 ∨ (high - low).log2 < turns) :
    search? values value turns ⟨low, high⟩ =
      some ((lowerBoundIn values value low high bound : Nat) : Int) := by
  -- along the search: either half is at most half as wide, so that one turn less is enough for it
  fun_induction lowerBoundIn values value low high bound generalizing turns with
  | case1 low high bound between mid isAbove ih =>
    obtain ⟨turns, rfl⟩ := Nat.exists_eq_succ_of_ne_zero (show turns ≠ 0 by omega)
    rw [search?, if_pos (Int.ofNat_lt.mpr between), halve?_eq rfl between (by omega),
      if_pos isAbove, Option.bind_some]
    exact ih (by omega) turns (log2_half (by omega) (enough.resolve_left (by omega)))
  | case2 low high bound between mid notAbove ih =>
    obtain ⟨turns, rfl⟩ := Nat.exists_eq_succ_of_ne_zero (show turns ≠ 0 by omega)
    rw [search?, if_pos (Int.ofNat_lt.mpr between), halve?_eq rfl between (by omega),
      if_neg notAbove, Option.bind_some]
    exact ih (by omega) turns (log2_half (by omega) (enough.resolve_left (by omega)))
  | case3 low high bound stop =>
    exact search?_of_not_lt (mt Int.ofNat_lt.mp stop) turns

end Bounds

/-- The search by halves with nothing taken for granted, in at most so many turns. -/
def lowerBoundWithin? (values : Array α) (value : α) (turns : Nat) : Option Int :=
  -- the entries at both ends are read before any in between
  let last : Int := values.size - 1
  (entryAt? values 0).bind fun entry =>
    if value < entry then some 0
    else (entryAt? values last).bind fun entry =>
      if value < entry then Bounds.search? values value turns ⟨0, last⟩ else some last

/-- **The search by halves never looks outside the array, and comes to an end**: one turn more than
the binary logarithm of the size is enough for it, and only an empty array has no answer. -/
theorem lowerBoundWithin?_eq (values : Array α) (value : α) {turns : Nat}
    (enough : values.size.log2 < turns) :
    lowerBoundWithin? values value turns =
      (lowerBound? values value).map fun (k : Nat) => (k : Int) := by
  rcases Nat.eq_zero_or_pos values.size with empty | filled
  · rw [lowerBound?_eq_none.mpr empty]
    simp [lowerBoundWithin?, entryAt?, empty]
  · have inside : values.size - 1 < values.size := by omega
    have first : entryAt? values 0 = some values[0] := entryAt?_natCast values filled
    have last : (values.size : Int) - 1 = (values.size - 1 : Nat) := by omega
    rw [lowerBoundWithin?, lowerBound?, dif_pos filled]
    simp only [first, last, entryAt?_natCast values inside, Option.bind_some]
    split
    · rfl
    · split
      · exact Bounds.search?_eq values value 0 _ inside (Nat.zero_le _) turns
          (Bounds.log2_lt_of_le (by omega) enough)
      · rfl

end Searching

/-! ## Among ascending numbers -/

/-- Entries in front are not above the value, and those behind are. -/
theorem lowerBound?_append {front back : List Nat} {value : Nat} (filled : front ≠ [])
    (below : ∀ x ∈ front, x ≤ value) (above : ∀ x ∈ back, value < x) :
    lowerBound? (front ++ back).toArray value = some (front.length - 1) := by
  have some_front : 0 < front.length := List.length_pos_iff.mpr filled
  refine lowerBound?_eq _ _ ?_ ?_ ?_
  · rw [List.size_toArray, List.length_append]
    omega
  · intro j hj before
    have inside : j < front.length := by omega
    rw [List.getElem_toArray, List.getElem_append_left inside]
    have := below _ (List.getElem_mem inside)
    omega
  · intro j hj behind
    rw [List.getElem_toArray, List.getElem_append_right (by omega)]
    exact above _ (List.getElem_mem _)

/-- **The search by halves is the search one by one.** Among ascending integers, repeated or not, it
answers the greatest index of an entry that is not above the value, and the first index where every
entry is above. One turn more than the binary logarithm of their number is enough for that, and no
index that it looks at is below the first or behind the last. -/
theorem greatest_by_halves {values : List Int} (filled : values ≠ [])
    (ascending : values.Pairwise (· ≤ ·)) (value : Int) :
    ∃ k, lowerBound? values.toArray value = some k ∧ k = scan values value ∧
      LastUpTo values value k ∧
      ∀ turns, values.length.log2 < turns →
        lowerBoundWithin? values.toArray value turns = some (k : Int) := by
  have parted : values.Pairwise fun entry later => value < entry → value < later :=
    ascending.imp fun order isAbove => Int.lt_of_lt_of_le isAbove order
  have wanted : LastUpTo values value (scan values value) := lastUpTo_scan values value
  have found := lowerBound?_of_lastUpTo filled parted wanted
  refine ⟨scan values value, found, rfl, wanted, fun turns enough => ?_⟩
  rw [lowerBoundWithin?_eq _ _ enough, found, Option.map_some]

/-- Of entries that are repeated, the last one is found; for five entries in three turns. -/
theorem greatest_by_halves_repeated :
    let values : List Int := [-3, 4, 4, 4, 9]
    values ≠ [] ∧ values.Pairwise (· ≤ ·) ∧ values.length.log2 < 3 ∧
      lowerBound? values.toArray 5 = some 3 ∧ LastUpTo values 5 3 ∧
      lowerBoundWithin? values.toArray 5 3 = some 3 := by
  intro values
  have filled : values ≠ [] := by decide
  have ascending : values.Pairwise (· ≤ ·) := by decide
  have few : values.length.log2 < 3 := by decide
  obtain ⟨k, found, same, wanted, within⟩ := greatest_by_halves filled ascending 5
  have third : k = 3 := same
  subst third
  exact ⟨filled, ascending, few, found, wanted, within 3 few⟩

end ProbeBench.Text
