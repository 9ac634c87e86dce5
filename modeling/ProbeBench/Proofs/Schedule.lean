import ProbeBench.Schedule

/-!
# What a schedule holds

Nothing comes out of a schedule that was not put in: what is to happen at times to come, and what is
taken off because it is due, has been scheduled before. Stopping, tidying and taking keep what holds
of everything that is due. Nothing is lost either: what is scheduled stays so until it is stopped or
taken off. And what runs out first comes first, as long as all deadlines are times that can be
compared (`Comparable`).

* `Schedule.All`: everything that is due has a property.
* `All.add`, `All.stop`, `All.tidy`, `All.take`: what the operations do to it.
* `Schedule.Holds`: something is scheduled and has not been stopped.
* `Holds.add`, `Holds.stop`, `Holds.tidy`, `Holds.take`: what the operations do to it.
* `Schedule.count`: how many timers run for what has a property.
* `count_add`, `count_tidy`, `count_take`: what the operations do to that.
* `Schedule.InOrder`: the schedule is a heap of times. `ordered_rise`, `rises_sink`: moving timers
  mends it where one timer was out of place; `InOrder.add`, `front_add`, `take_cases`: what adding
  and taking make of it.
-/

namespace ProbeBench

section Contents

variable {τ α : Type} [LT τ] [DecidableLT τ]

namespace Heap

/-- Taking the front off leaves the others, each as often as it was there. -/
theorem perm_pop {h rest : Array (Timer τ α)} {front : Timer τ α}
    (e : pop? h = some (front, rest)) : (rest.push front).Perm h := by
  obtain ⟨first, hf, he⟩ := Option.map_eq_some_iff.mp e
  cases he
  obtain ⟨pos, hfront⟩ := Array.getElem?_eq_some_iff.mp hf
  have perm : (h.swapIfInBounds 0 (h.size - 1)).Perm h := by
    rw [Array.swapIfInBounds_def, dif_pos pos, dif_pos (by omega)]
    exact Array.swap_perm ..
  obtain ⟨body, last, hb⟩ := Array.eq_push_of_size_ne_zero
    (show (h.swapIfInBounds 0 (h.size - 1)).size ≠ 0 by rw [Array.size_swapIfInBounds]; omega)
  -- the front has been swapped to the end
  have hlast : last = front := by
    have size := congrArg Array.size hb
    rw [Array.size_swapIfInBounds, Array.size_push] at size
    have behind : (h.swapIfInBounds 0 (h.size - 1))[h.size - 1]? = some last := by
      rw [hb, show h.size - 1 = body.size by omega, Array.getElem?_push_size]
    rw [Array.getElem?_eq_getElem (by rw [Array.size_swapIfInBounds]; omega),
      Array.getElem_swapIfInBounds_right pos, hfront] at behind
    exact (Option.some.inj behind).symm
  refine Array.Perm.trans ?_ perm
  rw [hb, Array.pop_push, ← hlast]
  exact (perm_settle ..).push last

theorem mem_pop {h rest : Array (Timer τ α)} {front : Timer τ α} (e : pop? h = some (front, rest))
    {t : Timer τ α} : t ∈ h ↔ t = front ∨ t ∈ rest := by
  rw [← (perm_pop e).mem_iff, Array.mem_push, or_comm]

omit [LT τ] [DecidableLT τ] in
/-- Moving timers inside the heap leaves their numbers. -/
theorem countP_of_perm {h h' : Array (Timer τ α)} (perm : h.Perm h') (q : Timer τ α → Bool) :
    h.countP q = h'.countP q := by
  rw [← Array.countP_toList, ← Array.countP_toList]
  exact perm.toList.countP_eq q

theorem mem_ofArray {h : Array (Timer τ α)} {t : Timer τ α} : t ∈ ofArray h ↔ t ∈ h :=
  (perm_settleBelow ..).mem_iff

end Heap

namespace Schedule

/-- Everything that is due some time has a property. -/
def All (p : α → Prop) (s : Schedule τ α) : Prop := ∀ t ∈ s.timers, p t.due

variable {p : α → Prop} {s : Schedule τ α}

theorem All.add (h : s.All p) {due : α} (hd : p due) (deadline : τ) :
    (s.add deadline due).All p := by
  intro t ht
  rcases (mem_add s deadline due t).mp ht with there | rfl
  · exact h t there
  · exact hd

omit [LT τ] [DecidableLT τ] in
theorem All.stop (h : s.All p) (concerns : α → Bool) : (s.stop concerns).All p := by
  intro t ht
  obtain ⟨u, hu, rfl⟩ := Array.mem_map.mp ht
  have := h u hu
  split <;> exact this

theorem All.trim (h : s.All p) (n : Nat) : (s.trim n).All p := by
  induction n generalizing s with
  | zero => exact h
  | succ n ih =>
    rw [Schedule.trim]
    split
    · rename_i front rest he
      split
      · exact ih fun t ht => h t ((Heap.mem_pop he).mpr (.inr ht))
      · exact h
    · exact h

theorem All.tidy (h : s.All p) : s.tidy.All p := by
  unfold Schedule.tidy
  split
  · intro t ht
    rw [Heap.mem_ofArray] at ht
    exact h t (Array.mem_filter.mp ht).1
  · exact h.trim _

/-- **What is due has been scheduled**, and so has what is left. -/
theorem All.take (h : s.All p) (isDue : τ → Bool) :
    (∀ x ∈ (s.take isDue).1, p x) ∧ (s.take isDue).2.All p := by
  have taken (n : Nat) (s : Schedule τ α) (h : s.All p) :
      (∀ x ∈ (s.takeFor isDue n).1, p x) ∧ (s.takeFor isDue n).2.All p := by
    induction n generalizing s with
    | zero => exact ⟨fun x hx => absurd hx List.not_mem_nil, h⟩
    | succ n ih =>
      rw [takeFor]
      split
      · rename_i front rest he
        have there {t : Timer τ α} : t = front ∨ t ∈ rest → t ∈ s.timers := (Heap.mem_pop he).mpr
        obtain ⟨now, later⟩ := ih { s with timers := rest } fun t ht => h t (there (.inr ht))
        split
        · refine ⟨fun x hx => ?_, later⟩
          split at hx
          · exact now x hx
          · rcases List.mem_cons.mp hx with rfl | hx
            · exact h front (there (.inl rfl))
            · exact now x hx
        · exact ⟨fun x hx => absurd hx List.not_mem_nil, h⟩
      · exact ⟨fun x hx => absurd hx List.not_mem_nil, h⟩
  exact taken _ s h

/-- Something is scheduled, and has not been stopped. -/
def Holds (s : Schedule τ α) (a : α) : Prop := ∃ t ∈ s.timers, t.stopped = false ∧ t.due = a

variable {a : α}

theorem Holds.add (h : s.Holds a) (deadline : τ) (due : α) : (s.add deadline due).Holds a := by
  obtain ⟨t, ht, live, rfl⟩ := h
  exact ⟨t, (mem_add s deadline due t).mpr (.inl ht), live, rfl⟩

omit [LT τ] [DecidableLT τ] in
theorem Holds.stop (h : s.Holds a) {concerns : α → Bool} (spared : concerns a = false) :
    (s.stop concerns).Holds a := by
  obtain ⟨t, ht, live, rfl⟩ := h
  refine ⟨t, Array.mem_map.mpr ⟨t, ht, ?_⟩, live, rfl⟩
  simp [spared]

theorem Holds.trim (h : s.Holds a) (n : Nat) : (s.trim n).Holds a := by
  induction n generalizing s with
  | zero => exact h
  | succ n ih =>
    rw [Schedule.trim]
    split
    · rename_i front rest he
      split
      · rename_i stopped
        obtain ⟨t, ht, live, rfl⟩ := h
        refine ih ⟨t, ?_, live, rfl⟩
        rcases (Heap.mem_pop he).mp ht with rfl | there
        · rw [live] at stopped
          cases stopped
        · exact there
      · exact h
    · exact h

theorem Holds.tidy (h : s.Holds a) : s.tidy.Holds a := by
  unfold Schedule.tidy
  split
  · obtain ⟨t, ht, live, rfl⟩ := h
    refine ⟨t, ?_, live, rfl⟩
    rw [Heap.mem_ofArray]
    exact Array.mem_filter.mpr ⟨ht, by simp [live]⟩
  · exact h.trim _

/-- **What is scheduled is taken off when it is due, or stays.** -/
theorem Holds.take (h : s.Holds a) (isDue : τ → Bool) :
    a ∈ (s.take isDue).1 ∨ (s.take isDue).2.Holds a := by
  have taken (n : Nat) (s : Schedule τ α) (h : s.Holds a) :
      a ∈ (s.takeFor isDue n).1 ∨ (s.takeFor isDue n).2.Holds a := by
    induction n generalizing s with
    | zero => exact .inr h
    | succ n ih =>
      rw [takeFor]
      split
      · rename_i front rest he
        split
        · obtain ⟨t, ht, live, rfl⟩ := h
          rcases (Heap.mem_pop he).mp ht with rfl | there
          · rw [live]
            exact .inl List.mem_cons_self
          · refine (ih { s with timers := rest } ⟨t, there, live, rfl⟩).imp_left fun now => ?_
            simp only
            split
            · exact now
            · exact List.mem_cons_of_mem _ now
        · exact .inr h
      · exact .inr h
  exact taken _ s h

omit [LT τ] [DecidableLT τ] in
/-- A schedule that holds something has a next deadline. -/
theorem Holds.next? (h : s.Holds a) : s.next? ≠ none := by
  obtain ⟨t, ht, _⟩ := h
  rw [Schedule.next?, ne_eq, Option.map_eq_none_iff, Array.getElem?_eq_none_iff]
  have := Array.size_pos_of_mem ht
  omega

/-- How many timers run for what has a property. -/
def count (s : Schedule τ α) (q : α → Bool) : Nat :=
  s.timers.countP fun t => !t.stopped && q t.due

variable {q : α → Bool}

theorem count_add (s : Schedule τ α) (deadline : τ) (due : α) :
    (s.add deadline due).count q = s.count q + if q due then 1 else 0 := by
  unfold add count
  rw [Heap.countP_of_perm (Heap.perm_rise ..), Array.countP_push]
  simp

omit [LT τ] [DecidableLT τ] in
theorem count_stop_of_other {concerns : α → Bool} (other : ∀ a, concerns a = true → q a = false)
    (s : Schedule τ α) : (s.stop concerns).count q = s.count q := by
  unfold stop count
  rw [Array.countP_map]
  refine congrArg (Array.countP · s.timers) (funext fun t => ?_)
  simp only [Function.comp]
  split
  · rename_i hit
    simp only [Bool.and_eq_true, Bool.not_eq_true'] at hit
    simp [other _ hit.2]
  · rfl

omit [LT τ] [DecidableLT τ] in
theorem count_stop_le (s : Schedule τ α) (concerns : α → Bool) :
    (s.stop concerns).count q ≤ s.count q := by
  unfold stop count
  rw [Array.countP_map, ← Array.countP_toList, ← Array.countP_toList]
  refine List.countP_mono_left fun t _ runs => ?_
  simp only [Function.comp] at runs
  split at runs
  · simp at runs
  · exact runs

theorem count_trim (s : Schedule τ α) (n : Nat) : (s.trim n).count q = s.count q := by
  induction n generalizing s with
  | zero => rfl
  | succ n ih =>
    rw [Schedule.trim]
    split
    · rename_i front rest he
      split
      · rename_i stopped
        rw [ih, count, count, ← Heap.countP_of_perm (Heap.perm_pop he), Array.countP_push]
        simp [stopped]
      · rfl
    · rfl

theorem count_tidy (s : Schedule τ α) : s.tidy.count q = s.count q := by
  unfold Schedule.tidy
  split
  · unfold count Heap.ofArray
    rw [Heap.countP_of_perm (Heap.perm_settleBelow ..), Array.countP_filter]
    refine congrArg (Array.countP · s.timers) (funext fun t => ?_)
    cases t.stopped <;> simp
  · exact count_trim s _

/-- **What is taken off is no longer there**, and nothing else is gone. -/
theorem count_take (s : Schedule τ α) (isDue : τ → Bool) :
    (s.take isDue).1.countP q + (s.take isDue).2.count q = s.count q := by
  have taken (n : Nat) (s : Schedule τ α) :
      (s.takeFor isDue n).1.countP q + (s.takeFor isDue n).2.count q = s.count q := by
    induction n generalizing s with
    | zero => exact Nat.zero_add _
    | succ n ih =>
      rw [takeFor]
      split
      · rename_i front rest he
        have split : s.count q = ({ s with timers := rest } : Schedule τ α).count q +
            if !front.stopped && q front.due then 1 else 0 := by
          rw [count, ← Heap.countP_of_perm (Heap.perm_pop he), Array.countP_push]
          rfl
        have later := ih { s with timers := rest }
        split
        · cases stopped : front.stopped
          · simp only [Bool.false_eq_true, if_false, List.countP_cons]
            simp only [stopped, Bool.not_false, Bool.true_and] at split
            omega
          · simp only [if_true]
            simp only [stopped, Bool.not_true, Bool.false_and, Bool.false_eq_true,
              if_false] at split
            omega
        · exact Nat.zero_add _
      · exact Nat.zero_add _
  exact taken _ s

omit [LT τ] [DecidableLT τ] in
/-- Where there is no next deadline, no timer runs. -/
theorem count_of_next? (h : s.next? = none) : s.count q = 0 := by
  rw [Schedule.next?, Option.map_eq_none_iff, Array.getElem?_eq_none_iff] at h
  rw [count, Array.eq_empty_of_size_eq_zero (Nat.le_zero.mp h), Array.countP_empty]

end Schedule

end Contents

/-! ## The order -/

section Order

variable {τ α : Type} [LT τ]

/-- One time comes before another or not, never the other way round too; and what comes before
another time comes before any number, or that comes before the other. -/
structure Comparable (τ : Type) [LT τ] (IsTime : τ → Prop) : Prop where
  asymm {a b : τ} : a < b → ¬ b < a
  between {a b c : τ} : IsTime b → a < c → a < b ∨ b < c

/-- Not coming before something goes on through a time. -/
theorem Comparable.trans {IsTime : τ → Prop} (order : Comparable τ IsTime) {a b c : τ}
    (hb : IsTime b) (hab : ¬ a < b) (hbc : ¬ b < c) : ¬ a < c :=
  fun h => (order.between hb h).elim hab hbc

namespace Heap

/-- The timer at one place does not run out after the one at another. -/
def Leads (h : Array (Timer τ α)) (p i : Nat) : Prop :=
  ∀ t ∈ h[i]?, ∀ u ∈ h[p]?, ¬ t.deadline < u.deadline

/-- No timer runs out before the one above it. -/
def Ordered (h : Array (Timer τ α)) : Prop := ∀ i, 0 < i → Leads h ((i - 1) / 2) i

/-- All deadlines in the heap are times. -/
def Timed (IsTime : τ → Prop) (h : Array (Timer τ α)) : Prop := ∀ t ∈ h, IsTime t.deadline

/-- The heap is in order but for the timer at one place, which may be too far down. -/
structure Rises (h : Array (Timer τ α)) (i : Nat) : Prop where
  others (j : Nat) : 0 < j → j ≠ i → Leads h ((j - 1) / 2) j
  across (j : Nat) : 0 < j → (j - 1) / 2 = i → 0 < i → Leads h ((i - 1) / 2) j

/-- The heap is in order but for the timer at one place, which may be anywhere. -/
structure Sinks (h : Array (Timer τ α)) (i : Nat) : Prop where
  others (j : Nat) : 0 < j → j ≠ i → (j - 1) / 2 ≠ i → Leads h ((j - 1) / 2) j
  across (j : Nat) : 0 < j → (j - 1) / 2 = i → 0 < i → Leads h ((i - 1) / 2) j

/-- Where the timer at place `k` comes from when two have changed places. -/
def swapped (i j k : Nat) : Nat := if k = i then j else if k = j then i else k

theorem swapped_left (i j : Nat) : swapped i j i = j := if_pos rfl

theorem swapped_right (i j : Nat) : swapped i j j = i := by
  unfold swapped
  split
  · assumption
  · rw [if_pos rfl]

theorem swapped_of_ne {i j k : Nat} (hi : k ≠ i) (hj : k ≠ j) : swapped i j k = k := by
  rw [swapped, if_neg hi, if_neg hj]

theorem leads_swap {h : Array (Timer τ α)} {i j : Nat} {hi : i < h.size} {hj : j < h.size}
    {p k : Nat} :
    Leads (h.swap i j hi hj) p k ↔ Leads h (swapped i j p) (swapped i j k) := by
  have at_place (k : Nat) : (h.swap i j hi hj)[k]? = h[swapped i j k]? := by
    rw [Array.getElem?_swap, swapped]
    split
    · rename_i e
      subst e
      split
      · rename_i e
        subst e
        exact (Array.getElem?_eq_getElem hi).symm
      · rw [if_pos rfl]
        exact (Array.getElem?_eq_getElem hi).symm
    · rename_i ne
      split
      · rename_i e
        rw [if_pos e.symm]
        exact (Array.getElem?_eq_getElem hj).symm
      · rename_i ne'
        rw [if_neg (Ne.symm ne'), if_neg (Ne.symm ne)]
  unfold Leads
  rw [at_place, at_place]

variable {IsTime : τ → Prop} {h : Array (Timer τ α)}

omit [LT τ] in
theorem Timed.of_perm {h' : Array (Timer τ α)} (times : Timed IsTime h) (perm : h'.Perm h) :
    Timed IsTime h' := fun t ht => times t (perm.mem_iff.mp ht)

theorem Leads.trans (order : Comparable τ IsTime) (times : Timed IsTime h) {p k i : Nat}
    (inside : k < h.size) (first : Leads h p k) (second : Leads h k i) : Leads h p i := by
  intro t ht u hu
  have there : h[k]? = some h[k] := Array.getElem?_eq_getElem inside
  exact order.trans (times _ (Array.getElem_mem inside)) (second t ht _ there) (first _ there u hu)

/-- **The front runs out first.** -/
theorem front_least (order : Comparable τ IsTime) (ordered : Ordered h) (times : Timed IsTime h)
    {front t : Timer τ α} (hf : h[0]? = some front) (ht : t ∈ h) :
    ¬ t.deadline < front.deadline := by
  obtain ⟨i, hi, rfl⟩ := Array.mem_iff_getElem.mp ht
  have leads : Leads h 0 i := by
    induction i using Nat.strongRecOn with
    | ind i ih =>
      rcases Nat.eq_zero_or_pos i with rfl | pos
      · intro t ht u hu
        rw [ht] at hu
        cases hu
        exact fun self => order.asymm self self
      · have up : (i - 1) / 2 < h.size := by omega
        exact .trans order times up (ih _ (by omega) up (Array.getElem_mem up)) (ordered i pos)
  exact leads _ (Array.getElem?_eq_getElem hi) _ hf

variable [DecidableLT τ]

theorem not_isBefore {t u : Timer τ α} : ¬ t.isBefore u = true ↔ ¬ t.deadline < u.deadline :=
  not_congr decide_eq_true_iff

theorem leads_getElem {p i : Nat} (hp : p < h.size) (hi : i < h.size) :
    Leads h p i ↔ ¬ h[i].isBefore h[p] = true := by
  rw [not_isBefore]
  unfold Leads
  rw [Array.getElem?_eq_getElem hp, Array.getElem?_eq_getElem hi]
  simp

/-- **A timer that is too far down finds its place.** -/
theorem ordered_rise (order : Comparable τ IsTime) (times : Timed IsTime h) {i : Nat}
    (hole : Rises h i) : Ordered (rise 0 h i) := by
  fun_induction rise 0 h i with
  | case1 h i inside before ih =>
    have above : (i - 1) / 2 < i := by omega
    -- the timer that moves up is before the one it passes, and so is not behind any under that
    have passed : Leads h i ((i - 1) / 2) := by
      rw [leads_getElem inside.2 (by omega), not_isBefore]
      exact order.asymm (decide_eq_true_iff.mp before)
    have through {p j : Nat} := @Leads.trans _ _ _ _ _ order times p ((i - 1) / 2) j (by omega)
    refine ih (times.of_perm (Array.swap_perm ..)) ⟨fun j hj ne => ?_, fun j hj under hi => ?_⟩
    · rw [leads_swap]
      by_cases ji : j = i
      · subst ji
        rw [swapped_left, swapped_right]
        exact passed
      rw [swapped_of_ne ji ne]
      have old := hole.others j hj ji
      by_cases under_i : (j - 1) / 2 = i
      · rw [under_i, swapped_left]
        exact hole.across j hj under_i (by omega)
      by_cases under_p : (j - 1) / 2 = (i - 1) / 2
      · rw [under_p, swapped_right]
        exact through passed (under_p ▸ old)
      · rwa [swapped_of_ne under_i under_p]
    · have upper := hole.others _ hi (by omega)
      rw [leads_swap, @swapped_of_ne _ _ (((i - 1) / 2 - 1) / 2) (by omega) (by omega)]
      by_cases ji : j = i
      · subst ji
        rwa [swapped_left]
      · rw [swapped_of_ne ji (by omega)]
        exact through upper (under ▸ hole.others j hj ji)
  | case2 h i inside before =>
    intro j hj
    by_cases ji : j = i
    · subst ji
      exact (leads_getElem (by omega) inside.2).mpr before
    · exact hole.others j hj ji
  | case3 h i outside =>
    intro j hj
    by_cases ji : j = i
    · subst ji
      rw [Leads, Array.getElem?_eq_none (by omega)]
      rintro _ ⟨⟩
    · exact hole.others j hj ji

/-- The earlier one of the two under a place is not behind the other. -/
theorem leads_childOf (order : Comparable τ IsTime) {i j : Nat} (hj : 0 < j)
    (under : (j - 1) / 2 = i) (ne : j ≠ childOf h i) : Leads h (childOf h i) j := by
  intro t ht u hu
  unfold childOf at ne hu
  split at ne
  · rename_i l r hl hr
    rw [hl, hr] at hu
    simp only at hu
    split at ne
    · rename_i before
      obtain rfl : j = 2 * i + 2 := by omega
      rw [if_pos before, hl] at hu
      rw [hr] at ht
      cases ht
      cases hu
      exact order.asymm (decide_eq_true_iff.mp before)
    · rename_i before
      obtain rfl : j = 2 * i + 1 := by omega
      rw [if_neg before, hr] at hu
      rw [hl] at ht
      cases ht
      cases hu
      exact not_isBefore.mp before
  · rename_i single
    obtain rfl : j = 2 * i + 2 := by omega
    have first : 2 * i + 1 < h.size := by
      have := (Array.getElem?_eq_some_iff.mp ht).1
      omega
    exact absurd ht (single _ _ (Array.getElem?_eq_getElem first))

/-- What moves down to the bottom leaves the others in order. -/
theorem rises_sink (order : Comparable τ IsTime) {i : Nat} (hole : Sinks h i) :
    Rises (sink h i).1 (sink h i).2 := by
  fun_induction sink h i with
  | case1 h i inside hc ih =>
    have child := childOf_eq h i
    refine ih ⟨fun j hj ne not_under => ?_, fun j hj under _ => ?_⟩
    · rw [leads_swap]
      by_cases ji : j = i
      · subst ji
        rw [swapped_left, swapped_of_ne (by omega) (by omega)]
        exact hole.across _ (by omega) (by omega) hj
      rw [swapped_of_ne ji ne]
      by_cases under : (j - 1) / 2 = i
      · rw [under, swapped_left]
        exact leads_childOf order hj under ne
      · rw [swapped_of_ne under not_under]
        exact hole.others j hj ji under
    · have up : (childOf h i - 1) / 2 = i := by omega
      rw [leads_swap, up, swapped_left, swapped_of_ne (by omega) (by omega), ← under]
      exact hole.others j hj (by omega) (by omega)
  | case2 h i bottom =>
    refine ⟨fun j hj ne => ?_, hole.across⟩
    by_cases under : (j - 1) / 2 = i
    · have outside : h.size ≤ j := by omega
      rw [Leads, Array.getElem?_eq_none outside]
      rintro _ ⟨⟩
    · exact hole.others j hj ne under

theorem ordered_push (order : Comparable τ IsTime) (ordered : Ordered h) (times : Timed IsTime h)
    {t : Timer τ α} (ht : IsTime t.deadline) : Ordered (rise 0 (h.push t) h.size) := by
  refine ordered_rise order (fun u hu => ?_) ⟨fun j hj ne => ?_, fun j _ under _ => ?_⟩
  · rcases Array.mem_push.mp hu with there | rfl
    · exact times u there
    · exact ht
  · intro u hu v hv
    rw [Array.getElem?_push, if_neg ne] at hu
    have := (Array.getElem?_eq_some_iff.mp hu).1
    rw [Array.getElem?_push, if_neg (by omega)] at hv
    exact ordered j hj u hu v hv
  · rw [Leads, Array.getElem?_eq_none (by rw [Array.size_push]; omega)]
    rintro _ ⟨⟩

/-- Taking the front off leaves the others in order. -/
theorem ordered_pop (order : Comparable τ IsTime) (ordered : Ordered h) (times : Timed IsTime h)
    {front : Timer τ α} {rest : Array (Timer τ α)} (e : pop? h = some (front, rest)) :
    Ordered rest := by
  have fewer : Timed IsTime rest := fun t ht => times t ((mem_pop e).mpr (.inr ht))
  obtain ⟨first, hf, he⟩ := Option.map_eq_some_iff.mp e
  obtain ⟨-, rfl⟩ := Prod.mk.inj he
  obtain ⟨pos, -⟩ := Array.getElem?_eq_some_iff.mp hf
  refine ordered_rise order (fewer.of_perm (perm_rise ..).symm) (rises_sink order ⟨?_, ?_⟩)
  · intro j hj _ not_under
    -- away from the root the places hold what they held
    have same {k : Nat} (hk : 0 < k) : ∀ t ∈ (h.swapIfInBounds 0 (h.size - 1)).pop[k]?,
        h[k]? = some t := by
      intro t ht
      rw [Option.mem_def, Array.getElem?_pop] at ht
      split at ht
      · rename_i before
        rw [Array.size_swapIfInBounds] at before
        rw [Array.swapIfInBounds_def, dif_pos pos, dif_pos (by omega), Array.getElem?_swap,
          if_neg (by omega), if_neg (by omega)] at ht
        exact ht
      · cases ht
    exact fun t ht u hu => ordered j hj t (same hj t ht) u (same (by omega) u hu)
  · exact fun _ _ _ none => absurd none (Nat.lt_irrefl 0)

omit [LT τ] [DecidableLT τ] in
theorem getElem?_swap_of_lt {p i k : Nat} {hi : i < h.size} {hp : p < h.size} (between : p < i)
    (before : k < p) : (h.swap i p hi hp)[k]? = h[k]? := by
  rw [Array.getElem?_swap, if_neg (by omega), if_neg (by omega)]

/-- A timer that rises to the front runs out before the one that was there. -/
theorem front_rise {i : Nat} {front : Timer τ α} (hf : (rise 0 h i)[0]? = some front) :
    h[0]? = some front ∨
      h[i]? = some front ∧ ∀ first ∈ h[0]?, front.deadline < first.deadline := by
  fun_induction rise 0 h i with
  | case1 h i inside before ih =>
    have there : h[i]? = some h[i] := Array.getElem?_eq_getElem inside.2
    have moved : (h.swap i ((i - 1) / 2) inside.2 (by omega))[(i - 1) / 2]? = some h[i] := by
      rw [Array.getElem?_swap, if_pos rfl]
    rcases Nat.eq_zero_or_pos ((i - 1) / 2) with root | below
    · obtain rfl : h[i] = front := by
        rcases ih hf with first | ⟨first, -⟩
        · rw [Array.getElem?_swap, if_pos root] at first
          exact Option.some.inj first
        · exact Option.some.inj (moved.symm.trans first)
      refine .inr ⟨there, fun first hfirst => ?_⟩
      rw [← root, Array.getElem?_eq_getElem (by omega)] at hfirst
      cases hfirst
      exact decide_eq_true_iff.mp before
    · rw [getElem?_swap_of_lt (by omega) below, moved, ← there] at ih
      exact ih hf
  | case2 h i _ _ => exact .inl hf
  | case3 h i _ => exact .inl hf

end Heap

namespace Schedule

variable {IsTime : τ → Prop} {s : Schedule τ α}

/-- A schedule with times alone, the next one at the front. -/
structure InOrder (IsTime : τ → Prop) (s : Schedule τ α) : Prop where
  ordered : Heap.Ordered s.timers
  times : Heap.Timed IsTime s.timers

theorem InOrder.empty : ({} : Schedule τ α).InOrder IsTime where
  ordered i _ t ht := by cases ht
  times t ht := absurd ht (Array.not_mem_empty t)

variable [DecidableLT τ]

theorem InOrder.add (order : Comparable τ IsTime) (h : s.InOrder IsTime) {deadline : τ}
    (time : IsTime deadline) (due : α) : (s.add deadline due).InOrder IsTime := by
  refine ⟨Heap.ordered_push order h.ordered h.times time, fun t ht => ?_⟩
  rcases (mem_add s deadline due t).mp ht with there | rfl
  · exact h.times t there
  · exact time

/-- **A timer that is added comes to the front just if it runs out before all others.** -/
theorem front_add (order : Comparable τ IsTime) (h : s.InOrder IsTime) {deadline : τ} {due : α}
    {front : Timer τ α} (hf : (s.add deadline due).timers[0]? = some front) :
    front ∈ s.timers ∨
      front = { deadline, due } ∧ ∀ t ∈ s.timers, deadline < t.deadline := by
  have pushed {i : Nat} := @Array.getElem?_push _ i s.timers { deadline, due }
  rcases Nat.eq_zero_or_pos s.timers.size with empty | filled
  · rcases (mem_add s deadline due front).mp (Array.mem_of_getElem? hf) with there | rfl
    · exact .inl there
    · refine .inr ⟨rfl, fun t ht => ?_⟩
      have := Array.size_pos_of_mem ht
      omega
  · have first : (s.timers.push { deadline, due })[0]? = some s.timers[0] := by
      rw [pushed, if_neg (by omega), Array.getElem?_eq_getElem filled]
    rcases Heap.front_rise hf with same | ⟨new, before⟩
    · rw [first] at same
      cases same
      exact .inl (Array.getElem_mem filled)
    · rw [pushed, if_pos rfl] at new
      cases new
      refine .inr ⟨rfl, fun t ht => ?_⟩
      have least := Heap.front_least order h.ordered h.times
        (Array.getElem?_eq_getElem filled) ht
      exact (order.between (h.times t ht) (before _ first)).resolve_right least

/-- **What is due is taken off the front one by one.** -/
theorem take_cases (order : Comparable τ IsTime) (h : s.InOrder IsTime) (isDue : τ → Bool) :
    (s.take isDue = ([], s) ∧ ∀ front ∈ s.timers[0]?, isDue front.deadline = false) ∨
      ∃ (front : Timer τ α) (rest : Schedule τ α), s.timers[0]? = some front ∧
        isDue front.deadline = true ∧ (rest.timers.push front).Perm s.timers ∧
        rest.InOrder IsTime ∧
        s.take isDue = (if front.stopped then (rest.take isDue).1
          else front.due :: (rest.take isDue).1, (rest.take isDue).2) := by
  cases first : s.timers[0]? with
  | none =>
    left
    have empty : s.timers.size = 0 := by
      have := Array.getElem?_eq_none_iff.mp first
      omega
    refine ⟨?_, ?_⟩
    · rw [take, empty]
      rfl
    · rintro _ ⟨⟩
  | some front =>
    obtain ⟨filled, -⟩ := Array.getElem?_eq_some_iff.mp first
    obtain ⟨rest, popped⟩ : ∃ rest, Heap.pop? s.timers = some (front, rest) :=
      ⟨_, by rw [Heap.pop?, first]; rfl⟩
    have perm := Heap.perm_pop popped
    have size : s.timers.size = rest.size + 1 := by
      rw [← perm.size_eq, Array.size_push]
    rw [take, size, takeFor, popped]
    simp only
    split
    · rename_i due
      refine .inr ⟨front, { s with timers := rest }, rfl, due, perm, ⟨?_, ?_⟩, rfl⟩
      · exact Heap.ordered_pop order h.ordered h.times popped
      · exact fun t ht => h.times t ((Heap.mem_pop popped).mpr (.inr ht))
    · rename_i not_due
      refine .inl ⟨rfl, ?_⟩
      rintro _ ⟨⟩
      exact Bool.eq_false_iff.mpr not_due

end Schedule

end Order

end ProbeBench
