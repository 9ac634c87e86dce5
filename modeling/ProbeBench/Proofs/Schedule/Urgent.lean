import ProbeBench.Proofs.Schedule

/-!
# What is due comes first

A timer that runs out before all others comes to the front of the heap, and a later one that is
added behind it does not pass it. So what is due is taken off at once, and what was stopped or is
not due yet stays where it is, or goes without being noticed.

* `Heap.rise_front`, `Heap.rise_push`: adding a timer that comes first, and one that does not.
* `leads_add`, `Leads.add`, `Leads.tidy`: what stands at the front.
* `take_of_not_due`, `Leads.take_one`, `Leads.take_two`: nothing is due, one timer, or two.
-/

namespace ProbeBench

variable {τ α : Type} [LT τ] [DecidableLT τ]

namespace Heap

/-- A timer that runs out before all others rises to the front. -/
theorem rise_front {h : Array (Timer τ α)} {i : Nat} {t : Timer τ α} (there : h[i]? = some t)
    (least : ∀ j u, j ≠ i → h[j]? = some u → t.isBefore u = true) :
    (rise 0 h i)[0]? = some t := by
  fun_induction rise 0 h i with
  | case1 h i hi before ih =>
    have other : (i - 1) / 2 ≠ i := by omega
    have same : h[i] = t := by
      rw [Array.getElem?_eq_getElem hi.2] at there
      exact Option.some.inj there
    refine ih ?_ fun j u ne hu => ?_
    · rw [Array.getElem?_swap]
      simp [same]
    · rw [Array.getElem?_swap] at hu
      split at hu
      · exact absurd ‹_› (Ne.symm ne)
      · split at hu
        · exact least _ u other (by rw [← hu, Array.getElem?_eq_getElem])
        · exact least j u (Ne.symm ‹_›) hu
  | case2 h i hi notBefore =>
    have inside : (i - 1) / 2 < h.size := by omega
    have same : h[i] = t := by
      rw [Array.getElem?_eq_getElem hi.2] at there
      exact Option.some.inj there
    have := least ((i - 1) / 2) h[(i - 1) / 2] (by omega) (Array.getElem?_eq_getElem inside)
    rw [same] at notBefore
    exact absurd this notBefore
  | case3 h i stop =>
    have inside : i < h.size := (Array.getElem?_eq_some_iff.mp there).1
    have zero : i = 0 := by omega
    rw [← zero]
    exact there

/-- A timer that does not run out before any other stays behind them. -/
theorem rise_push {h : Array (Timer τ α)} {t : Timer τ α}
    (last : ∀ u ∈ h, t.isBefore u = false) : rise 0 (h.push t) h.size = h.push t := by
  rw [rise]
  split
  · rename_i hi
    have inside : (h.size - 1) / 2 < h.size := by omega
    have := last h[(h.size - 1) / 2] (Array.getElem_mem inside)
    rw [if_neg]
    rw [Array.getElem_push_eq, Array.getElem_push_lt inside, this]
    exact Bool.false_ne_true
  · rfl

/-- The front of a heap is taken off first. -/
theorem pop?_eq {h : Array (Timer τ α)} {front : Timer τ α} (hf : h[0]? = some front) :
    ∃ rest, pop? h = some (front, rest) ∧ rest.size + 1 = h.size := by
  refine ⟨settle ((h.swapIfInBounds 0 (h.size - 1)).pop) 0, by rw [pop?, hf]; rfl, ?_⟩
  have filled := (Array.getElem?_eq_some_iff.mp hf).1
  rw [(perm_settle ..).size_eq, Array.size_pop, Array.size_swapIfInBounds]
  omega

/-- Two timers are in order. -/
theorem ofArray_pair {t u : Timer τ α} (before : t.isBefore u = true) :
    ofArray #[t, u] = #[t, u] := by
  simp [ofArray, settleBelow, settle, sink, childOf, rise, before]

theorem ofArray_singleton (t : Timer τ α) : ofArray #[t] = #[t] := by
  simp [ofArray, settleBelow]

end Heap

namespace Schedule

variable {s : Schedule τ α}

/-- A front that was not stopped is not trimmed off. -/
theorem trim_of_live {front : Timer τ α} (hf : s.timers[0]? = some front)
    (live : front.stopped = false) (n : Nat) : s.trim n = s := by
  cases n with
  | zero => rfl
  | succ n =>
    obtain ⟨rest, popped, _⟩ := Heap.pop?_eq hf
    simp [trim, popped, live]

theorem mem_trim {n : Nat} {t : Timer τ α} (h : t ∈ (s.trim n).timers) : t ∈ s.timers := by
  induction n generalizing s with
  | zero => exact h
  | succ n ih =>
    rw [trim] at h
    split at h
    · rename_i front rest popped
      split at h
      · exact (Heap.mem_pop popped).mpr (.inr (ih h))
      · exact h
    · exact h

/-- Tidying adds nothing. -/
theorem mem_tidy {t : Timer τ α} (h : t ∈ s.tidy.timers) : t ∈ s.timers := by
  unfold tidy at h
  split at h
  · exact (Array.mem_filter.mp (Heap.mem_ofArray.mp h)).1
  · exact mem_trim h

theorem takeFor_of_not_due {isDue : τ → Bool} (later : ∀ t ∈ s.timers, isDue t.deadline = false)
    (n : Nat) : s.takeFor isDue n = ([], s) := by
  cases n with
  | zero => rfl
  | succ n =>
    rw [takeFor]
    split
    · rename_i front rest popped
      have there : front ∈ s.timers := (Heap.mem_pop popped).mpr (.inl rfl)
      rw [if_neg (by simp [later front there])]
    · rfl

/-- **Where nothing is due, nothing is taken off.** -/
theorem take_of_not_due {isDue : τ → Bool} (later : ∀ t ∈ s.timers, isDue t.deadline = false) :
    s.take isDue = ([], s) :=
  takeFor_of_not_due later _

/-! ## What comes first -/

/-- A timer stands at the front, and these others behind it. -/
def Leads (s : Schedule τ α) (front : Timer τ α) (others : List (Timer τ α)) : Prop :=
  s.timers.toList = front :: others

variable {front : Timer τ α} {others : List (Timer τ α)}

omit [LT τ] [DecidableLT τ] in
theorem Leads.getElem?_zero (h : s.Leads front others) : s.timers[0]? = some front := by
  rw [← Array.getElem?_toList, h]
  rfl

/-- A timer that runs out before all others is added at the front. -/
theorem leads_add {deadline : τ} (due : α) (least : ∀ t ∈ s.timers, deadline < t.deadline) :
    ∃ others, (s.add deadline due).Leads ⟨deadline, due, false⟩ others ∧
      ∀ t ∈ others, t ∈ s.timers := by
  let timer : Timer τ α := ⟨deadline, due, false⟩
  have there : (s.timers.push timer)[s.timers.size]? = some timer := Array.getElem?_push_size
  have first : (s.add deadline due).timers[0]? = some timer := by
    refine Heap.rise_front there fun j u ne hu => ?_
    have inside : j < s.timers.size := by
      have := (Array.getElem?_eq_some_iff.mp hu).1
      rw [Array.size_push] at this
      omega
    rw [Array.getElem?_push_lt inside] at hu
    have mem : u ∈ s.timers := Option.some.inj hu ▸ Array.getElem_mem inside
    exact decide_eq_true (least u mem)
  have perm : (s.add deadline due).timers.toList.Perm (timer :: s.timers.toList) := by
    refine ((Heap.perm_rise ..).toList).trans ?_
    rw [Array.toList_push]
    exact List.perm_append_singleton _ _
  obtain ⟨others, ho⟩ : ∃ others, (s.add deadline due).timers.toList = timer :: others :=
    List.head?_eq_some_iff.mp (by rw [List.head?_eq_getElem?, Array.getElem?_toList, first])
  refine ⟨others, ho, fun t ht => ?_⟩
  rw [ho] at perm
  exact Array.mem_toList_iff.mp ((perm.cons_inv).mem_iff.mp ht)

/-- A timer that runs out before no other is added behind them. -/
theorem Leads.add (h : s.Leads front others) {deadline : τ} (due : α)
    (last : ∀ t ∈ s.timers, ¬ deadline < t.deadline) :
    (s.add deadline due).Leads front (others ++ [⟨deadline, due, false⟩]) := by
  have behind : (s.add deadline due).timers = s.timers.push ⟨deadline, due, false⟩ :=
    Heap.rise_push fun u hu => decide_eq_false (last u hu)
  rw [Leads, behind, Array.toList_push, h]
  rfl

/-- There is nothing to tidy up behind a front that was not stopped, as long as there is no
crowd. -/
theorem Leads.tidy_of_few (h : s.Leads front others) (live : front.stopped = false)
    (few : others.length < crowd) : s.tidy = s := by
  have size : s.timers.size = others.length + 1 := by
    rw [← Array.length_toList, h]
    rfl
  rw [Schedule.tidy, if_neg (by omega)]
  exact trim_of_live h.getElem?_zero live _

/-- Among stopped timers, tidying leaves the front and the last one where they are. -/
theorem Leads.tidy {stale tail : List (Timer τ α)} (h : s.Leads front (stale ++ tail))
    (live : front.stopped = false) (stopped : ∀ t ∈ stale, t.stopped = true)
    (last : tail = [] ∨ ∃ t, tail = [t] ∧ t.stopped = false ∧
      (stale = [] ∨ front.isBefore t = true)) :
    ∃ others, s.tidy.Leads front others ∧ ∀ t ∈ others, t ∈ stale ++ tail := by
  unfold Schedule.tidy
  split
  · rename_i crowded
    have none_live : stale.filter (fun t => !t.stopped) = [] := by
      rw [List.filter_eq_nil_iff]
      intro t ht
      simp [stopped t ht]
    have kept : (s.timers.filter (fun t => !t.stopped)).toList =
        front :: tail.filter (fun t => !t.stopped) := by
      rw [Array.toList_filter, h, List.filter_cons_of_pos (by simp [live]), List.filter_append,
        none_live, List.nil_append]
    rcases last with rfl | ⟨t, rfl, alive, early⟩
    · refine ⟨[], ?_, fun _ ht => absurd ht List.not_mem_nil⟩
      have one : s.timers.filter (fun t => !t.stopped) = #[front] := Array.ext' kept
      rw [Leads, one, Heap.ofArray_singleton]
    · have before : front.isBefore t = true := by
        rcases early with rfl | before
        · have size := congrArg List.length h
          simp at size
          have : crowd = 100 := rfl
          omega
        · exact before
      refine ⟨[t], ?_, fun u hu => List.mem_append_right _ hu⟩
      have two : s.timers.filter (fun t => !t.stopped) = #[front, t] := by
        refine Array.ext' (kept.trans ?_)
        simp [alive]
      rw [Leads, two, Heap.ofArray_pair before]
  · exact ⟨_, by rw [trim_of_live h.getElem?_zero live]; exact h, fun _ ht => ht⟩

/-- A front that is due is taken off, and then what is due of the others. -/
theorem Leads.take {isDue : τ → Bool} (h : s.Leads front others) (live : front.stopped = false)
    (due : isDue front.deadline = true) :
    ∃ rest : Schedule τ α, s.take isDue =
        (front.due :: (rest.takeFor isDue others.length).1,
          (rest.takeFor isDue others.length).2) ∧ rest.timers.toList.Perm others := by
  obtain ⟨rest, popped, _⟩ := Heap.pop?_eq h.getElem?_zero
  have size : s.timers.size = others.length + 1 := by
    rw [← Array.length_toList, h]
    rfl
  refine ⟨{ s with timers := rest }, ?_, ?_⟩
  · rw [Schedule.take, size, takeFor]
    simp [popped, due, live]
  · have perm := (Heap.perm_pop popped).toList
    rw [h, Array.toList_push] at perm
    exact ((List.perm_append_singleton front _).symm.trans perm).cons_inv

/-- **One timer is due**: it is taken off, and the others stay. -/
theorem Leads.take_one {isDue : τ → Bool} (h : s.Leads front others) (live : front.stopped = false)
    (due : isDue front.deadline = true) (later : ∀ t ∈ others, isDue t.deadline = false) :
    ∃ s', s.take isDue = ([front.due], s') ∧ ∀ t ∈ s'.timers, t ∈ others := by
  obtain ⟨rest, taken, perm⟩ := h.take live due
  have mem {t : Timer τ α} (ht : t ∈ rest.timers) : t ∈ others :=
    perm.mem_iff.mp (Array.mem_toList_iff.mpr ht)
  rw [takeFor_of_not_due fun t ht => later t (mem ht)] at taken
  exact ⟨rest, taken, fun t ht => mem ht⟩

/-- **Two timers are due**: both are taken off, and nothing stays. -/
theorem Leads.take_two {isDue : τ → Bool} {next : Timer τ α} (h : s.Leads front [next])
    (live : front.stopped = false) (due : isDue front.deadline = true)
    (live' : next.stopped = false) (due' : isDue next.deadline = true) :
    ∃ s', s.take isDue = ([front.due, next.due], s') ∧ s'.timers = #[] := by
  obtain ⟨rest, taken, perm⟩ := h.take live due
  have only : rest.Leads next [] := List.perm_singleton.mp perm
  obtain ⟨rest', popped, size⟩ := Heap.pop?_eq only.getElem?_zero
  have one : rest.timers.size = 1 := by
    rw [← Array.length_toList, only]
    rfl
  have none_left : rest' = #[] := Array.eq_empty_of_size_eq_zero (by omega)
  refine ⟨{ rest with timers := rest' }, ?_, none_left⟩
  rw [taken]
  simp [takeFor, popped, due', live']

end Schedule

end ProbeBench
