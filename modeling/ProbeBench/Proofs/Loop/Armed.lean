import ProbeBench.Proofs.Schedule.Clock
import ProbeBench.Proofs.Schedule.Urgent
import ProbeBench.Session.Loop

/-!
# The timers of a request that is answered at once

A request with a limit sets a timer, and the answer is scheduled for now. As long as the clock
stands, what earlier requests have left in the schedule are `Spent` timers: stopped, and running out
later than now. `armed` is the schedule behind a request, and `disarmed` the one behind its end.

* `Spent.take`: the answer is taken off the schedule first, and the timer with it if its limit is so
  short that it is due as well.
* `Pending.take`, `Pending.disarmed`: what stays, and that it is spent in the end.
-/

namespace ProbeBench.Loop

/-- A timer of a caller that runs out later than now. -/
structure Late (limit : Option Float) (t : Timer Float Ready) : Prop where
  deadline : ∃ x, limit = some x ∧ t.deadline = 0.0 + x
  later : isDueAt 0.0 t.deadline = false

/-- All timers are those of callers that have stopped waiting. -/
def Spent (limit : Option Float) (schedule : Schedule Float Ready) : Prop :=
  ∀ t ∈ schedule.timers, Late limit t ∧ (∃ i, t.due = .relay i) ∧ t.stopped = true

/-- … or the timer of the caller of request `id`. -/
def Pending (limit : Option Float) (id : Nat) (schedule : Schedule Float Ready) : Prop :=
  ∀ t ∈ schedule.timers, Late limit t ∧
    ((∃ i, t.due = .relay i) ∧ t.stopped = true ∨ t.due = .relay id)

/-- The schedule behind a request: the answer comes now, and the time of the request is over when
its limit says. -/
def armed (schedule : Schedule Float Ready) (d : Delivery) (id : Nat) :
    Option Float → Schedule Float Ready
  | none => schedule.add (0.0 + 0.0) (.deliver d)
  | some x => (schedule.add (0.0 + 0.0) (.deliver d)).add (0.0 + x) (.relay id)

/-- The schedule when a call goes on that has waited with the limit. -/
def disarmed (schedule : Schedule Float Ready) (id : Nat) : Option Float → Schedule Float Ready
  | none => schedule
  | some _ => schedule.stop (·.isRelay id)

variable {limit : Option Float} {id : Nat} {schedule : Schedule Float Ready}

theorem Pending.tidy (h : Pending limit id schedule) : Pending limit id schedule.tidy :=
  fun t ht => h t (Schedule.mem_tidy ht)

/-- Nothing of what is left is due. -/
theorem Pending.take (h : Pending limit id schedule) :
    schedule.tidy.take (isDueAt 0.0) = ([], schedule.tidy) :=
  Schedule.take_of_not_due fun t ht => (h.tidy t ht).1.later

/-- When its caller goes on, all timers are spent. -/
theorem Pending.disarmed (h : Pending limit id schedule) :
    Spent limit (disarmed schedule id limit) := by
  intro t ht
  cases limit with
  | none =>
    obtain ⟨_, no_limit, _⟩ := (h t ht).1.deadline
    cases no_limit
  | some x =>
    obtain ⟨u, hu, rfl⟩ := Array.mem_map.mp ht
    obtain ⟨late, state⟩ := h u hu
    have relay : ∃ i, u.due = .relay i := state.elim (·.1) fun own => ⟨id, own⟩
    by_cases hit : (!u.stopped && u.due.isRelay id) = true
    · rw [if_pos hit]
      exact ⟨⟨late.deadline, late.later⟩, relay, rfl⟩
    · rw [if_neg hit]
      refine ⟨late, relay, ?_⟩
      rcases state with ⟨_, stopped⟩ | own
      · exact stopped
      · simpa [own, Ready.isRelay] using hit

/-- The answer comes before all that is spent. -/
theorem Spent.leads (h : Spent limit schedule) (d : Delivery) :
    ∃ stale,
      (schedule.add (0.0 + 0.0) (.deliver d)).Leads { deadline := 0.0 + 0.0, due := .deliver d }
        stale ∧
      ∀ t ∈ stale, t ∈ schedule.timers :=
  Schedule.leads_add _ fun t ht => lt_of_not_isDueAt (h t ht).1.later

/-- Behind a request without a limit, the answer is due. -/
theorem Spent.take_answer (h : Spent none schedule) (d : Delivery) :
    ∃ schedule', (armed schedule d id none).tidy.take (isDueAt 0.0) = ([.deliver d], schedule') ∧
      Pending none id schedule' := by
  obtain ⟨stale, leads, mem⟩ := h.leads d
  have empty : stale = [] := by
    rw [List.eq_nil_iff_forall_not_mem]
    intro t ht
    obtain ⟨_, no_limit, _⟩ := (h t (mem t ht)).1.deadline
    cases no_limit
  subst empty
  have tidy := leads.tidy_of_few rfl (by decide)
  obtain ⟨schedule', taken, left⟩ := leads.take_one rfl isDueAt_zero (by simp)
  refine ⟨schedule', by rw [armed, tidy, taken], fun t ht => ?_⟩
  exact absurd (left t ht) List.not_mem_nil

/-- **Behind a request whose time is not over at once, the answer is taken off first**: alone, or
with the end of that time where the limit is so short that it is due now. -/
theorem Spent.take_armed {x : Float} (h : Spent (some x) schedule) (patient : ¬ x ≤ 0)
    (d : Delivery) :
    ∃ schedule', Pending (some x) id schedule' ∧
      ((armed schedule d id (some x)).tidy.take (isDueAt 0.0) = ([.deliver d], schedule') ∨
        (armed schedule d id (some x)).tidy.take (isDueAt 0.0) =
          ([.deliver d, .relay id], schedule')) := by
  obtain ⟨stale, leads, mem⟩ := h.leads d
  -- the time of the request is over after that of all others
  have last : ∀ t ∈ (schedule.add (0.0 + 0.0) (.deliver d)).timers,
      ¬ (0.0 + x : Float) < t.deadline := by
    intro t ht
    rcases (Schedule.mem_add ..).mp ht with old | rfl
    · obtain ⟨y, same, deadline⟩ := (h t old).1.deadline
      cases same
      rw [deadline]
      exact not_lt_self _
    · exact not_limit_lt patient
  have both := leads.add (.relay id) last
  cases due : isDueAt 0.0 (0.0 + x) with
  | true =>
    -- nothing is left of earlier requests, for it would be due as well
    have empty : stale = [] := by
      rw [List.eq_nil_iff_forall_not_mem]
      intro t ht
      obtain ⟨⟨⟨y, same, deadline⟩, later⟩, _⟩ := h t (mem t ht)
      cases same
      rw [deadline, due] at later
      cases later
    subst empty
    have tidy := both.tidy_of_few rfl (by simp [Schedule.crowd])
    obtain ⟨schedule', taken, left⟩ := both.take_two rfl isDueAt_zero rfl due
    refine ⟨schedule', fun t ht => ?_, .inr (by rw [armed, tidy, taken])⟩
    rw [left] at ht
    exact absurd ht (by simp)
  | false =>
    have before := decide_eq_true (lt_of_not_isDueAt due)
    obtain ⟨others, tidy, sub⟩ := both.tidy rfl (fun t ht => (h t (mem t ht)).2.2)
      (.inr ⟨_, rfl, rfl, .inr before⟩)
    have pending : ∀ t ∈ others, Late (some x) t ∧
        ((∃ i, t.due = .relay i) ∧ t.stopped = true ∨ t.due = .relay id) := by
      intro t ht
      rcases List.mem_append.mp (sub t ht) with old | own
      · obtain ⟨late, spent⟩ := h t (mem t old)
        exact ⟨late, .inl spent⟩
      · rw [List.mem_singleton.mp own]
        exact ⟨⟨⟨x, rfl, rfl⟩, due⟩, .inr rfl⟩
    obtain ⟨schedule', taken, left⟩ :=
      tidy.take_one rfl isDueAt_zero fun t ht => (pending t ht).1.later
    exact ⟨schedule', fun t ht => pending t (left t ht), .inl taken⟩

/-- **Behind a request the answer is taken off first**, and the end of its time at most with it. -/
theorem Spent.take (h : Spent limit schedule) (patient : ∀ x, limit = some x → ¬ x ≤ 0)
    (id : Nat) (d : Delivery) :
    ∃ schedule', Pending limit id schedule' ∧
      ((armed schedule d id limit).tidy.take (isDueAt 0.0) = ([.deliver d], schedule') ∨
        limit.isSome = true ∧
          (armed schedule d id limit).tidy.take (isDueAt 0.0) =
            ([.deliver d, .relay id], schedule')) := by
  cases limit with
  | none =>
    obtain ⟨schedule', taken, pending⟩ := h.take_answer d
    exact ⟨schedule', pending, .inl taken⟩
  | some x =>
    obtain ⟨schedule', pending, taken⟩ := h.take_armed (patient x rfl) d
    exact ⟨schedule', pending, taken.imp_right fun both => ⟨rfl, both⟩⟩

end ProbeBench.Loop
