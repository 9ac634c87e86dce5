import ProbeBench.Proofs.Session.Correlation
import ProbeBench.Proofs.Session.Response
import ProbeBench.Proofs.Session.Writing

/-!
# Requests that are withdrawn

A call that gives its request up withdraws it: it tells the server so. Nothing else writes a
withdrawal, apart from callers who send one themselves; so whether a request is withdrawn is a
question about its own call. What has become of its entry never comes back (`Session.Dwindles`): an
entry that has left the table stays away, and a caller who has stopped waiting does not begin again.
So from then on every response to the request is dropped.

* `Traffic.withdrawals`: how often a run withdraws a request.
* `Traffic.withdrawn_eq_zero`: only the call that gives the request up withdraws it.
* `Traffic.dwindles_run`: what is left of an entry after any run.
* `Session.dispatch_of_not_awaited`: what a late response does.
-/

namespace ProbeBench

/-- Whether a message withdraws request `n`. -/
def withdraws (n : Nat) (message : Members) : Bool :=
  match message.get? "method", (message.get? "params").bind (·.get? "id") with
  | some (.str method), some (.int id) => method = "$/cancelRequest" && id = n
  | _, _ => false

theorem withdraws_cancellation (n id : Nat) : withdraws n (cancellation id) = decide (id = n) := by
  have read : withdraws n (cancellation id) = decide ((id : Int) = n) := rfl
  rw [read]
  exact decide_eq_decide.mpr (by omega)

namespace Session

/-! ## Entries do not come back -/

/-- The entry of a request is there only if it was before, and its caller has stopped waiting if it
had before. -/
def Dwindles (n : Nat) (s s' : Session) : Prop :=
  ∀ e', s'.entryOf? n = some e' →
    ∃ e, s.entryOf? n = some e ∧ (e.expired = true → e'.expired = true)

variable {n : Nat} {s s' : Session}

theorem Dwindles.of_eq (h : s'.entryOf? n = s.entryOf? n) : Dwindles n s s' :=
  fun e he => ⟨e, h.symm.trans he, id⟩

theorem Dwindles.of_none (h : s'.entryOf? n = none) : Dwindles n s s' := by
  intro e he
  rw [h] at he
  cases he

theorem Dwindles.of_same (h : SameTable s s') : Dwindles n s s' := .of_eq (h.entryOf? n)

theorem Dwindles.refl (n : Nat) (s : Session) : Dwindles n s s := .of_eq rfl

theorem Dwindles.trans {t : Session} (h : Dwindles n s s') (h' : Dwindles n s' t) :
    Dwindles n s t := by
  intro e he
  obtain ⟨e', he', later⟩ := h' e he
  obtain ⟨e'', he'', first⟩ := h e' he'
  exact ⟨e'', he'', fun past => later (first past)⟩

/-- An entry that has left the table stays away. -/
theorem Dwindles.entryOf?_none (h : Dwindles n s s') (gone : s.entryOf? n = none) :
    s'.entryOf? n = none := by
  cases there : s'.entryOf? n with
  | none => rfl
  | some e =>
    obtain ⟨e', before, -⟩ := h e there
    rw [gone] at before
    cases before

/-- A response that nobody waits for has nobody waiting for it later. -/
theorem Dwindles.not_awaited (h : Dwindles n s s') (no : s.awaits n = false) :
    s'.awaits n = false := by
  unfold awaits at no ⊢
  cases there : s'.entryOf? n with
  | none => rfl
  | some e =>
    obtain ⟨e', before, past⟩ := h e there
    rw [before] at no
    simp only [Bool.not_eq_false'] at no
    simp [past no]

theorem dwindles_forget (n id : Nat) (s : Session) : Dwindles n s (s.forget id) := by
  by_cases same : id = n
  · subst same
    exact .of_none (entryOf?_forget_self s id)
  · exact .of_eq (entryOf?_forget_of_ne s same)

theorem dwindles_endWith (n : Nat) (s : Session) (ending : Ending) :
    Dwindles n s (s.endWith ending) := by
  rw [endWith_eq]
  exact .of_none rfl

theorem dwindles_act (old : n < s.nextId) (a : Act) : Dwindles n s (s.act a) := by
  by_cases plain : a.isPlain = true
  · exact .of_same (act_same s plain)
  · cases a with
    | register method =>
      refine .of_eq ?_
      rw [entryOf?, act, List.find?_append, List.find?_singleton, if_neg (by simp; omega),
        Option.or_none, entryOf?]
    | forget id => exact dwindles_forget n id s
    | conclude id => exact dwindles_forget n id s
    | expire id =>
      intro e he
      rw [entryOf?_expire] at he
      obtain ⟨d, hd, rfl⟩ := Option.map_eq_some_iff.mp he
      refine ⟨d, hd, fun past => ?_⟩
      split
      · rfl
      · exact past
    | close => exact (dwindles_endWith n s .closed).trans (.of_eq ((act_close_same s).entryOf? n))
    | _ => exact absurd rfl plain

theorem dwindles_along (n : Nat) : Along (Dwindles n) :=
  .of_steps (.refl n) .trans (fun noted => .of_same noted.same)
    (fun s _ _ _ => .of_same (act_same s rfl)) (fun s id => dwindles_forget n id s)
    (fun _ _ _ => .of_eq rfl)

theorem dwindles_absorb (n : Nat) (s : Session) (e : Traffic.Event) :
    Dwindles n s (s.absorb e) :=
  (dwindles_along n).absorb (dwindles_endWith n) (fun _ _ _ _ _ => .of_eq rfl)
    fun _ _ => .of_eq rfl

/-- **A response that nobody waits for is dropped**, and does nothing else: the entry of its request
goes with it if it is still there. -/
theorem dispatch_of_not_awaited {message : Members} (own : bearsId n message = true)
    (no : s.awaits n = false) :
    s.dispatch message = ((s.forget n).drop (message.get? "id"), none) := by
  obtain ⟨response, hid⟩ := bearsId_iff.mp own
  rw [dispatch_of_response response, respond_eq, addressee?_of_id hid]
  unfold awaits at no
  cases there : s.entryOf? n with
  | none =>
    have same : s.forget n = s := by
      have others : s.pending.filter (·.id ≠ n) = s.pending :=
        List.filter_eq_self.mpr fun e he => by
          simpa using List.find?_eq_none.mp there e he
      rw [forget, others]
    simp only [same]
  | some e =>
    rw [there] at no
    have mine : e.id = n := by simpa using List.find?_some there
    have past : e.expired = true := by simpa using no
    simp only [past, if_true, mine]

end Session

open Session

theorem Moves.dwindles {n : Nat} {s : Session} {own : Option Nat} {r : Session × Progress}
    (h : Moves s own r) (old : n < s.nextId) : Dwindles n s r.1 := by
  induction h with
  | rest _ => exact .refl n _
  | act a _ _ ih =>
    exact (dwindles_act old a).trans (ih (Nat.lt_of_lt_of_le old (act_nextId_le _ a)))

/-- A request that ends has no entry any more. -/
theorem Session.entryOf?_conclude {s : Session} {n : Nat} (old : n < s.nextId) (goal : Goal)
    (o : Outcome) : (s.conclude goal n o).1.entryOf? n = none := by
  have moves := proceed_moves (s.act (.conclude n)) goal o
  exact (moves.dwindles (n := n) old).entryOf?_none (entryOf?_forget_self s n)

namespace Traffic

variable {t : Traffic} {e : Event} {n : Nat}

theorem dwindles_step (old : n < t.session.nextId) (e : Event) :
    Dwindles n t.session (t.step e).session :=
  session_step (P := Dwindles n t.session) t e (fun moves => moves.dwindles old)
    (dwindles_absorb n _ e)

/-- **What has become of an entry never comes back**, whatever happens. -/
theorem dwindles_run (old : n < t.session.nextId) (events : List Event) :
    Dwindles n t.session (t.run events).session := by
  induction events generalizing t with
  | nil => exact .refl n _
  | cons e rest ih =>
    exact (dwindles_step old e).trans (ih (Nat.lt_of_lt_of_le old (t.nextId_step_le e)))

/-- A response that nobody waits for is dropped. -/
theorem step_of_not_awaited {message : Members}
    (own : bearsId n message = true) (no : t.session.awaits n = false) :
    t.step (.receive message) =
      { t with session := (t.session.forget n).drop (message.get? "id") } := by
  have hm : t.move? (.receive message) = none := rfl
  rw [step_of_none hm, Session.absorb, dispatch_of_not_awaited own no]

/-! ## Withdrawals -/

/-- What an event writes. -/
def news (t : Traffic) (e : Event) : List Members :=
  (t.step e).session.transport.wire.sent.drop t.session.transport.wire.sent.length

/-- How often an event withdraws a request. What a call writes when it begins is what its caller
says, and does not count. -/
def withdrawn (t : Traffic) (n : Nat) : Event → Nat
  | .call .. => 0
  | e => (t.news e).countP (withdraws n)

/-- How often a run withdraws a request. -/
def withdrawals (t : Traffic) (n : Nat) : List Event → Nat
  | [] => 0
  | e :: rest => t.withdrawn n e + (t.step e).withdrawals n rest

theorem withdrawals_append (t : Traffic) (n : Nat) (events more : List Event) :
    t.withdrawals n (events ++ more) =
      t.withdrawals n events + (t.run events).withdrawals n more := by
  induction events generalizing t with
  | nil => exact (Nat.zero_add _).symm
  | cons e rest ih => rw [List.cons_append, withdrawals, withdrawals, ih, run_cons, Nat.add_assoc]

theorem news_eq {new : List Members}
    (h : (t.step e).session.transport.wire.sent = t.session.transport.wire.sent ++ new) :
    t.news e = new := by
  rw [news, h, List.drop_left]

theorem withdrawn_eq (old : ∀ task call, e ≠ .call task call) :
    t.withdrawn n e = (t.news e).countP (withdraws n) := by
  cases e with
  | call task call => exact absurd rfl (old task call)
  | _ => rfl

/-- **An event that does not give a request up does not withdraw it.** -/
theorem withdrawn_eq_zero (h : t.givesUp? e ≠ some n) : t.withdrawn n e = 0 := by
  by_cases begins : ∃ task call, e = .call task call
  · obtain ⟨task, call, rfl⟩ := begins
    rfl
  · have old : ∀ task call, e ≠ .call task call := fun task call he => begins ⟨task, call, he⟩
    obtain ⟨new, grown, all⟩ := step_adds (P := fun m => withdraws n m = false) ⟨rfl, rfl⟩
      (fun _ _ => rfl) (t := t) old fun id hid => by
        rw [withdraws_cancellation]
        exact decide_eq_false fun same => h (same ▸ hid)
    rw [withdrawn_eq old, news_eq grown, List.countP_eq_zero]
    intro m hm
    rw [all m hm]
    exact Bool.false_ne_true

/-- What an event that gives a request up writes, on a stream that takes messages. -/
theorem withdrawn_of_giveUp {task : Nat} {s : Session} {goal : Goal} {failure : Failure}
    (old : ∀ task call, e ≠ .call task call)
    (hm : t.move? e = some (task, s.giveUp goal n failure)) (open_ : s.Open)
    (same : s.transport.wire.sent = t.session.transport.wire.sent) : t.withdrawn n e = 1 := by
  have written : (t.step e).session.transport.wire.sent =
      t.session.transport.wire.sent ++ [cancellation n] := by
    rw [step_of_move hm, giveUp_of_open open_, ← same]
    rfl
  rw [withdrawn_eq old, news_eq written, List.countP_singleton, withdraws_cancellation]
  simp

/-- A call gives up the request that it has made. -/
theorem own?_of_givesUp? (h : t.givesUp? e = some n) :
    ∃ task, (e = .goOn task ∨ e = .expire task) ∧ t.own? task = some n := by
  cases e with
  | goOn task =>
    refine ⟨task, .inl rfl, ?_⟩
    unfold givesUp? at h
    simp only at h
    split at h
    · rename_i hs
      cases h
      rw [own?, hs]
      rfl
    · cases h
  | expire task =>
    refine ⟨task, .inr rfl, ?_⟩
    unfold givesUp? at h
    simp only at h
    split at h
    · exact h
    · cases h
  | _ => cases h

theorem givesUp?_of_none (h : t.move? e = none) : t.givesUp? e = none := by
  cases e with
  | goOn task =>
    have idle : t.stage task = none := Option.map_eq_none_iff.mp h
    rw [givesUp?, idle]
  | expire task =>
    rw [givesUp?, h]
    rfl
  | _ => rfl

/-- Other calls do not give a request up. -/
theorem givesUp?_of_other (sound : t.Sound) {task k : Nat} (own : t.own? task = some n)
    {m : Session × Progress} (hm : t.move? e = some (k, m)) (other : k ≠ task) :
    t.givesUp? e ≠ some n := by
  intro h
  obtain ⟨k', he, own'⟩ := own?_of_givesUp? h
  obtain rfl := sound.apart _ _ n own' own
  rcases task_of_move? hm with ⟨c, rfl, -⟩ | rfl | rfl | ⟨fault, rfl⟩
  · rcases he with he | he <;> cases he
  · rcases he with he | he
    · cases he
      exact other rfl
    · cases he
  · rcases he with he | he
    · cases he
    · cases he
      exact other rfl
  · rcases he with he | he <;> cases he

end Traffic

open Traffic

/-- A request that will end in a certain way is not withdrawn any more. -/
theorem Decided.withdrawn {r : Asked} {o : Outcome} {k : Nat} {t : Traffic} (h : Decided r o k t)
    (e : Traffic.Event) : t.withdrawn r.id e = 0 := by
  refine withdrawn_eq_zero fun gives => ?_
  obtain ⟨task, he, own⟩ := own?_of_givesUp? gives
  obtain rfl := h.sound.apart _ _ _ own h.own
  rcases he with rfl | rfl
  · obtain ⟨stage, hs, -, ⟨stands, -⟩ | ⟨failure, -, rfl⟩⟩ := h.comes
    · rw [givesUp?, hs] at gives
      cases stands <;> cases gives
    · rw [givesUp?, hs] at gives
      cases gives
  · rw [givesUp?, h.move?_expire] at gives
    cases gives

/-- Nobody withdraws a request that has ended. -/
theorem Over.withdrawn {r : Asked} {t : Traffic} (h : Over r t) (e : Traffic.Event) :
    t.withdrawn r.id e = 0 := by
  refine withdrawn_eq_zero fun gives => ?_
  obtain ⟨task, -, own⟩ := own?_of_givesUp? gives
  exact h.gone task own

theorem Over.withdrawals {r : Asked} {t : Traffic} (h : Over r t) (events : List Traffic.Event) :
    t.withdrawals r.id events = 0 := by
  induction events generalizing t with
  | nil => rfl
  | cons e rest ih => rw [Traffic.withdrawals, h.withdrawn, ih (h.step e).1]

end ProbeBench
