import ProbeBench.Proofs.Session.Act

/-!
# The table of requests and their outcomes

What every change of a session does to one request: a request that waits (`Waiting`) has an entry in
the table and no outcome, one that is settled (`Settled`) has an outcome and no entry. The acts of
other calls leave both as they are, unless one of them closes the session; then every request that
waits is settled. So do the messages for other requests.

* `Sound`: the invariant of the table, kept by every act of a call (`Moves.sound`) and at the end of
  the session (`Sound.endWith`).
* `Waiting.of_moves`, `Settled.of_moves`: what other calls do to a request.
* `Waiting.lose`, `Settled.lose`: what the loss of the connection does to it.

What a message does is in `Incoming`.
-/

namespace ProbeBench.Session

/-! ## Entries and outcomes -/

/-- The entry of a request. -/
def entryOf? (s : Session) (id : Nat) : Option Entry :=
  s.pending.find? fun e => e.id = id

/-- The entries whose callers have not stopped waiting. -/
def waiting (entries : List Entry) : List Entry :=
  entries.filter (!·.expired)

theorem settleAll_eq (s : Session) (entries : List Entry) (failure : Failure) :
    s.settleAll entries failure =
      { s with
        outcomes := s.outcomes ++ (waiting entries).map fun e => (e.id, .error failure)
        wakes := s.wakes ++ (waiting entries).map fun e => .caller e.id } := by
  unfold settleAll
  induction entries generalizing s with
  | nil => simp [waiting]
  | cons e rest ih =>
    rw [List.foldl_cons, ih]
    cases he : e.expired <;> simp [waiting, he, settle]

/-- The end of a session empties the table and settles who waits. -/
theorem endWith_eq (s : Session) (ending : Ending) :
    s.endWith ending =
      { s with
        ending := some (s.ending.getD ending)
        pending := []
        outcomes := s.outcomes ++
          (waiting s.pending).map fun e => (e.id, .error (s.ending.getD ending).failure)
        wakes := s.wakes ++ (waiting s.pending).map fun e => .caller e.id } :=
  settleAll_eq _ _ _

theorem find?_outcomes_append (a b : List (Nat × Outcome)) (id : Nat) :
    (a ++ b).find? (fun o => o.1 = id) =
      (a.find? fun o => o.1 = id).or (b.find? fun o => o.1 = id) :=
  List.find?_append

theorem entryOf?_forget_of_ne (s : Session) {id other : Nat} (ne : other ≠ id) :
    (s.forget other).entryOf? id = s.entryOf? id := by
  rw [entryOf?, entryOf?, forget, List.find?_filter]
  congr 1
  funext e
  by_cases h : e.id = id
  · simp [h, Ne.symm ne]
  · simp [h]

theorem entryOf?_forget_self (s : Session) (id : Nat) : (s.forget id).entryOf? id = none := by
  rw [entryOf?, forget, List.find?_eq_none]
  intro e he
  have := (List.mem_filter.mp he).2
  simpa using this

theorem entryOf?_expire (s : Session) (id other : Nat) :
    (s.act (.expire other)).entryOf? id =
      (s.entryOf? id).map fun e => if e.id = other then { e with expired := true } else e := by
  rw [entryOf?, entryOf?, act, List.find?_map]
  congr 2
  funext e
  simp only [Function.comp]
  split <;> rfl

theorem outcome?_collect_of_ne (s : Session) {id other : Nat} (ne : other ≠ id) :
    (s.collect other).outcome? id = s.outcome? id := by
  rw [outcome?, outcome?, collect, List.find?_filter]
  congr 2
  funext o
  by_cases h : o.1 = id
  · simp [h, Ne.symm ne]
  · simp [h]

theorem outcome?_settle_of_ne (s : Session) {id other : Nat} (ne : other ≠ id) (outcome : Outcome) :
    (s.settle other outcome).outcome? id = s.outcome? id := by
  rw [outcome?, outcome?, settle, find?_outcomes_append]
  simp [ne]

theorem outcome?_settle_self {s : Session} {id : Nat} (h : s.outcome? id = none)
    (outcome : Outcome) : (s.settle id outcome).outcome? id = some outcome := by
  rw [outcome?, Option.map_eq_none_iff] at h
  rw [outcome?, settle, find?_outcomes_append, h]
  simp

theorem find?_waiting {entries : List Entry} {id : Nat} {e : Entry}
    (h : entries.find? (fun e => e.id = id) = some e) (live : e.expired = false) :
    (waiting entries).find? (fun e => e.id = id) = some e := by
  obtain ⟨hid, before, after, rfl, no⟩ := List.find?_eq_some_iff_append.mp h
  rw [waiting, List.filter_append, List.find?_append, List.filter_cons_of_pos (by simp [live])]
  have none_before : (before.filter (!·.expired)).find? (fun e => e.id = id) = none := by
    rw [List.find?_eq_none]
    intro d hd
    simpa using no d (List.mem_filter.mp hd).1
  rw [none_before, Option.none_or]
  exact List.find?_cons_of_pos hid

/-- The outcomes that the end of the session gives. -/
theorem find?_settled (entries : List Entry) (failure : Failure) (id : Nat) :
    ((waiting entries).map fun e => (e.id, (.error failure : Outcome))).find? (fun o => o.1 = id) =
      ((waiting entries).find? fun e => e.id = id).map fun e => (e.id, .error failure) := by
  rw [List.find?_map]
  rfl

/-! ## One request -/

/-- The session has not ended, and the request waits in the table. -/
structure Waiting (n : Nat) (method : String) (s : Session) : Prop where
  alive : s.ending = none
  entry : s.entryOf? n = some ⟨n, method, false⟩
  outcome : s.outcome? n = none

/-- The request has an outcome, and nothing else will come to it. -/
structure Settled (n : Nat) (o : Outcome) (s : Session) : Prop where
  entry : s.entryOf? n = none
  outcome : s.outcome? n = some o

/-- Nothing that concerns requests has changed, nor whether the stream is closed. -/
structure SameTable (s s' : Session) : Prop where
  ending : s'.ending = s.ending
  pending : s'.pending = s.pending
  outcomes : s'.outcomes = s.outcomes
  nextId : s'.nextId = s.nextId
  closed : s'.transport.wire.closed = s.transport.wire.closed

theorem SameTable.refl (s : Session) : SameTable s s := ⟨rfl, rfl, rfl, rfl, rfl⟩

theorem SameTable.trans {s t u : Session} (h : SameTable s t) (h' : SameTable t u) :
    SameTable s u :=
  ⟨h'.ending.trans h.ending, h'.pending.trans h.pending, h'.outcomes.trans h.outcomes,
    h'.nextId.trans h.nextId, h'.closed.trans h.closed⟩

theorem SameTable.entryOf? {s s' : Session} (h : SameTable s s') (id : Nat) :
    s'.entryOf? id = s.entryOf? id := by
  rw [Session.entryOf?, Session.entryOf?, h.pending]

theorem SameTable.outcome? {s s' : Session} (h : SameTable s s') (id : Nat) :
    s'.outcome? id = s.outcome? id := by
  rw [Session.outcome?, Session.outcome?, h.outcomes]

theorem Waiting.congr {n : Nat} {method : String} {s s' : Session} (h : Waiting n method s)
    (same : SameTable s s') : Waiting n method s' :=
  ⟨same.ending.trans h.alive, (same.entryOf? n).trans h.entry, (same.outcome? n).trans h.outcome⟩

theorem Settled.congr {n : Nat} {o : Outcome} {s s' : Session} (h : Settled n o s)
    (same : SameTable s s') : Settled n o s' :=
  ⟨(same.entryOf? n).trans h.entry, (same.outcome? n).trans h.outcome⟩

/-- The end of the session settles a request that waits. -/
theorem Waiting.endWith {n : Nat} {method : String} {s : Session} (h : Waiting n method s)
    (ending : Ending) : Settled n (.error ending.failure) (s.endWith ending) := by
  rw [endWith_eq, h.alive]
  refine ⟨rfl, ?_⟩
  have none_yet := h.outcome
  rw [outcome?, Option.map_eq_none_iff] at none_yet
  have found := h.entry
  rw [outcome?, find?_outcomes_append, none_yet, Option.none_or, find?_settled,
    find?_waiting found rfl]
  rfl

/-- It does nothing to one that is settled. -/
theorem Settled.endWith {n : Nat} {o : Outcome} {s : Session} (h : Settled n o s)
    (ending : Ending) : Settled n o (s.endWith ending) := by
  rw [endWith_eq]
  refine ⟨rfl, ?_⟩
  have there := h.outcome
  rw [outcome?] at there ⊢
  obtain ⟨found, hf, rfl⟩ := Option.map_eq_some_iff.mp there
  rw [find?_outcomes_append, hf]
  rfl

/-- The loss of the connection settles a request that waits, … -/
theorem Waiting.lose {n : Nat} {method : String} {s : Session} (h : Waiting n method s)
    (ending : Ending) : Settled n (.error ending.failure) (s.lose ending) :=
  h.endWith ending

/-- … and does nothing to one that is settled. -/
theorem Settled.lose {n : Nat} {o : Outcome} {s : Session} (h : Settled n o s) (ending : Ending) :
    Settled n o (s.lose ending) :=
  h.endWith ending

/-! ## The invariant of the table -/

/-- Whatever the session has gone through: its stream is closed only once it has ended, then nothing
is pending, and all requests have got their ids. -/
structure Sound (s : Session) : Prop where
  closed : s.transport.wire.closed = true → s.ending ≠ none
  ended : s.ending ≠ none → s.pending = []
  entries : ∀ e ∈ s.pending, e.id < s.nextId
  outcomes : ∀ o ∈ s.outcomes, o.1 < s.nextId

theorem Sound.open_of_alive {s : Session} (h : Sound s) (alive : s.ending = none) :
    s.transport.wire.closed = false := by
  cases hc : s.transport.wire.closed with
  | false => rfl
  | true => exact absurd alive (h.closed hc)

theorem Sound.congr {s s' : Session} (h : Sound s) (same : SameTable s s') : Sound s' where
  closed := by rw [same.closed, same.ending]; exact h.closed
  ended := by rw [same.ending, same.pending]; exact h.ended
  entries := by rw [same.pending, same.nextId]; exact h.entries
  outcomes := by rw [same.outcomes, same.nextId]; exact h.outcomes

theorem Sound.endWith {s : Session} (h : Sound s) (ending : Ending) : Sound (s.endWith ending) := by
  rw [endWith_eq]
  refine ⟨fun _ => by simp, fun _ => rfl, fun e he => absurd he List.not_mem_nil, fun o ho => ?_⟩
  rcases List.mem_append.mp ho with old | new
  · exact h.outcomes o old
  · obtain ⟨e, he, rfl⟩ := List.mem_map.mp new
    exact h.entries e (List.mem_filter.mp he).1

theorem Sound.forget {s : Session} (h : Sound s) (id : Nat) : Sound (s.forget id) where
  closed := h.closed
  ended := fun past => by rw [Session.forget, h.ended past]; rfl
  entries := fun e he => h.entries e (List.mem_filter.mp he).1
  outcomes := h.outcomes

theorem Sound.collect {s : Session} (h : Sound s) (id : Nat) : Sound (s.collect id) where
  closed := h.closed
  ended := h.ended
  entries := h.entries
  outcomes := fun o ho => h.outcomes o (List.mem_filter.mp ho).1

theorem Sound.settle {s : Session} (h : Sound s) {id : Nat} (old : id < s.nextId)
    (outcome : Outcome) : Sound (s.settle id outcome) where
  closed := h.closed
  ended := h.ended
  entries := h.entries
  outcomes := fun o ho => by
    rcases List.mem_append.mp ho with there | new
    · exact h.outcomes o there
    · rw [List.mem_singleton.mp new]
      exact old

/-- A request that gets the next id has no entry and no outcome before. -/
theorem Sound.unused {s : Session} (h : Sound s) :
    s.entryOf? s.nextId = none ∧ s.outcome? s.nextId = none := by
  refine ⟨List.find?_eq_none.mpr fun e he => ?_, Option.map_eq_none_iff.mpr
    (List.find?_eq_none.mpr fun o ho => ?_)⟩
  · have := h.entries e he
    simp only [decide_eq_true_eq]
    omega
  · have := h.outcomes o ho
    simp only [decide_eq_true_eq]
    omega

/-- A request that is made waits. -/
theorem Sound.register {s : Session} (h : Sound s) (alive : s.ending = none) (method : String) :
    Waiting s.nextId method (s.act (.register method)) := by
  obtain ⟨no_entry, no_outcome⟩ := h.unused
  refine ⟨alive, ?_, no_outcome⟩
  rw [Session.entryOf?] at no_entry ⊢
  rw [Session.act, List.find?_append, no_entry, Option.none_or]
  exact List.find?_cons_of_pos (by simp)

/-! ## The acts of calls -/

theorem warn_same (s : Session) (text : String) : SameTable s (s.warn text) := by
  unfold warn
  split <;> exact ⟨rfl, rfl, rfl, rfl, rfl⟩

theorem adopt_same (s : Session) (result : Json) : SameTable s (s.adopt result) := by
  unfold adopt
  split <;> exact ⟨rfl, rfl, rfl, rfl, rfl⟩

theorem start_same (s : Session) : SameTable s s.start := by
  unfold start
  split <;> exact ⟨rfl, rfl, rfl, rfl, rfl⟩

theorem cancelReader_same (s : Session) : SameTable s s.cancelReader := by
  unfold cancelReader
  split <;> exact ⟨rfl, rfl, rfl, rfl, rfl⟩

theorem act_same (s : Session) {a : Act} (h : a.isPlain = true) : SameTable s (s.act a) := by
  cases a with
  | write message => exact ⟨rfl, rfl, rfl, rfl, rfl⟩
  | register method => cases h
  | forget id => cases h
  | conclude id => cases h
  | expire id => cases h
  | warn text => exact warn_same s text
  | adopt result => exact adopt_same s result
  | announce => exact ⟨rfl, rfl, rfl, rfl, rfl⟩
  | start => exact start_same s
  | cancelReader => exact cancelReader_same s
  | close => cases h

/-- Closing does to requests what the end of the session does. -/
theorem act_close_same (s : Session) :
    SameTable (s.endWith .closed) { s.act .close with transport.wire := s.transport.wire } := by
  rw [act, shut, endWith_eq, endWith_eq]
  exact ⟨rfl, rfl, rfl, rfl, rfl⟩

theorem closed_act_close (s : Session) : (s.act .close).transport.wire.closed = true :=
  Wire.closed_close _

/-- A stream that is closed stays so. -/
theorem closed_act {s : Session} (h : s.transport.wire.closed = true) (a : Act) :
    (s.act a).transport.wire.closed = true := by
  by_cases plain : a.isPlain = true
  · exact (act_same s plain).closed.trans h
  · cases a with
    | close => exact closed_act_close s
    | register method => exact h
    | forget id => exact h
    | conclude id => exact h
    | expire id => exact h
    | _ => exact absurd rfl plain

theorem act_nextId_le (s : Session) (a : Act) : s.nextId ≤ (s.act a).nextId := by
  by_cases plain : a.isPlain = true
  · exact Nat.le_of_eq (act_same s plain).nextId.symm
  · cases a with
    | register method => exact Nat.le_succ _
    | forget id => exact Nat.le_refl _
    | conclude id => exact Nat.le_refl _
    | expire id => exact Nat.le_refl _
    | close =>
      have same := (act_close_same s).nextId
      rw [endWith_eq] at same
      exact Nat.le_of_eq same.symm
    | _ => exact absurd rfl plain

theorem Sound.act {s : Session} {own : Option Nat} {a : Act} (h : Sound s)
    (allowed : a.Allowed s own) : Sound (s.act a) := by
  by_cases plain : a.isPlain = true
  · exact h.congr (act_same s plain)
  · cases a with
    | register method =>
      refine ⟨h.closed, fun past => absurd allowed.1 past, fun e he => ?_, fun o ho => ?_⟩
      · rcases List.mem_append.mp he with there | new
        · exact Nat.lt_succ_of_lt (h.entries e there)
        · rw [List.mem_singleton.mp new]
          exact Nat.lt_succ_self _
      · exact Nat.lt_succ_of_lt (h.outcomes o ho)
    | forget id => exact h.forget id
    | conclude id => exact (h.forget id).collect id
    | expire id =>
      refine ⟨h.closed, fun past => ?_, fun e he => ?_, h.outcomes⟩
      · simp [Session.act, h.ended past]
      · obtain ⟨d, hd, rfl⟩ := List.mem_map.mp he
        split <;> exact h.entries d hd
    | close =>
      have ended := (h.endWith .closed).congr (act_close_same s)
      have past : (s.act .close).ending ≠ none := by
        have same : (s.act .close).ending = (s.endWith .closed).ending := (act_close_same s).ending
        rw [same, endWith_eq]
        exact Option.some_ne_none _
      exact ⟨fun _ => past, ended.ended, ended.entries, ended.outcomes⟩
    | _ => exact absurd rfl plain

/-- What an act of another call does to a request that waits: nothing, or it closes the session. -/
theorem Waiting.act {n : Nat} {method : String} {s : Session} {own : Option Nat} {a : Act}
    (h : Waiting n method s) (allowed : a.Allowed s own) (other : own ≠ some n) :
    Waiting n method (s.act a) ∨
      Settled n (.error .closed) (s.act a) ∧ (s.act a).transport.wire.closed = true := by
  by_cases plain : a.isPlain = true
  · exact .inl (h.congr (act_same s plain))
  · cases a with
    | register name =>
      refine .inl ⟨h.alive, ?_, h.outcome⟩
      have found := h.entry
      unfold Session.entryOf? at found ⊢
      rw [Session.act, List.find?_append, found]
      rfl
    | forget id =>
      have ne : id ≠ n := fun e => other (allowed.trans (congrArg some e))
      exact .inl ⟨h.alive, (entryOf?_forget_of_ne s ne).trans h.entry, h.outcome⟩
    | conclude id =>
      have ne : id ≠ n := fun e => other (allowed.trans (congrArg some e))
      exact .inl ⟨h.alive, (entryOf?_forget_of_ne s ne).trans h.entry,
        (outcome?_collect_of_ne _ ne).trans h.outcome⟩
    | expire id =>
      have ne : n ≠ id := fun e => other (allowed.trans (congrArg some e.symm))
      refine .inl ⟨h.alive, ?_, h.outcome⟩
      rw [entryOf?_expire, h.entry, Option.map_some, if_neg ne]
    | close =>
      have settled := (h.endWith .closed).congr (act_close_same s)
      exact .inr ⟨⟨settled.entry, settled.outcome⟩, closed_act_close s⟩
    | _ => exact absurd rfl plain

/-- What an act of another call does to a request that is settled: nothing. -/
theorem Settled.act {n : Nat} {o : Outcome} {s : Session} {own : Option Nat} {a : Act}
    (h : Settled n o s) (allowed : a.Allowed s own) (other : own ≠ some n) (old : n < s.nextId) :
    Settled n o (s.act a) := by
  by_cases plain : a.isPlain = true
  · exact h.congr (act_same s plain)
  · cases a with
    | register name =>
      refine ⟨?_, h.outcome⟩
      have none_there := h.entry
      unfold Session.entryOf? at none_there ⊢
      rw [Session.act, List.find?_append, none_there, Option.none_or,
        List.find?_singleton, if_neg (by simp; omega)]
    | forget id =>
      have ne : id ≠ n := fun e => other (allowed.trans (congrArg some e))
      exact ⟨(entryOf?_forget_of_ne s ne).trans h.entry, h.outcome⟩
    | conclude id =>
      have ne : id ≠ n := fun e => other (allowed.trans (congrArg some e))
      exact ⟨(entryOf?_forget_of_ne s ne).trans h.entry,
        (outcome?_collect_of_ne _ ne).trans h.outcome⟩
    | expire id =>
      refine ⟨?_, h.outcome⟩
      rw [entryOf?_expire, h.entry]
      rfl
    | close =>
      have settled := (h.endWith .closed).congr (act_close_same s)
      exact ⟨settled.entry, settled.outcome⟩
    | _ => exact absurd rfl plain

/-! ## The moves of calls -/

/-- A request that is not a call's own does not become it, as its id has been given. -/
theorem ownAfter_ne {s : Session} {own : Option Nat} {n : Nat} (a : Act) (other : own ≠ some n)
    (old : n < s.nextId) : a.ownAfter s own ≠ some n := by
  unfold Act.ownAfter
  split
  · intro e
    have := Option.some.inj e
    omega
  · simp
  · exact other

end ProbeBench.Session

namespace ProbeBench

open Session

theorem Moves.sound {s : Session} {own : Option Nat} {r : Session × Progress} (h : Moves s own r)
    (sound : Sound s) : Sound r.1 := by
  induction h with
  | rest _ => exact sound
  | act a allowed _ ih => exact ih (sound.act allowed)

theorem Moves.nextId_le {s : Session} {own : Option Nat} {r : Session × Progress}
    (h : Moves s own r) : s.nextId ≤ r.1.nextId := by
  induction h with
  | rest _ => exact Nat.le_refl _
  | act a _ _ ih => exact Nat.le_trans (act_nextId_le _ a) ih

/-- A call waits for the request that was its own before, or for one with a new id. -/
theorem Moves.id? {s : Session} {own : Option Nat} {r : Session × Progress} (h : Moves s own r)
    {k : Nat} (hk : r.2.id? = some k) : own = some k ∨ (s.nextId ≤ k ∧ k < r.1.nextId) := by
  induction h with
  | rest h => exact .inl (h.symm.trans hk)
  | @act s own r a _ more ih =>
    have grows := act_nextId_le s a
    rcases ih hk with mine | ⟨new, old⟩
    · unfold Act.ownAfter at mine
      split at mine
      · cases mine
        have later := more.nextId_le
        exact .inr ⟨Nat.le_refl _, later⟩
      · cases mine
      · exact .inl mine
    · exact .inr ⟨Nat.le_trans grows new, old⟩

theorem Moves.closed {s : Session} {own : Option Nat} {r : Session × Progress} (h : Moves s own r)
    (closed : s.transport.wire.closed = true) : r.1.transport.wire.closed = true := by
  induction h with
  | rest _ => exact closed
  | act a _ _ ih => exact ih (closed_act closed a)

/-- **What another call does to a request that is settled**: nothing. -/
theorem Session.Settled.of_moves {n : Nat} {o : Outcome} {s : Session} {own : Option Nat}
    {r : Session × Progress} (h : Settled n o s) (moves : Moves s own r) (other : own ≠ some n)
    (old : n < s.nextId) : Settled n o r.1 := by
  induction moves with
  | rest _ => exact h
  | @act s own r a allowed _ ih =>
    exact ih (h.act allowed other old) (ownAfter_ne a other old)
      (Nat.lt_of_lt_of_le old (act_nextId_le s a))

/-- **What another call does to a request that waits**: nothing, or it closes the session. -/
theorem Session.Waiting.of_moves {n : Nat} {method : String} {s : Session} {own : Option Nat}
    {r : Session × Progress} (h : Waiting n method s) (moves : Moves s own r)
    (other : own ≠ some n) (old : n < s.nextId) :
    Waiting n method r.1 ∨
      Settled n (.error .closed) r.1 ∧ r.1.transport.wire.closed = true := by
  induction moves with
  | rest _ => exact .inl h
  | @act s own r a allowed more ih =>
    have other' := ownAfter_ne a other old
    have old' := Nat.lt_of_lt_of_le old (act_nextId_le s a)
    rcases h.act allowed other with waits | ⟨settled, closed⟩
    · exact ih waits other' old'
    · exact .inr ⟨settled.of_moves more other' old', more.closed closed⟩

end ProbeBench
