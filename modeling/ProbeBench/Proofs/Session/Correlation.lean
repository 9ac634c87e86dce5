import ProbeBench.Proofs.Session.Phases

/-!
# Responses find their requests

A request ends with what the first event gives it that can end it, whatever else happens before or
after: other calls, responses in any order, late and repeated ones.

* `Asks.undecided`: a call that makes a request on a live session waits for it, under a new id.
* `Undecided.run`, `Decided.run`, `Over.run`: what is left of a request after any run.
* `answers_as_decided`: the result, for every calm run.
-/

namespace ProbeBench

/-! ## Runs -/

theorem turnsOf_cons (task : Nat) (e : Traffic.Event) (events : List Traffic.Event) :
    turnsOf task (e :: events) = turnsOf task [e] + turnsOf task events := by
  simp only [turnsOf, List.countP_cons, List.countP_nil, Nat.zero_add]
  exact Nat.add_comm _ _

/-- In a run a request that is decided ends, or its call has not gone on often enough, if what the
call writes is taken as long as the request is decided. -/
theorem Decided.run_of_taken {r : Asked} {o : Outcome} {Q : Traffic → List Traffic.Event → Prop}
    (taken : ∀ {k t e rest}, Decided r o k t → Q t (e :: rest) →
      (∀ fault, e ≠ .unwritten r.task fault) ∧ Q (t.step e) rest)
    {k : Nat} {t : Traffic} {events : List Traffic.Event} (h : Decided r o k t) (q : Q t events) :
    Ended r o t (t.run events) ∨
      turnsOf r.task events < k ∧ Decided r o (k - turnsOf r.task events) (t.run events) ∧
        (t.run events).answersTo r.id = t.answersTo r.id := by
  induction events generalizing t k with
  | nil =>
    obtain ⟨stage, _, few, _⟩ := h.comes
    exact .inr ⟨Nat.lt_of_lt_of_le stage.turns_pos few, h, rfl⟩
  | cons e rest ih =>
    obtain ⟨taken_now, later⟩ := taken h q
    rcases h.step taken_now with ended | ⟨few, due, same⟩
    · exact .inl (ended.run rest)
    · rcases ih due later with ended | ⟨few', due', same'⟩
      · exact .inl (ended.of_step same)
      · rw [turnsOf_cons]
        refine .inr ⟨by omega, ?_, same'.trans same⟩
        rw [← Nat.sub_sub]
        exact due'

/-- In a calm run all is taken. -/
theorem Decided.run {r : Asked} {o : Outcome} {k : Nat} {t : Traffic} {events : List Traffic.Event}
    (h : Decided r o k t) (calm : t.calm events) :
    Ended r o t (t.run events) ∨
      turnsOf r.task events < k ∧ Decided r o (k - turnsOf r.task events) (t.run events) ∧
        (t.run events).answersTo r.id = t.answersTo r.id := by
  refine h.run_of_taken (Q := fun t events => t.calm events) (fun _ calm => ?_) calm
  simp only [Traffic.calm, Bool.and_eq_true] at calm
  exact ⟨Traffic.taken_of_calm calm.1 r.task, calm.2⟩

/-- The call of a request that is decided can always go on. -/
theorem Decided.isCalm_goOn {r : Asked} {o : Outcome} {k : Nat} {t : Traffic}
    (h : Decided r o k t) :
    t.isCalm (.goOn r.task) = true := by
  obtain ⟨stage, hs, _⟩ := h.comes
  have never := h.move?_expire
  rw [Traffic.move?, hs, Option.bind_some] at never
  rw [Traffic.isCalm, hs]
  change (!(t.session.resume stage).2.isExpiring) = true
  generalize t.session.resume stage = r at never ⊢
  obtain ⟨next, progress⟩ := r
  cases progress with
  | finished _ => rfl
  | waiting stage =>
    cases stage with
    | expiring => cases never
    | _ => rfl

/-- As long as nothing decides it, a request waits, and nobody answers it. -/
theorem Undecided.run {r : Asked} {t : Traffic} {events : List Traffic.Event} (h : Undecided r t)
    (calm : t.calm events) (undecided : t.undecided r events) :
    Undecided r (t.run events) ∧ (t.run events).answersTo r.id = t.answersTo r.id := by
  induction events generalizing t with
  | nil => exact ⟨h, rfl⟩
  | cons e rest ih =>
    simp only [Traffic.calm, Bool.and_eq_true] at calm
    simp only [Traffic.undecided, Bool.and_eq_true, Option.isNone_iff_eq_none] at undecided
    obtain ⟨same, ⟨_, still⟩ | ⟨o, decided, _⟩⟩ := h.step calm.1
    · obtain ⟨there, same'⟩ := ih still calm.2 undecided.2
      exact ⟨there, same'.trans same⟩
    · rw [undecided.1] at decided
      cases decided

/-! ## From its beginning to its end -/

/-- The request that a call makes. -/
def Call.request? : Call → Option (Goal × String × Patience)
  | .request method _ patience => some (.answer, method, patience)
  | .handshake _ => some (.handshake, "initialize", .inherited)
  | .connect _ => some (.connect, "initialize", .inherited)
  | .shutdown patience => some (.shutdown, "shutdown", patience)
  | _ => none

/-- `r` is the request that a call makes which begins now, on a session that has not ended. -/
structure Asks (r : Asked) (call : Call) (t : Traffic) : Prop where
  idle : t.stage r.task = none
  alive : t.session.ending = none
  id : r.id = t.session.nextId
  request : ∃ patience, call.request? = some (r.goal, r.method, patience) ∧
    t.session.limitOf patience = r.seconds.map .seconds

/-- A call that makes a request begins with it, on a session whose table and whose stream are the
same. -/
theorem Session.begin_of_request {s : Session} {call : Call} {goal : Goal} {method : String}
    {patience : Patience} (h : call.request? = some (goal, method, patience)) (open_ : s.Open) :
    ∃ s' params, SameTable s s' ∧ s'.transport = s.transport ∧ s'.Open ∧ s'.limit = s.limit ∧
      s.begin call = s'.request goal method params patience := by
  have alive := open_.1
  cases call with
  | request name params given => cases h; exact ⟨s, params, .refl s, rfl, open_, rfl, rfl⟩
  | handshake params => cases h; exact ⟨s, params, .refl s, rfl, open_, rfl, rfl⟩
  | connect params =>
    cases h
    refine ⟨s.start, params, start_same s, ?_, ?_, ?_, rfl⟩
    · unfold start
      split <;> rfl
    · unfold start
      split <;> exact open_
    · unfold start
      split <;> rfl
  | shutdown given =>
    cases h
    refine ⟨{ s with closing := true }, .null, ⟨rfl, rfl, rfl, rfl, rfl⟩, rfl, open_, rfl, ?_⟩
    simp [begin, closed, alive]
  | _ => cases h

/-- **A request that is made on a live session is undecided**, and nobody has answered it. -/
theorem Asks.undecided {r : Asked} {call : Call} {t : Traffic} (h : Asks r call t) (sound : t.Sound)
    (whole : t.session.transport.wire.broken = none) :
    Undecided r (t.step (.call r.task call)) ∧
      (t.step (.call r.task call)).answersTo r.id = [] := by
  obtain ⟨patience, hr, limit⟩ := h.request
  have shut := sound.session.open_of_alive h.alive
  obtain ⟨s, params, same, -, open_, hlimit, hb⟩ :=
    Session.begin_of_request hr ⟨h.alive, shut, whole⟩
  have id : s.nextId = r.id := same.nextId.trans h.id.symm
  have after : Session.afterRequest r.goal s.nextId r.method (s.limitOf patience) = r.after := by
    have : s.limitOf patience = t.session.limitOf patience := by
      cases patience <;> first | exact hlimit | rfl
    rw [id, this, limit]
    rfl
  rw [Session.request_of_open open_, after] at hb
  have hm : t.move? (.call r.task call) = some (r.task, t.session.begin call) := by
    rw [Traffic.move?, h.idle]
  have waits := (sound.session.congr same).register open_.1 r.method
  rw [id] at waits
  have calm : t.isCalm (.call r.task call) = true := rfl
  refine ⟨⟨Traffic.sound_step sound _, Traffic.broken_step calm whole, ?_, .writing r.after, ?_,
    .writing⟩, ?_⟩
  · rw [Traffic.step_of_move hm, hb]
    exact waits.congr ⟨rfl, rfl, rfl, rfl, rfl⟩
  · rw [Traffic.step_of_move hm, hb]
    exact if_pos rfl
  · have unanswered : t.answersTo r.id = [] := by
      rw [Traffic.answersTo, List.map_eq_nil_iff, List.filter_eq_nil_iff]
      intro a ha
      have := sound.answered a ha
      rw [h.id]
      simp only [decide_eq_true_eq]
      omega
    rw [Traffic.answersTo_step (by simp [Traffic.answer?])]
    exact unanswered

/-- What a call writes when it makes a request. -/
theorem Asks.writes {r : Asked} {call : Call} {t : Traffic} (h : Asks r call t) (sound : t.Sound)
    (whole : t.session.transport.wire.broken = none) :
    ∃ params, (t.step (.call r.task call)).session.transport.wire.sent =
      t.session.transport.wire.sent ++ [requestMessage r.id r.method params] := by
  obtain ⟨patience, hr, -⟩ := h.request
  obtain ⟨s, params, same, stream, open_, -, hb⟩ :=
    Session.begin_of_request hr ⟨h.alive, sound.session.open_of_alive h.alive, whole⟩
  have hm : t.move? (.call r.task call) = some (r.task, t.session.begin call) := by
    rw [Traffic.move?, h.idle]
  refine ⟨params, ?_⟩
  rw [Traffic.step_of_move hm, hb, Session.request_of_open open_, h.id, ← same.nextId, ← stream]
  rfl

namespace Traffic

theorem calm_append (t : Traffic) (events more : List Event) :
    t.calm (events ++ more) = (t.calm events && (t.run events).calm more) := by
  induction events generalizing t with
  | nil => rfl
  | cons e rest ih => rw [List.cons_append, calm, calm, ih, Bool.and_assoc, run_cons]

theorem broken_run {t : Traffic} {events : List Event} (calm : t.calm events)
    (whole : t.session.transport.wire.broken = none) :
    (t.run events).session.transport.wire.broken = none := by
  induction events generalizing t with
  | nil => exact whole
  | cons e rest ih =>
    simp only [Traffic.calm, Bool.and_eq_true] at calm
    exact ih calm.2 (broken_step calm.1 whole)

end Traffic

/-- **A request ends as the first event decides that can end it.** In a calm run `between` which
nothing decides the request that `call` has made, it waits without an answer. The first event `e`
that decides it says with which outcome `o` it ends: from then on the request ends with `o` as soon
as its call has gone on, at the second time at the latest, and nobody answers it twice, whatever
comes `later`. -/
theorem answers_as_decided {t : Traffic} (started : t.Started) {r : Asked} {call : Call}
    {before between later : List Traffic.Event} {e : Traffic.Event} {o : Outcome}
    (calm : t.calm (before ++ .call r.task call :: (between ++ e :: later)))
    (asks : Asks r call (t.run before))
    (open_ : (t.run (before ++ [.call r.task call])).undecided r between)
    (decides : (t.run (before ++ .call r.task call :: between)).verdict? r e = some o) :
    let waits := t.run (before ++ .call r.task call :: between)
    let ends := t.run (before ++ .call r.task call :: (between ++ e :: later))
    waits.own? r.task = some r.id ∧ waits.answersTo r.id = [] ∧
      (Ended r o waits ends ∨
        ends.own? r.task = some r.id ∧ ends.answersTo r.id = [] ∧ turnsOf r.task later < 2 ∧
          ends.isCalm (.goOn r.task)) := by
  intro waits ends
  have first : t.run (before ++ [.call r.task call]) =
      (t.run before).step (.call r.task call) := Traffic.run_append ..
  have hwaits : waits = ((t.run before).step (.call r.task call)).run between :=
    Traffic.run_append ..
  have hends : ends = (waits.step e).run later := by
    rw [hwaits, ← Traffic.run_cons, ← Traffic.run_append, ← Traffic.run_cons, ← Traffic.run_append]
  simp only [Traffic.calm_append, Traffic.calm, Bool.and_eq_true] at calm
  obtain ⟨calm_before, _, calm_between, calm_e, calm_later⟩ := calm
  rw [first] at open_
  obtain ⟨fresh, unanswered⟩ := asks.undecided (Traffic.sound_run started.sound before)
    (Traffic.broken_run calm_before started.whole)
  obtain ⟨still, unanswered'⟩ := fresh.run calm_between open_
  rw [unanswered, ← hwaits] at unanswered'
  rw [← hwaits] at still calm_e calm_later
  obtain ⟨silent, ⟨never, _⟩ | ⟨o', decided, due⟩⟩ := still.step calm_e
  · rw [never] at decides
    cases decides
  · rw [decided] at decides
    cases decides
    refine ⟨still.own, unanswered', ?_⟩
    rw [hends]
    rcases due.run calm_later with ended | ⟨few, due', same⟩
    · exact .inl (ended.of_step silent)
    · exact .inr ⟨due'.own, same.trans (silent.trans unanswered'), few, due'.isCalm_goOn⟩

/-- Two requests are open, the second is answered first, and both calls go on. -/
theorem answers_as_decided_in_reverse :
    let t : Traffic := { session := { reader := .waiting } }
    let r : Asked := ⟨1, .answer, 1, "first", none⟩
    let first := Traffic.Event.call 1 (.request "first" .null .inherited)
    let between := [.call 2 (.request "second" .null .inherited), .goOn 1, .goOn 2,
      .receive [("id", .int 2), ("result", .int 20)]]
    let answer := Traffic.Event.receive [("id", .int 1), ("result", .int 10)]
    let events := [] ++ first :: (between ++ answer :: [.goOn 2, .goOn 1])
    t.calm events ∧ Ended r (.ok (.int 10)) (t.run ([] ++ first :: between)) (t.run events) := by
  intro t r first between answer events
  have started : t.Started := ⟨rfl, rfl, rfl, rfl, rfl, rfl, fun _ => rfl, rfl⟩
  have calm : t.calm events = true := by decide
  have asks : Asks r (.request "first" .null .inherited) (t.run []) :=
    ⟨rfl, rfl, rfl, .inherited, rfl, rfl⟩
  have open_ : (t.run ([] ++ [first])).undecided r between = true := by decide
  have decides : (t.run ([] ++ first :: between)).verdict? r answer = some (.ok (.int 10)) :=
    Traffic.verdict?_receive (by decide)
  obtain ⟨_, _, ended | ⟨waits, _⟩⟩ :=
    @answers_as_decided t started r _ [] between _ answer _ calm asks open_ decides
  · exact ⟨calm, ended⟩
  · exact absurd waits (by decide)

end ProbeBench
