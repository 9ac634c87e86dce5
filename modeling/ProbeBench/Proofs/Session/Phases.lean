import ProbeBench.Proofs.Session.Calm

/-!
# The three phases of a request

As long as nothing has decided a request, its call waits for it and its entry waits in the table
(`Undecided`). Once something has, its outcome is fixed and its call comes to it in a few turns
(`Decided`). Then it is over, and nobody answers it again (`Over`).

* `Undecided.step`, `Decided.step`, `Over.step`: how an event leads from phase to phase.
-/

namespace ProbeBench

/-! ## The call of a request -/

/-- The stages at which the call of a request waits for its response. -/
inductive Asked.Stands (r : Asked) : Stage → Prop
  | writing : Stands r (.writing r.after)
  | awaiting : Stands r (.awaiting r.goal r.id r.method r.seconds)

/-- How many turns a call takes until it looks for the outcome of its request. -/
def Stage.turns : Stage → Nat
  | .writing (.wait _ _ _ (some _)) => 2
  | _ => 1

/-- What its call does once the request is written, by how long it waits. -/
theorem Asked.after_cases (r : Asked) :
    r.after = .wait r.goal r.id r.method r.seconds ∨
      ∃ x, r.seconds = some x ∧ r.after = .check r.goal r.id (.timeout r.method x) := by
  unfold after Session.afterRequest
  cases r.seconds with
  | none => exact .inl rfl
  | some x =>
    by_cases past : x ≤ 0
    · exact .inr ⟨x, rfl, if_pos past⟩
    · exact .inl (if_neg past)

theorem Asked.Stands.id? {r : Asked} {stage : Stage} (h : r.Stands stage) :
    stage.id? = some r.id := by
  cases h with
  | writing => exact Session.id?_afterRequest ..
  | awaiting => rfl

/-- As long as nothing has come, its caller waits, or runs out of time. -/
theorem Asked.Stands.resume_waiting {r : Asked} {stage : Stage} (h : r.Stands stage) {s : Session}
    (none_yet : s.outcome? r.id = none) :
    s.answer? stage = none ∧
      ((∃ later, r.Stands later ∧ s.resume stage = (s, .waiting later)) ∨
        ∃ x, r.seconds = some x ∧
          s.resume stage = s.expire r.goal r.id (.timeout r.method x)) := by
  have later : r.Stands (.awaiting r.goal r.id r.method r.seconds) := .awaiting
  cases h with
  | writing =>
    rcases r.after_cases with wait | ⟨x, hx, check⟩
    · rw [wait]
      cases hs : r.seconds with
      | none =>
        rw [hs] at later
        simp only [Session.answer?, Session.resume, Session.written, Session.concludeOr, none_yet]
        exact ⟨rfl, .inl ⟨_, later, rfl⟩⟩
      | some x =>
        rw [hs] at later
        exact ⟨rfl, .inl ⟨_, later, rfl⟩⟩
    · rw [check]
      simp only [Session.answer?, Session.resume, Session.written, Session.concludeOr, none_yet]
      exact ⟨rfl, .inr ⟨x, hx, rfl⟩⟩
  | awaiting =>
    cases hs : r.seconds with
    | none =>
      rw [hs] at later
      simp only [Session.answer?, Session.resume, Session.concludeOr, none_yet]
      exact ⟨rfl, .inl ⟨_, later, rfl⟩⟩
    | some x =>
      simp only [Session.answer?, Session.resume, Session.concludeOr, none_yet]
      exact ⟨rfl, .inr ⟨x, rfl, rfl⟩⟩

/-- Once an outcome has come, its caller takes it, or comes to where it does so next time. -/
theorem Asked.Stands.resume_settled {r : Asked} {stage : Stage} (h : r.Stands stage) {s : Session}
    {o : Outcome} (there : s.outcome? r.id = some o) :
    (s.answer? stage = some (r.id, o) ∧ s.resume stage = s.conclude r.goal r.id o) ∨
      s.answer? stage = none ∧ stage.turns = 2 ∧
        ∃ later, r.Stands later ∧ later.turns = 1 ∧ s.resume stage = (s, .waiting later) := by
  have later : r.Stands (.awaiting r.goal r.id r.method r.seconds) := .awaiting
  cases h with
  | writing =>
    rcases r.after_cases with wait | ⟨x, hx, check⟩
    · rw [wait]
      cases hs : r.seconds with
      | none =>
        simp [Session.answer?, Session.resume, Session.written, Session.concludeOr, there]
      | some x =>
        rw [hs] at later
        exact .inr ⟨rfl, rfl, _, later, rfl, rfl⟩
    · rw [check]
      simp [Session.answer?, Session.resume, Session.written, Session.concludeOr, there]
  | awaiting =>
    cases r.seconds <;> simp [Session.answer?, Session.resume, Session.concludeOr, there]

/-- The end of a request for an answer is the end of its call. -/
theorem Session.conclude_answer (s : Session) (n : Nat) (o : Outcome) :
    (s.conclude .answer n o).2 = .finished o := rfl

/-! ## The three phases of a request -/

/-- Nothing has decided the request. -/
structure Undecided (r : Asked) (t : Traffic) : Prop where
  sound : t.Sound
  whole : t.session.transport.wire.broken = none
  waits : t.session.Waiting r.id r.method
  stands : ∃ stage, t.stage r.task = some stage ∧ r.Stands stage

/-- The request will end with `o` when its call has gone on `k` times. -/
structure Decided (r : Asked) (o : Outcome) (k : Nat) (t : Traffic) : Prop where
  sound : t.Sound
  comes : ∃ stage, t.stage r.task = some stage ∧ stage.turns ≤ k ∧
    (r.Stands stage ∧ t.session.Settled r.id o ∨
      ∃ failure, o = .error failure ∧ stage = .writing (.fail r.goal r.id failure))

/-- The request has ended. -/
structure Over (r : Asked) (t : Traffic) : Prop where
  sound : t.Sound
  old : r.id < t.session.nextId
  gone : ∀ task, t.own? task ≠ some r.id

theorem Undecided.own {r : Asked} {t : Traffic} (h : Undecided r t) :
    t.own? r.task = some r.id := by
  obtain ⟨stage, hs, stands⟩ := h.stands
  rw [Traffic.own?, hs]
  exact stands.id?

theorem Stage.turns_le (stage : Stage) : stage.turns ≤ 2 := by
  unfold turns
  split <;> decide

theorem Stage.turns_pos (stage : Stage) : 0 < stage.turns := by
  unfold turns
  split <;> decide

theorem Decided.mono {r : Asked} {o : Outcome} {j k : Nat} {t : Traffic} (h : Decided r o j t)
    (le : j ≤ k) : Decided r o k t := by
  obtain ⟨stage, hs, few, comes⟩ := h.comes
  exact ⟨h.sound, stage, hs, Nat.le_trans few le, comes⟩

theorem Decided.own {r : Asked} {o : Outcome} {k : Nat} {t : Traffic} (h : Decided r o k t) :
    t.own? r.task = some r.id := by
  obtain ⟨stage, hs, _, ⟨stands, _⟩ | ⟨failure, _, rfl⟩⟩ := h.comes
  · rw [Traffic.own?, hs]
    exact stands.id?
  · rw [Traffic.own?, hs]
    rfl

/-! ## Nothing is decided yet -/

/-- A message of a calm run that is no response with this id is none that the table takes for it. -/
theorem requestId?_ne {message : Members} {n : Nat} (no : isResponseTo n message = false)
    (plain : hasTruthId message = false) (response : Session.IsResponse message) :
    requestId? (message.get? "id") ≠ some (n : Int) := by
  intro h
  rcases Session.requestId?_eq_some h with number | ⟨b, truth, -⟩
  · unfold isResponseTo at no
    split at no
    · rename_i method named
      exact response method named
    · simp [number] at no
  · simp [hasTruthId, truth] at plain

theorem response_of_isResponseTo {message : Members} {n : Nat} (h : isResponseTo n message = true) :
    Session.IsResponse message ∧ requestId? (message.get? "id") = some (n : Int) := by
  unfold isResponseTo at h
  split at h
  · cases h
  · rename_i unnamed
    split at h
    · rename_i k hk
      have hk' : k = n := of_decide_eq_true h
      exact ⟨fun method he => unnamed method he, by rw [hk, hk']; rfl⟩
    · cases h

namespace Undecided

variable {r : Asked} {t : Traffic} {e : Traffic.Event}

theorem open_ (h : Undecided r t) : t.session.transport.wire.closed = false :=
  h.sound.session.open_of_alive h.waits.alive

/-- Another call leaves the request waiting, or it closes the session, and that is what the event
decides. -/
theorem of_other (h : Undecided r t) {k : Nat} {m : Session × Progress}
    (hm : t.move? e = some (k, m)) (other : k ≠ r.task) :
    t.closing? e = none ∧ (t.step e).session.Waiting r.id r.method ∨
      t.closing? e = some (.error .closed) ∧
        (t.step e).session.Settled r.id (.error .closed) := by
  have ne : t.own? k ≠ some r.id := fun own => other (h.sound.apart _ _ _ own h.own)
  have moves := Traffic.moves_of_move? hm
  have sound := moves.sound h.sound.session
  rw [Traffic.closing?, Traffic.step_of_move hm, h.open_]
  rcases h.waits.of_moves moves ne (h.sound.given _ _ h.own) with waits | ⟨settled, closed⟩
  · refine .inl ⟨?_, waits⟩
    rw [sound.open_of_alive waits.alive]
    rfl
  · exact .inr ⟨by simp [closed], settled⟩

/-- The move of another call decides nothing, unless it closes the session. -/
theorem verdict?_of_other {k : Nat} {m : Session × Progress} (hm : t.move? e = some (k, m))
    (other : k ≠ r.task) : t.verdict? r e = t.closing? e := by
  rcases Traffic.task_of_move? hm with ⟨c, rfl, _⟩ | rfl | rfl | ⟨fault, rfl⟩
  · rfl
  · rfl
  · exact if_neg fun h => other h.1
  · rfl

/-- Going on without an outcome, its call waits on. -/
theorem goOn_own (h : Undecided r t) (calm : t.isCalm (.goOn r.task)) :
    t.answer? (.goOn r.task) = none ∧ t.verdict? r (.goOn r.task) = none ∧
      Undecided r (t.step (.goOn r.task)) := by
  obtain ⟨stage, hs, stands⟩ := h.stands
  obtain ⟨silent, later⟩ := stands.resume_waiting h.waits.outcome
  have hm : t.move? (.goOn r.task) = some (r.task, t.session.resume stage) := by
    rw [Traffic.move?, hs]
    rfl
  have sound := Traffic.sound_step h.sound (.goOn r.task)
  have whole := Traffic.broken_step calm h.whole
  rcases later with ⟨next, stands', hr⟩ | ⟨x, _, hr⟩
  · rw [hr] at hm
    refine ⟨?_, ?_, sound, whole, ?_, next, ?_, stands'⟩
    · rw [Traffic.answer?, hs]
      exact silent
    · show t.closing? (.goOn r.task) = none
      rw [Traffic.closing?, Traffic.step_of_move hm, h.open_]
      rfl
    · rw [Traffic.step_of_move hm]
      exact h.waits
    · rw [Traffic.step_of_move hm]
      exact if_pos rfl
  · simp only [Traffic.isCalm, hs, hr] at calm
    cases calm

/-- When its time is over, its call gives it up. -/
theorem expire_own (h : Undecided r t) {m : Session × Progress}
    (hm : t.move? (.expire r.task) = some (r.task, m)) :
    ∃ x, t.verdict? r (.expire r.task) = some (.error (.timeout r.method x)) ∧
      Decided r (.error (.timeout r.method x)) 1 (t.step (.expire r.task)) := by
  obtain ⟨stage, hs, stands⟩ := h.stands
  have sound := Traffic.sound_step h.sound (.expire r.task)
  obtain ⟨_, ⟨next, stands', hr⟩ | ⟨x, hx, hr⟩⟩ := stands.resume_waiting h.waits.outcome
  · rw [Traffic.move?, hs, Option.bind_some, hr] at hm
    cases stands' <;> cases hm
  · refine ⟨x, ?_, sound, ?_⟩
    · rw [Traffic.verdict?, hm, if_pos ⟨rfl, rfl⟩, hx]
      rfl
    · have given : t.move? (.expire r.task) = some (r.task,
          (t.session.expire r.goal r.id (.timeout r.method x)).1.giveUp r.goal r.id
            (.timeout r.method x)) := by
        rw [Traffic.move?, hs, Option.bind_some, hr]
        rfl
      have told := Session.giveUp_of_open
        (s := (t.session.expire r.goal r.id (.timeout r.method x)).1)
        ⟨h.waits.alive, h.open_, h.whole⟩ r.goal r.id (.timeout r.method x)
      refine ⟨_, ?_, Nat.le_refl _, .inr ⟨_, rfl, rfl⟩⟩
      rw [Traffic.step_of_move given]
      simp only [if_true, told]
      rfl

/-- What comes from the server decides the request or leaves it undecided. -/
theorem absorb (h : Undecided r t) (calm : t.isCalm e) (hm : t.move? e = none) :
    t.verdict? r e = none ∧ (t.step e).session.Waiting r.id r.method ∨
      ∃ o, t.verdict? r e = some o ∧ (t.step e).session.Settled r.id o := by
  have still (same : Session.SameTable t.session (t.session.absorb e)) :
      t.closing? e = none ∧ (t.step e).session.Waiting r.id r.method := by
    rw [Traffic.closing?, Traffic.step_of_none hm, same.closed, h.open_]
    exact ⟨rfl, h.waits.congr same⟩
  cases e with
  | receive message =>
    rw [Traffic.step_of_none hm]
    simp only [Traffic.absorb_receive calm, Traffic.verdict?]
    simp only [Traffic.isCalm, Bool.and_eq_true, Bool.not_eq_true'] at calm
    cases own : isResponseTo r.id message with
    | true =>
      obtain ⟨response, hid⟩ := response_of_isResponseTo own
      exact .inr ⟨_, rfl, h.waits.dispatch_own response hid⟩
    | false => exact .inl ⟨rfl, h.waits.dispatch_other (requestId?_ne own calm.2)⟩
  | finish =>
    rw [Traffic.step_of_none hm]
    exact .inr ⟨_, rfl, (h.waits.lose _).congr (Session.endReader_same _)⟩
  | fail fault => cases calm
  | breaks fault => cases calm
  | expire task =>
    have open_ : t.verdict? r (.expire task) = t.closing? (.expire task) := by
      rw [Traffic.verdict?, hm]
      exact if_neg fun never => by cases never.2
    rw [open_]
    exact .inl (still (.refl _))
  | call task c => exact .inl (still (.refl _))
  | goOn task => exact .inl (still (.refl _))
  | unwritten task fault => exact .inl (still (.refl _))
  | garbled fault =>
    exact .inl (still (Session.absorb_plain (by simp) (by simp) (by simp)))
  | quit => exact .inl (still (Session.endReader_same _))
  | stir inbox decoder reader wakes => exact .inl (still ⟨rfl, rfl, rfl, rfl, rfl⟩)

/-- **An event of a calm run decides a request or leaves it undecided**, and answers it in neither
case. -/
theorem step (h : Undecided r t) (calm : t.isCalm e) :
    (t.step e).answersTo r.id = t.answersTo r.id ∧
      (t.verdict? r e = none ∧ Undecided r (t.step e) ∨
        ∃ o, t.verdict? r e = some o ∧ Decided r o 2 (t.step e)) := by
  have sound := Traffic.sound_step h.sound e
  have whole := Traffic.broken_step calm h.whole
  obtain ⟨stage, hs, stands⟩ := h.stands
  have silent (other : e ≠ .goOn r.task) : (t.step e).answersTo r.id = t.answersTo r.id :=
    Traffic.answersTo_step (Traffic.answer?_of_other h.sound h.own other)
  cases hm : t.move? e with
  | some m =>
    obtain ⟨k, m⟩ := m
    by_cases own : k = r.task
    · subst own
      rcases Traffic.task_of_move? hm with ⟨c, rfl, idle⟩ | rfl | rfl | ⟨fault, rfl⟩
      · rw [idle] at hs
        cases hs
      · obtain ⟨nothing, open_, still⟩ := h.goOn_own calm
        refine ⟨Traffic.answersTo_step fun o ho => ?_, .inl ⟨open_, still⟩⟩
        rw [nothing] at ho
        cases ho
      · obtain ⟨x, decided, due⟩ := h.expire_own hm
        exact ⟨silent (by simp), .inr ⟨_, decided, due.mono (by decide)⟩⟩
      · cases calm
    · have there : (t.step e).stage r.task = some stage :=
        (Traffic.stage_of_other hm own).trans hs
      refine ⟨silent (Traffic.ne_goOn_of_other hm own), ?_⟩
      rw [verdict?_of_other hm own]
      rcases h.of_other hm own with ⟨open_, waits⟩ | ⟨closed, settled⟩
      · exact .inl ⟨open_, sound, whole, waits, stage, there, stands⟩
      · exact .inr ⟨_, closed, sound, stage, there, stage.turns_le, .inl ⟨stands, settled⟩⟩
  | none =>
    have there : (t.step e).stage r.task = some stage := by
      rw [Traffic.step_of_none hm]
      exact hs
    refine ⟨silent fun he => ?_, ?_⟩
    · rw [he, Traffic.move?, hs] at hm
      cases hm
    · rcases h.absorb calm hm with ⟨open_, waits⟩ | ⟨o, decided, settled⟩
      · exact .inl ⟨open_, sound, whole, waits, stage, there, stands⟩
      · exact .inr ⟨o, decided, sound, stage, there, stage.turns_le, .inl ⟨stands, settled⟩⟩

end Undecided

/-! ## Something has decided it -/

/-- How often a call goes on in a run. -/
def turnsOf (task : Nat) (events : List Traffic.Event) : Nat :=
  events.countP fun e =>
    match e with
    | .goOn k => k = task
    | _ => false

/-- The request of `r` has ended since `before`: its outcome is `o`, and nothing else has been
answered to it. -/
structure Ended (r : Asked) (o : Outcome) (before after : Traffic) : Prop where
  past : Over r after
  answers : after.answersTo r.id = before.answersTo r.id ++ [o]
  finished : r.goal = .answer →
    ∃ since, after.finished = before.finished ++ since ∧ (r.task, o) ∈ since

namespace Decided

variable {r : Asked} {o : Outcome} {k : Nat} {t : Traffic} {e : Traffic.Event}

/-- The call that takes the outcome of its request has none any more. -/
theorem ended_of_conclude (sound : t.Sound) (own : t.own? r.task = some r.id) {stage : Stage}
    (hs : t.stage r.task = some stage) (ha : t.session.answer? stage = some (r.id, o))
    (hr : t.session.resume stage = t.session.conclude r.goal r.id o) :
    Ended r o t (t.step (.goOn r.task)) := by
  have hm : t.move? (.goOn r.task) = some (r.task, t.session.conclude r.goal r.id o) := by
    rw [Traffic.move?, hs, ← hr]
    rfl
  have answered : t.answer? (.goOn r.task) = some (r.id, o) := by
    rw [Traffic.answer?, hs]
    exact ha
  have past : Over r (t.step (.goOn r.task)) := by
    refine ⟨Traffic.sound_step sound _, ?_, fun task => ?_⟩
    · exact Nat.lt_of_lt_of_le (sound.given _ _ own) (Traffic.nextId_step_le _ _)
    · rw [Traffic.own?_of_move hm]
      split
      · rw [Session.conclude, Session.id?_proceed]
        simp
      · rename_i other
        exact fun mine => other (sound.apart _ _ _ mine own)
  refine ⟨past, ?_, fun goal => ⟨[(r.task, o)], ?_, List.mem_singleton_self _⟩⟩
  · rw [Traffic.step_of_move hm, Traffic.answersTo, answered]
    simp [Traffic.answersTo]
  · rw [Traffic.step_of_move hm]
    simp only [goal, Session.conclude_answer]
    rfl

/-- When its call goes on, the request ends, unless its call has to take one turn more. -/
theorem goOn_own (h : Decided r o k t) :
    Ended r o t (t.step (.goOn r.task)) ∨
      1 < k ∧ t.answer? (.goOn r.task) = none ∧ Decided r o (k - 1) (t.step (.goOn r.task)) := by
  obtain ⟨stage, hs, few, ⟨stands, settled⟩ | ⟨failure, rfl, rfl⟩⟩ := h.comes
  · rcases stands.resume_settled settled.outcome with
      ⟨ha, hr⟩ | ⟨silent, two, next, stands', one, hr⟩
    · exact .inl (ended_of_conclude h.sound h.own hs ha hr)
    · have hm : t.move? (.goOn r.task) = some (r.task, t.session, .waiting next) := by
        rw [Traffic.move?, hs, ← hr]
        rfl
      have sound := Traffic.sound_step h.sound (.goOn r.task)
      refine .inr ⟨by omega, ?_, sound, next, ?_, by omega, .inl ⟨stands', ?_⟩⟩
      · rw [Traffic.answer?, hs]
        exact silent
      · rw [Traffic.step_of_move hm]
        exact if_pos rfl
      · rw [Traffic.step_of_move hm]
        exact settled
  · exact .inl (ended_of_conclude h.sound h.own hs rfl rfl)

/-- The time of a call cannot be over if it waits for no request any more when it goes on. -/
theorem move?_expire_of_done {task : Nat} {stage : Stage} (hs : t.stage task = some stage)
    (done : (t.session.resume stage).2.id? = none) : t.move? (.expire task) = none := by
  rw [Traffic.move?, hs, Option.bind_some]
  split
  · rename_i he
    rw [he] at done
    cases done
  · rfl

/-- Its time can be over no more. -/
theorem move?_expire (h : Decided r o k t) : t.move? (.expire r.task) = none := by
  obtain ⟨stage, hs, _, ⟨stands, settled⟩ | ⟨failure, rfl, rfl⟩⟩ := h.comes
  · rcases stands.resume_settled settled.outcome with ⟨_, hr⟩ | ⟨_, _, next, stands', _, hr⟩
    · refine move?_expire_of_done hs ?_
      rw [hr]
      exact Session.id?_proceed ..
    · rw [Traffic.move?, hs, Option.bind_some, hr]
      cases stands' <;> rfl
  · exact move?_expire_of_done hs (Session.id?_proceed ..)

/-- No other event changes what the request will end with. -/
theorem of_other (h : Decided r o k t) (taken : ∀ fault, e ≠ .unwritten r.task fault)
    (other : e ≠ .goOn r.task) : Decided r o k (t.step e) := by
  have sound := Traffic.sound_step h.sound e
  have own := h.own
  obtain ⟨stage, hs, few, comes⟩ := h.comes
  cases hm : t.move? e with
  | some m =>
    obtain ⟨k, m⟩ := m
    have ne : k ≠ r.task := by
      rintro rfl
      rcases Traffic.task_of_move? hm with ⟨c, rfl, idle⟩ | rfl | rfl | ⟨fault, rfl⟩
      · rw [idle] at hs
        cases hs
      · exact other rfl
      · rw [h.move?_expire] at hm
        cases hm
      · exact taken fault rfl
    refine ⟨sound, stage, (Traffic.stage_of_other hm ne).trans hs, few, comes.imp_left ?_⟩
    refine fun ⟨stands, settled⟩ => ⟨stands, ?_⟩
    rw [Traffic.step_of_move hm]
    exact settled.of_moves (Traffic.moves_of_move? hm)
      (fun mine => ne (h.sound.apart _ _ _ mine own)) (h.sound.given _ _ own)
  | none =>
    rw [Traffic.step_of_none hm] at sound ⊢
    refine ⟨sound, stage, hs, few, comes.imp_left ?_⟩
    exact fun ⟨stands, settled⟩ => ⟨stands, settled.absorb e⟩

/-- **Only its own call comes to the outcome of a request that is decided**, and it finds that
outcome, if what the call writes is taken. -/
theorem step (h : Decided r o k t) (taken : ∀ fault, e ≠ .unwritten r.task fault) :
    Ended r o t (t.step e) ∨
      turnsOf r.task [e] < k ∧ Decided r o (k - turnsOf r.task [e]) (t.step e) ∧
        (t.step e).answersTo r.id = t.answersTo r.id := by
  by_cases own : e = .goOn r.task
  · subst own
    have one : turnsOf r.task [.goOn r.task] = 1 := by simp [turnsOf]
    rw [one]
    refine h.goOn_own.imp_right fun ⟨more, silent, due⟩ => ⟨more, due, ?_⟩
    exact Traffic.answersTo_step fun o ho => by
      rw [silent] at ho
      cases ho
  · have zero : turnsOf r.task [e] = 0 := by
      cases e with
      | goOn task =>
        have ne : task ≠ r.task := fun same => own (congrArg Traffic.Event.goOn same)
        simp [turnsOf, ne]
      | _ => rfl
    have some_left : 0 < k := by
      obtain ⟨stage, _, few, _⟩ := h.comes
      exact Nat.lt_of_lt_of_le stage.turns_pos few
    rw [zero]
    exact .inr ⟨some_left, h.of_other taken own,
      Traffic.answersTo_step (Traffic.answer?_of_other h.sound h.own own)⟩

end Decided

/-! ## It has ended -/

namespace Over

variable {r : Asked} {t : Traffic}

/-- Nobody answers a request that has ended. -/
theorem step (h : Over r t) (e : Traffic.Event) :
    Over r (t.step e) ∧ (t.step e).answersTo r.id = t.answersTo r.id := by
  refine ⟨⟨Traffic.sound_step h.sound e, ?_, fun task own => ?_⟩,
    Traffic.answersTo_step fun o ho => ?_⟩
  · exact Nat.lt_of_lt_of_le h.old (Traffic.nextId_step_le _ _)
  · rcases Traffic.own?_step own with before | ⟨new, _⟩
    · exact h.gone task before
    · exact Nat.not_lt_of_le new h.old
  · obtain ⟨task, _, own⟩ := Traffic.own?_of_answer? ho
    exact h.gone task own

theorem run (h : Over r t) (events : List Traffic.Event) :
    Over r (t.run events) ∧ (t.run events).answersTo r.id = t.answersTo r.id := by
  induction events generalizing t with
  | nil => exact ⟨h, rfl⟩
  | cons e rest ih =>
    obtain ⟨past, same⟩ := h.step e
    obtain ⟨past', same'⟩ := ih past
    exact ⟨past', same'.trans same⟩

end Over

namespace Ended

variable {r : Asked} {o : Outcome} {t u : Traffic}

theorem run (h : Ended r o t u) (events : List Traffic.Event) : Ended r o t (u.run events) := by
  obtain ⟨past, same⟩ := h.past.run events
  refine ⟨past, same.trans h.answers, fun goal => ?_⟩
  obtain ⟨since, there, mem⟩ := h.finished goal
  obtain ⟨more, hmore⟩ := u.finished_run events
  exact ⟨since ++ more, by rw [hmore, there, List.append_assoc], List.mem_append_left _ mem⟩

/-- A request that has ended since some events has ended since before them, if they did not answer
it. -/
theorem of_run {events : List Traffic.Event} (h : Ended r o (t.run events) u)
    (same : (t.run events).answersTo r.id = t.answersTo r.id) : Ended r o t u := by
  refine ⟨h.past, same ▸ h.answers, fun goal => ?_⟩
  obtain ⟨since, there, mem⟩ := h.finished goal
  obtain ⟨first, hfirst⟩ := t.finished_run events
  exact ⟨first ++ since, by rw [there, hfirst, List.append_assoc], List.mem_append_right _ mem⟩

theorem of_step {e : Traffic.Event} (h : Ended r o (t.step e) u)
    (same : (t.step e).answersTo r.id = t.answersTo r.id) : Ended r o t u :=
  @of_run r o t u [e] h same

end Ended

end ProbeBench
