import ProbeBench.Proofs.Session.Withdrawing

/-!
# Waiting with a limit

A caller with a limit waits until its response comes or its time is over. As long as nothing is
heard of a request, its call waits (`Waits`). One event leads on from there (`Waits.Next`): a
response, the end of its time, the end of the session, or a write that fails.

* `Traffic.heard?`: what is heard of a request with an event.
* `Traffic.upheld`: a run in which writes are taken, and the session goes on as long as a request
  does.
* `Waits.next`: what an event does to a request that waits, whatever the event is.
* `Waits.run`, `Waits.run_of_awaited`: a request that waits has not been withdrawn.
-/

namespace ProbeBench

open Session

namespace Traffic

/-- Whether a caller stops waiting with an event, as its time is over. -/
def lapses (t : Traffic) (task : Nat) : Event → Bool
  | .goOn k => k = task && ((t.stage k).any fun stage => (t.session.resume stage).2.isExpiring)
  | .expire k => k = task && (t.move? (.expire k)).isSome
  | _ => false

/-- What is heard of a request with an event: what it is answered with, or that its time is over. -/
def heard? (t : Traffic) (r : Asked) : Event → Option Outcome
  | .receive message =>
    if bearsId r.id message then some (responseOutcome r.method message) else none
  | e => if t.lapses r.task e then r.seconds.map fun x => .error (.timeout r.method x) else none

/-- Whether nothing is heard of a request in a run. -/
def silent (t : Traffic) (r : Asked) : List Event → Bool
  | [] => true
  | e :: rest => (t.heard? r e).isNone && (t.step e).silent r rest

/-- Whether what is written is taken, and the session does not end with an event, unless the request
does. -/
def upholds (t : Traffic) (r : Asked) (e : Event) : Bool :=
  (match e with
    | .unwritten .. => false
    | .breaks _ => false
    | _ => true) &&
    ((t.step e).session.ending.isNone || (t.step e).own? r.task ≠ some r.id)

/-- Whether writes are taken and the session goes on in a run, as long as a request does. -/
def upheld (t : Traffic) (r : Asked) : List Event → Bool
  | [] => true
  | e :: rest => (t.own? r.task ≠ some r.id || t.upholds r e) && (t.step e).upheld r rest

theorem upheld_append (t : Traffic) (r : Asked) (events more : List Event) :
    t.upheld r (events ++ more) = (t.upheld r events && (t.run events).upheld r more) := by
  induction events generalizing t with
  | nil => rfl
  | cons e rest ih => rw [List.cons_append, upheld, upheld, ih, Bool.and_assoc, run_cons]

variable {t : Traffic} {r : Asked} {e : Event}

theorem upheld_cons {rest : List Event} (h : t.upheld r (e :: rest))
    (own : t.own? r.task = some r.id) : t.upholds r e = true ∧ (t.step e).upheld r rest = true := by
  simpa [upheld, own] using h

theorem taken_of_upholds (h : t.upholds r e) (task : Nat) (fault : WriteFault) :
    e ≠ .unwritten task fault := by
  rintro rfl
  cases h

theorem alive_of_upholds (h : t.upholds r e) (own : (t.step e).own? r.task = some r.id) :
    (t.step e).session.ending = none := by
  simp only [upholds, own, Bool.and_eq_true, Bool.or_eq_true, Option.isNone_iff_eq_none, ne_eq,
    not_true_eq_false, decide_false, Bool.false_eq_true, or_false] at h
  exact h.2

theorem lapses_of_none (h : t.move? e = none) (task : Nat) : t.lapses task e = false := by
  cases e with
  | goOn k =>
    have idle : t.stage k = none := Option.map_eq_none_iff.mp h
    simp [lapses, idle]
  | expire k => simp [lapses, h]
  | _ => rfl

/-- The time of a caller is over with its own event. -/
theorem lapses_of_other {task k : Nat} {m : Session × Progress} (hm : t.move? e = some (k, m))
    (other : k ≠ task) : t.lapses task e = false := by
  rcases task_of_move? hm with ⟨c, rfl, -⟩ | rfl | rfl | ⟨fault, rfl⟩
  · rfl
  · simp [lapses, other]
  · simp [lapses, other]
  · rfl

/-- Besides responses, only the end of its time says something about a request. -/
theorem heard?_eq (old : ∀ message, e ≠ .receive message) :
    t.heard? r e =
      if t.lapses r.task e then r.seconds.map fun x => .error (.timeout r.method x) else none := by
  cases e with
  | receive message => exact absurd rfl (old message)
  | _ => rfl

theorem heard?_of_not_lapses (old : ∀ message, e ≠ .receive message)
    (no : t.lapses r.task e = false) : t.heard? r e = none := by
  rw [heard?_eq old, no, if_neg Bool.false_ne_true]

theorem heard?_of_lapses {x : Float} (lapse : t.lapses r.task e = true) (hx : r.seconds = some x) :
    t.heard? r e = some (.error (.timeout r.method x)) := by
  have old : ∀ message, e ≠ .receive message := by
    rintro message rfl
    cases lapse
  rw [heard?_eq old, lapse, if_pos rfl, hx, Option.map_some]

theorem whole_of_upholds (h : t.upholds r e) (whole : t.session.transport.wire.broken = none) :
    (t.step e).session.transport.wire.broken = none := by
  refine (broken_of_unbroken ?_).trans whole
  rintro fault rfl
  cases h

end Traffic

open Traffic

/-! ## Waiting -/

/-- Nothing has been said about the request yet: its entry is in the table, and its call waits. -/
structure Waits (r : Asked) (t : Traffic) : Prop where
  sound : t.Sound
  waits : t.session.Waiting r.id r.method
  stands : ∃ stage, t.stage r.task = some stage ∧ r.Stands stage

/-- Its caller has stopped waiting and not gone on yet. -/
structure Stopped (r : Asked) (x : Float) (t : Traffic) : Prop where
  sound : t.Sound
  alive : t.session.ending = none
  stage : t.stage r.task = some (.expiring r.goal r.id (.timeout r.method x))
  /-- Responses that come now are not for it. -/
  unawaited : t.session.awaits r.id = false

theorem Undecided.waits' {r : Asked} {t : Traffic} (h : Undecided r t) : Waits r t :=
  ⟨h.sound, h.waits, h.stands⟩

theorem Stopped.own {r : Asked} {x : Float} {t : Traffic} (h : Stopped r x t) :
    t.own? r.task = some r.id := by
  rw [own?, h.stage]
  rfl

namespace Waits

variable {r : Asked} {t : Traffic} {e : Traffic.Event}

theorem undecided (h : Waits r t) (whole : t.session.transport.wire.broken = none) :
    Undecided r t :=
  ⟨h.sound, whole, h.waits, h.stands⟩

theorem own (h : Waits r t) : t.own? r.task = some r.id := by
  obtain ⟨stage, hs, stands⟩ := h.stands
  rw [own?, hs]
  exact stands.id?

/-- What an event does to a request that waits. -/
inductive Next (r : Asked) (t : Traffic) (e : Traffic.Event) : Prop
  /-- It says nothing. -/
  | silent (nothing : t.heard? r e = none) (still : Waits r (t.step e))
      (spared : t.withdrawn r.id e = 0)
  /-- It is the response. -/
  | answered {message : Members} (is : e = .receive message) (own : bearsId r.id message = true)
      (due : Decided r (responseOutcome r.method message) 2 (t.step e))
      (unawaited : (t.step e).session.awaits r.id = false)
  /-- The session ends with it. -/
  | ended {o : Outcome} (past : (t.step e).session.ending ≠ none) (due : Decided r o 2 (t.step e))
      (unawaited : (t.step e).session.awaits r.id = false)
  /-- Its time is over, and its caller has not gone on yet. -/
  | stopped {x : Float} (limit : r.seconds = some x) (lapse : t.lapses r.task e = true)
      (next : Stopped r x (t.step e)) (spared : t.withdrawn r.id e = 0)
  /-- Its time is over, and its caller has withdrawn it. -/
  | withdrawn {x : Float} (limit : r.seconds = some x) (lapse : t.lapses r.task e = true)
      (due : Decided r (.error (.timeout r.method x)) 1 (t.step e))
      (gone : (t.step e).session.entryOf? r.id = none) (once : t.withdrawn r.id e = 1)
  /-- What its call writes is not taken. -/
  | failed (gone : (t.step e).session.entryOf? r.id = none)
      (why : e = .expire r.task ∧ t.session.transport.wire.broken ≠ none ∨
        ∃ fault, e = .unwritten r.task fault)

/-- Waiting or running out of time, it is not withdrawn by going on. -/
theorem spared_goOn (h : Waits r t) : t.withdrawn r.id (.goOn r.task) = 0 := by
  obtain ⟨stage, hs, stands⟩ := h.stands
  refine withdrawn_eq_zero ?_
  rw [givesUp?, hs]
  cases stands <;> simp

/-- Going on without an outcome, its call waits on, or stops waiting. -/
theorem goOn_own (h : Waits r t) : Next r t (.goOn r.task) := by
  have sound := sound_step h.sound (.goOn r.task)
  have spared := h.spared_goOn
  obtain ⟨stage, hs, stands⟩ := h.stands
  have hm : t.move? (.goOn r.task) = some (r.task, t.session.resume stage) := by
    rw [move?, hs]
    rfl
  obtain ⟨-, ⟨later, stands', hr⟩ | ⟨x, limit, hr⟩⟩ := stands.resume_waiting h.waits.outcome
  · have not_over : t.lapses r.task (.goOn r.task) = false := by
      simp only [lapses, hs, Option.any_some, hr, decide_true, Bool.true_and]
      cases stands' <;> rfl
    rw [hr] at hm
    refine .silent (heard?_of_not_lapses (by simp) not_over) ⟨sound, ?_, later, ?_, stands'⟩ spared
    · rw [step_of_move hm]
      exact h.waits
    · rw [step_of_move hm]
      exact if_pos rfl
  · have lapsed : t.lapses r.task (.goOn r.task) = true := by
      simp only [lapses, hs, Option.any_some, hr, decide_true, Bool.true_and]
      rfl
    rw [hr] at hm
    refine .stopped limit lapsed ⟨sound, ?_, ?_, ?_⟩ spared
    · rw [step_of_move hm]
      exact h.waits.alive
    · rw [step_of_move hm]
      exact if_pos rfl
    · rw [step_of_move hm, awaits]
      simp only
      rw [show (t.session.expire r.goal r.id (.timeout r.method x)).1 =
        t.session.act (.expire r.id) from rfl, entryOf?_expire, h.waits.entry]
      simp

/-- When its time is over and its caller goes on at once, the request is withdrawn. -/
theorem expire_own (h : Waits r t) {m : Session × Progress}
    (hm : t.move? (.expire r.task) = some (r.task, m)) : Next r t (.expire r.task) := by
  have sound := sound_step h.sound (.expire r.task)
  have lapsed : t.lapses r.task (.expire r.task) = true := by simp [lapses, hm]
  obtain ⟨stage, hs, stands⟩ := h.stands
  obtain ⟨-, ⟨later, stands', hr⟩ | ⟨x, limit, hr⟩⟩ := stands.resume_waiting h.waits.outcome
  · rw [move?, hs, Option.bind_some, hr] at hm
    cases stands' <;> cases hm
  · have given : t.move? (.expire r.task) = some (r.task,
        (t.session.act (.expire r.id)).giveUp r.goal r.id (.timeout r.method x)) := by
      rw [move?, hs, Option.bind_some, hr]
      rfl
    cases broken : t.session.transport.wire.broken with
    | none =>
      have open_ : (t.session.act (.expire r.id)).Open :=
        ⟨h.waits.alive, h.sound.session.open_of_alive h.waits.alive, broken⟩
      have gives := giveUp_of_open open_ r.goal r.id (.timeout r.method x)
      refine .withdrawn limit lapsed ⟨sound, _, ?_, Nat.le_refl _, .inr ⟨_, rfl, rfl⟩⟩ ?_
        (withdrawn_of_giveUp (by simp) given open_ rfl)
      · rw [step_of_move given, gives]
        exact if_pos rfl
      · rw [step_of_move given, gives]
        exact entryOf?_forget_self _ _
    | some fault =>
      obtain ⟨other, gives⟩ := giveUp_of_broken (s := t.session.act (.expire r.id)) broken r.goal
        r.id (.timeout r.method x)
      refine .failed ?_ (.inl ⟨rfl, by simp [broken]⟩)
      rw [step_of_move given, gives]
      exact entryOf?_conclude (s := (t.session.act (.expire r.id)).forget r.id)
        (h.sound.given _ _ h.own) _ _

/-- When its call cannot write, the request ends. -/
theorem unwritten_own (h : Waits r t) {fault : WriteFault} {m : Session × Progress}
    (hm : t.move? (.unwritten r.task fault) = some (r.task, m)) :
    Next r t (.unwritten r.task fault) := by
  have old := h.sound.given _ _ h.own
  obtain ⟨stage, hs, stands⟩ := h.stands
  cases stands with
  | awaiting =>
    rw [move?, hs] at hm
    cases hm
  | writing =>
    have fails : t.move? (.unwritten r.task fault) =
        some (r.task, t.session.conclude r.goal r.id (.error fault.failure)) := by
      rw [move?, hs]
      rcases r.after_cases with wait | ⟨x, -, check⟩
      · rw [wait]
        rfl
      · rw [check]
        rfl
    refine .failed ?_ (.inr ⟨fault, rfl⟩)
    rw [step_of_move fails]
    exact entryOf?_conclude old _ _

/-- Another call leaves the request waiting, unless it closes the session. -/
theorem of_other (h : Waits r t) {k : Nat} {m : Session × Progress}
    (hm : t.move? e = some (k, m)) (other : k ≠ r.task) : Next r t e := by
  have sound := sound_step h.sound e
  have spared := withdrawn_eq_zero (givesUp?_of_other h.sound h.own hm other)
  have ne : t.own? k ≠ some r.id := fun own => other (h.sound.apart _ _ _ own h.own)
  obtain ⟨stage, hs, stands⟩ := h.stands
  have there : (t.step e).stage r.task = some stage := (stage_of_other hm other).trans hs
  have old : ∀ message, e ≠ .receive message := by
    rintro message rfl
    cases hm
  have left := h.waits.of_moves (moves_of_move? hm) ne (h.sound.given _ _ h.own)
  have left_eq : (t.step e).session = m.1 := by rw [step_of_move hm]
  rw [← left_eq] at left
  rcases left with waits | ⟨settled, closed⟩
  · exact .silent (heard?_of_not_lapses old (lapses_of_other hm other))
      ⟨sound, waits, stage, there, stands⟩ spared
  · exact .ended (sound.session.closed closed)
      ⟨sound, stage, there, stage.turns_le, .inl ⟨stands, settled⟩⟩ settled.awaits

/-- What comes from the server answers the request, ends the session, or says nothing. -/
theorem absorb (h : Waits r t) (hm : t.move? e = none) : Next r t e := by
  have sound := sound_step h.sound e
  have spared : t.withdrawn r.id e = 0 := withdrawn_eq_zero (by simp [givesUp?_of_none hm])
  obtain ⟨stage, hs, stands⟩ := h.stands
  have there : (t.step e).stage r.task = some stage := by
    rw [step_of_none hm]
    exact hs
  have due {o : Outcome} (settled : (t.step e).session.Settled r.id o) :
      Decided r o 2 (t.step e) :=
    ⟨sound, stage, there, stage.turns_le, .inl ⟨stands, settled⟩⟩
  have still (nothing : t.heard? r e = none) (waits : (t.step e).session.Waiting r.id r.method) :
      Next r t e := .silent nothing ⟨sound, waits, stage, there, stands⟩ spared
  have lost {s : Session} (waits : s.Waiting r.id r.method) {ending : Ending}
      (left : (t.step e).session = (s.lose ending).endReader) : Next r t e := by
    have settled : (t.step e).session.Settled r.id (.error ending.failure) := by
      rw [left]
      exact (waits.lose _).congr (endReader_same _)
    refine .ended ?_ (due settled) settled.awaits
    rw [left, lose, endWith_eq]
    exact Option.some_ne_none _
  have plain (old : ∀ message, e ≠ .receive message)
      (same : SameTable t.session (t.session.absorb e)) : Next r t e := by
    refine still (heard?_of_not_lapses old (lapses_of_none hm _)) ?_
    rw [step_of_none hm]
    exact h.waits.congr same
  cases e with
  | receive message =>
    cases own : bearsId r.id message with
    | true =>
      obtain ⟨response, hid⟩ := bearsId_iff.mp own
      have settled := h.waits.dispatch_own response hid
      have left : (t.step (.receive message)).session = (t.session.dispatch message).1 := by
        rw [step_of_none hm]
        simp only [Session.absorb, dispatch_of_response response]
      rw [← left] at settled
      exact .answered rfl own (due settled) settled.awaits
    | false =>
      have other (response : IsResponse message) :
          requestId? (message.get? "id") ≠ some (r.id : Int) := fun hid => by
        rw [bearsId_iff.mpr ⟨response, hid⟩] at own
        cases own
      have waits := h.waits.dispatch_other other
      have left : (t.step (.receive message)).session = t.session.absorb (.receive message) := by
        rw [step_of_none hm]
      cases handled : t.session.dispatch message with
      | mk s stops =>
        rw [handled] at waits
        simp only [Session.absorb, handled] at left
        cases stops with
        | none => exact still (by simp [heard?, own]) (left ▸ waits)
        | some fault => exact lost waits left
  | finish => exact lost h.waits (by rw [step_of_none hm]; rfl)
  | fail fault => exact lost h.waits (by rw [step_of_none hm]; rfl)
  | garbled fault => exact plain (by simp) (absorb_plain (by simp) (by simp) (by simp))
  | _ => exact plain (by simp) (absorb_plain (by simp) (by simp) (by simp))

/-- **One event leads on from a request that waits**, or leaves it waiting. -/
theorem next (h : Waits r t) (e : Traffic.Event) : Next r t e := by
  cases hm : t.move? e with
  | none => exact h.absorb hm
  | some m =>
    obtain ⟨k, m⟩ := m
    by_cases own : k = r.task
    · subst own
      obtain ⟨stage, hs, -⟩ := h.stands
      rcases task_of_move? hm with ⟨c, rfl, idle⟩ | rfl | rfl | ⟨fault, rfl⟩
      · rw [idle] at hs
        cases hs
      · exact h.goOn_own
      · exact h.expire_own hm
      · exact h.unwritten_own hm
    · exact h.of_other hm own

/-- Nobody is answered while a request waits. -/
theorem answersTo (h : Waits r t) (e : Traffic.Event) :
    (t.step e).answersTo r.id = t.answersTo r.id := by
  refine answersTo_step fun o ho => ?_
  obtain ⟨task, rfl, own⟩ := own?_of_answer? ho
  obtain rfl := h.sound.apart _ _ _ own h.own
  obtain ⟨stage, hs, stands⟩ := h.stands
  have nothing := (stands.resume_waiting h.waits.outcome).1
  rw [Traffic.answer?, hs, Option.bind_some, nothing] at ho
  cases ho

/-- As long as writes are taken and the session goes on, something is said about a request, or it
waits on. -/
theorem upheld_next (h : Waits r t) (whole : t.session.transport.wire.broken = none)
    (upholds : t.upholds r e) :
    (t.heard? r e = none ∧ Waits r (t.step e) ∧ t.withdrawn r.id e = 0) ∨
      ∃ o, t.heard? r e = some o ∧
        (Decided r o 2 (t.step e) ∧ t.lapses r.task e = false ∨
          ∃ x, r.seconds = some x ∧ o = .error (.timeout r.method x) ∧
            (Stopped r x (t.step e) ∧ t.withdrawn r.id e = 0 ∨
              Decided r o 1 (t.step e) ∧ (t.step e).session.entryOf? r.id = none ∧
                t.withdrawn r.id e = 1)) := by
  cases h.next e with
  | silent nothing still spared => exact .inl ⟨nothing, still, spared⟩
  | answered is own due _ =>
    subst is
    exact .inr ⟨_, if_pos own, .inl ⟨due, rfl⟩⟩
  | ended past due _ => exact absurd (alive_of_upholds upholds due.own) past
  | stopped limit lapse next spared =>
    exact .inr ⟨_, heard?_of_lapses lapse limit, .inr ⟨_, limit, rfl, .inl ⟨next, spared⟩⟩⟩
  | withdrawn limit lapse due gone once =>
    exact .inr ⟨_, heard?_of_lapses lapse limit, .inr ⟨_, limit, rfl, .inr ⟨due, gone, once⟩⟩⟩
  | failed gone why =>
    rcases why with ⟨-, broken⟩ | ⟨fault, rfl⟩
    · exact absurd whole broken
    · exact absurd rfl (taken_of_upholds upholds r.task fault)

/-- **As long as nothing is said about it, a request waits**, unanswered and not withdrawn. -/
theorem run (h : Waits r t) (whole : t.session.transport.wire.broken = none)
    {events : List Traffic.Event} (upheld : t.upheld r events) (silent : t.silent r events) :
    Waits r (t.run events) ∧ (t.run events).session.transport.wire.broken = none ∧
      (t.run events).answersTo r.id = t.answersTo r.id ∧ t.withdrawals r.id events = 0 := by
  induction events generalizing t with
  | nil => exact ⟨h, whole, rfl, rfl⟩
  | cons e rest ih =>
    obtain ⟨upholds, upheld⟩ := upheld_cons upheld h.own
    simp only [Traffic.silent, Bool.and_eq_true, Option.isNone_iff_eq_none] at silent
    rcases h.upheld_next whole upholds with ⟨-, still, spared⟩ | ⟨o, said, -⟩
    · obtain ⟨waits, whole', same, none_later⟩ :=
        ih still (whole_of_upholds upholds whole) upheld silent.2
      refine ⟨waits, whole', same.trans (h.answersTo e), ?_⟩
      rw [Traffic.withdrawals, spared, none_later]
    · rw [silent.1] at said
      cases said

/-- **A request that can still be answered waits**, whatever has happened, and has not been
withdrawn. -/
theorem run_of_awaited (h : Waits r t) {events : List Traffic.Event}
    (awaited : (t.run events).session.awaits r.id = true) :
    Waits r (t.run events) ∧ t.withdrawals r.id events = 0 := by
  induction events generalizing t with
  | nil => exact ⟨h, rfl⟩
  | cons e rest ih =>
    have old : r.id < (t.step e).session.nextId :=
      Nat.lt_of_lt_of_le (h.sound.given _ _ h.own) (t.nextId_step_le e)
    have never (no : (t.step e).session.awaits r.id = false) : False := by
      have later := (dwindles_run old rest).not_awaited no
      rw [run_cons, later] at awaited
      cases awaited
    have left (gone : (t.step e).session.entryOf? r.id = none) : False :=
      never (by rw [awaits, gone])
    cases h.next e with
    | silent nothing still spared =>
      obtain ⟨waits, none_later⟩ := ih still awaited
      exact ⟨waits, by rw [Traffic.withdrawals, spared, none_later]⟩
    | answered _ _ _ unawaited => exact (never unawaited).elim
    | ended _ _ unawaited => exact (never unawaited).elim
    | stopped _ _ next _ => exact (never next.unawaited).elim
    | withdrawn _ _ _ gone _ => exact (left gone).elim
    | failed gone _ => exact (left gone).elim

end Waits

end ProbeBench
