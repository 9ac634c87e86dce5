import Mathlib.Data.List.Induction
import ProbeBench.Proofs.Session.Ending
import ProbeBench.Proofs.Session.Lapsing

/-!
# Requests whose time is over

A caller whose time is over stops waiting, goes on to withdraw its request, and fails. Between these
steps others may go on: responses that come late, other callers whose time is over, callers who are
answered. None of that changes what becomes of the request, and the request changes nothing for the
others.

* `Stopped.step`: only its own call leads on from there.
* `Retreats.run`: what has become of a request whose time was over, after any run.
* `Undecided.ends_as_heard`: a request ends with what is heard of it first.
* `Waits.spared`: a request that is answered in time is never withdrawn.
* `timeout_is_local`: the result.
-/

namespace ProbeBench

open Session Traffic

/-! ## What comes after -/

/-- A request that will end in a certain way does so when its call goes on. -/
theorem Decided.run_upheld {r : Asked} {o : Outcome} {k : Nat} {t : Traffic}
    {events : List Traffic.Event} (h : Decided r o k t) (upheld : t.upheld r events) :
    Ended r o t (t.run events) ∨
      turnsOf r.task events < k ∧ Decided r o (k - turnsOf r.task events) (t.run events) ∧
        (t.run events).answersTo r.id = t.answersTo r.id := by
  refine h.run_of_taken (Q := fun t events => t.upheld r events) (fun due upheld => ?_) upheld
  obtain ⟨upholds, later⟩ := upheld_cons upheld due.own
  exact ⟨taken_of_upholds upholds r.task, later⟩

namespace Stopped

variable {r : Asked} {x : Float} {t : Traffic} {e : Traffic.Event}

theorem open_ (h : Stopped r x t) (whole : t.session.transport.wire.broken = none) :
    t.session.Open :=
  ⟨h.alive, h.sound.session.open_of_alive h.alive, whole⟩

/-- Its own call goes on only to give the request up. -/
theorem goOn_of_move (h : Stopped r x t) (whole : t.session.transport.wire.broken = none)
    {m : Session × Progress} (hm : t.move? e = some (r.task, m)) :
    e = .goOn r.task ∧ m = t.session.giveUp r.goal r.id (.timeout r.method x) := by
  rcases task_of_move? hm with ⟨c, rfl, idle⟩ | rfl | rfl | ⟨fault, rfl⟩
  · rw [h.stage] at idle
    cases idle
  · rw [move?, h.stage] at hm
    cases hm
    exact ⟨rfl, rfl⟩
  · have goes : t.session.resume (.expiring r.goal r.id (.timeout r.method x)) = _ :=
      giveUp_of_open (h.open_ whole) r.goal r.id (.timeout r.method x)
    rw [move?, h.stage, Option.bind_some, goes] at hm
    cases hm
  · rw [move?, h.stage] at hm
    cases hm

/-- **A caller that has stopped waiting withdraws its request when it goes on**, and nothing else
does. -/
theorem step (h : Stopped r x t) (whole : t.session.transport.wire.broken = none)
    (upholds : t.upholds r e) :
    (t.step e).answersTo r.id = t.answersTo r.id ∧
      (turnsOf r.task [e] = 0 ∧ Stopped r x (t.step e) ∧ t.withdrawn r.id e = 0 ∨
        turnsOf r.task [e] = 1 ∧ Decided r (.error (.timeout r.method x)) 1 (t.step e) ∧
          (t.step e).session.entryOf? r.id = none ∧ t.withdrawn r.id e = 1) := by
  have sound := sound_step h.sound e
  have old := h.sound.given _ _ h.own
  have silent : (t.step e).answersTo r.id = t.answersTo r.id := by
    refine answersTo_step fun o ho => ?_
    obtain ⟨task, rfl, own⟩ := own?_of_answer? ho
    obtain rfl := h.sound.apart _ _ _ own h.own
    rw [Traffic.answer?, h.stage] at ho
    cases ho
  refine ⟨silent, ?_⟩
  have still (other : e ≠ .goOn r.task)
      (there : (t.step e).stage r.task = some (.expiring r.goal r.id (.timeout r.method x)))
      (gives : t.givesUp? e ≠ some r.id) :
      turnsOf r.task [e] = 0 ∧ Stopped r x (t.step e) ∧ t.withdrawn r.id e = 0 := by
    have own : (t.step e).own? r.task = some r.id := by
      rw [own?, there]
      rfl
    refine ⟨?_, ⟨sound, alive_of_upholds upholds own, there, ?_⟩, withdrawn_eq_zero gives⟩
    · cases e with
      | goOn task =>
        have ne : task ≠ r.task := fun same => other (congrArg Traffic.Event.goOn same)
        simp [turnsOf, ne]
      | _ => rfl
    · exact (dwindles_step old e).not_awaited h.unawaited
  cases hm : t.move? e with
  | none =>
    refine .inl (still ?_ ?_ (by simp [givesUp?_of_none hm]))
    · rintro rfl
      rw [move?, h.stage] at hm
      cases hm
    · rw [step_of_none hm]
      exact h.stage
  | some m =>
    obtain ⟨k, m⟩ := m
    by_cases own : k = r.task
    · subst own
      obtain ⟨rfl, rfl⟩ := h.goOn_of_move whole hm
      have gives := giveUp_of_open (h.open_ whole) r.goal r.id (.timeout r.method x)
      refine .inr ⟨by simp [turnsOf], ⟨sound, _, ?_, Nat.le_refl _, .inr ⟨_, rfl, rfl⟩⟩, ?_,
        withdrawn_of_giveUp (by simp) hm (h.open_ whole) rfl⟩
      · rw [step_of_move hm, gives]
        exact if_pos rfl
      · rw [step_of_move hm, gives]
        exact entryOf?_forget_self _ _
    · exact .inl (still (ne_goOn_of_other hm own) ((stage_of_other hm own).trans h.stage)
        (givesUp?_of_other h.sound h.own hm own))

end Stopped

/-! ## From the end of its time to the end of the request -/

/-- What has become of a request whose time was over with the event `e`, after some more events. -/
inductive Retreats (r : Asked) (x : Float) (t : Traffic) (e : Traffic.Event)
    (later : List Traffic.Event) : Prop
  /-- Its call has not gone on. -/
  | stopped (still : Stopped r x (t.run (e :: later)))
      (whole : (t.run (e :: later)).session.transport.wire.broken = none)
      (unanswered : (t.run (e :: later)).answersTo r.id = t.answersTo r.id)
      (spared : t.withdrawals r.id (e :: later) = 0) (turns : turnsOf r.task later = 0)
  /-- It has been withdrawn, and its call has not gone on since. -/
  | withdrawn (due : Decided r (.error (.timeout r.method x)) 1 (t.run (e :: later)))
      (unanswered : (t.run (e :: later)).answersTo r.id = t.answersTo r.id)
      (gone : (t.run (e :: later)).session.entryOf? r.id = none)
      (once : t.withdrawals r.id (e :: later) = 1) (turns : turnsOf r.task later ≤ 1)
  /-- It has ended. -/
  | failed (ended : Ended r (.error (.timeout r.method x)) t (t.run (e :: later)))
      (gone : (t.run (e :: later)).session.entryOf? r.id = none)
      (once : t.withdrawals r.id (e :: later) = 1)

namespace Traffic

theorem run_concat (t : Traffic) (e : Event) (later : List Event) (f : Event) :
    t.run (e :: (later ++ [f])) = (t.run (e :: later)).step f := by
  rw [← List.cons_append, run_append]
  rfl

theorem withdrawals_concat (t : Traffic) (n : Nat) (e : Event) (later : List Event) (f : Event) :
    t.withdrawals n (e :: (later ++ [f])) =
      t.withdrawals n (e :: later) + (t.run (e :: later)).withdrawn n f := by
  rw [← List.cons_append, withdrawals_append]
  rfl

end Traffic

theorem turnsOf_append (task : Nat) (events more : List Traffic.Event) :
    turnsOf task (events ++ more) = turnsOf task events + turnsOf task more :=
  List.countP_append

namespace Retreats

variable {r : Asked} {x : Float} {t : Traffic} {e : Traffic.Event} {later : List Traffic.Event}

/-- **One event leads on**: the caller who has stopped waiting withdraws the request, and the one
who has withdrawn it fails. -/
theorem step (h : Retreats r x t e later) {f : Traffic.Event}
    (upheld : (t.run (e :: later)).upheld r [f]) : Retreats r x t e (later ++ [f]) := by
  cases h with
  | stopped still whole unanswered spared turns =>
    obtain ⟨upholds, -⟩ := upheld_cons upheld still.own
    obtain ⟨same, ⟨none_now, still', spared'⟩ | ⟨one, due, gone, once⟩⟩ := still.step whole upholds
    · refine .stopped ?_ ?_ ?_ ?_ ?_
      · rwa [run_concat]
      · rw [run_concat]
        exact whole_of_upholds upholds whole
      · rw [run_concat, same, unanswered]
      · rw [withdrawals_concat, spared, spared']
      · rw [turnsOf_append, turns, none_now]
    · refine .withdrawn ?_ ?_ ?_ ?_ ?_
      · rwa [run_concat]
      · rw [run_concat, same, unanswered]
      · rwa [run_concat]
      · rw [withdrawals_concat, spared, once]
      · exact Nat.le_of_eq (by rw [turnsOf_append, turns, one])
  | withdrawn due unanswered gone once turns =>
    obtain ⟨upholds, -⟩ := upheld_cons upheld due.own
    have gone' := (dwindles_step (due.sound.given _ _ due.own) f).entryOf?_none gone
    have once' : t.withdrawals r.id (e :: (later ++ [f])) = 1 := by
      rw [withdrawals_concat, once, due.withdrawn]
    rcases due.step (taken_of_upholds upholds r.task) with ended | ⟨few, due', same⟩
    · refine .failed ?_ ?_ once'
      · rw [run_concat]
        exact ended.of_run unanswered
      · rwa [run_concat]
    · have none_now : turnsOf r.task [f] = 0 := by omega
      rw [none_now] at due'
      refine .withdrawn ?_ ?_ ?_ once' ?_
      · rwa [run_concat]
      · rw [run_concat, same, unanswered]
      · rwa [run_concat]
      · rw [turnsOf_append, none_now]
        exact turns
  | failed ended gone once =>
    refine .failed ?_ ?_ ?_
    · rw [run_concat]
      exact ended.run [f]
    · rw [run_concat]
      exact (dwindles_step ended.past.old f).entryOf?_none gone
    · rw [withdrawals_concat, once, ended.past.withdrawn]

/-- **A request whose time is over ends in two turns of its call**, and is withdrawn once. -/
theorem run (first : Retreats r x t e []) (upheld : (t.step e).upheld r later) :
    Retreats r x t e later := by
  induction later using List.reverseRecOn with
  | nil => exact first
  | append_singleton later f ih =>
    rw [upheld_append, Bool.and_eq_true] at upheld
    exact (ih upheld.1).step upheld.2

/-- How it begins. -/
theorem of_next (waits : Waits r t) (whole : t.session.transport.wire.broken = none)
    (upholds : t.upholds r e) (next : Stopped r x (t.step e) ∧ t.withdrawn r.id e = 0 ∨
      Decided r (.error (.timeout r.method x)) 1 (t.step e) ∧
        (t.step e).session.entryOf? r.id = none ∧ t.withdrawn r.id e = 1) :
    Retreats r x t e [] := by
  have same := waits.answersTo e
  rcases next with ⟨stopped, spared⟩ | ⟨due, gone, once⟩
  · exact .stopped stopped (whole_of_upholds upholds whole) same
      (by rw [withdrawals, spared, withdrawals]) rfl
  · exact .withdrawn due same gone (by rw [withdrawals, once, withdrawals]) (Nat.zero_le 1)

end Retreats

/-! ## Other requests -/

/-- As long as nothing is heard of a request, it waits; and it ends with what is heard first. -/
def Traffic.EndsAsHeard (t : Traffic) (r : Asked) : Prop :=
  ∀ between, t.upheld r between → t.silent r between →
    Undecided r (t.run between) ∧
      ∀ e later o, (t.run between).heard? r e = some o → (t.run between).upheld r (e :: later) →
        ProbeBench.Ended r o (t.run between) ((t.run between).run (e :: later)) ∨
          ((t.run between).run (e :: later)).own? r.task = some r.id ∧ turnsOf r.task later < 2

/-- **A request ends with what is heard of it first**, whatever else happens, as long as writes are
taken and the session goes on: at the second turn of its call at the latest. Until then it keeps its
entry, and its call waits. -/
theorem Undecided.ends_as_heard {r : Asked} {t : Traffic} (h : Undecided r t) :
    t.EndsAsHeard r := by
  intro between upheld silent
  obtain ⟨waits, whole, -, -⟩ := h.waits'.run h.whole upheld silent
  refine ⟨waits.undecided whole, fun e later o heard upheld => ?_⟩
  obtain ⟨upholds, upheld'⟩ := upheld_cons upheld waits.own
  rcases waits.upheld_next whole upholds with ⟨nothing, -, -⟩ | ⟨o', heard', next⟩
  · rw [nothing] at heard
    cases heard
  · rw [heard] at heard'
    cases heard'
    rcases next with ⟨due, -⟩ | ⟨x, -, rfl, next⟩
    · rcases due.run_upheld upheld' with ended | ⟨few, due', -⟩
      · exact .inl (ended.of_step (waits.answersTo e))
      · exact .inr ⟨due'.own, few⟩
    · cases (Retreats.of_next waits whole upholds next).run upheld' with
      | stopped still _ _ _ turns => exact .inr ⟨still.own, by omega⟩
      | withdrawn due _ _ _ turns => exact .inr ⟨due.own, by omega⟩
      | failed ended _ _ => exact .inl ended

/-! ## Answered in time -/

/-- What the call of a request that will end in a certain way has written last may be the request
itself; if that is not taken after all, the request ends otherwise. -/
theorem Decided.unwritten_own {r : Asked} {o : Outcome} {k : Nat} {t : Traffic}
    (h : Decided r o k t) (fault : WriteFault) :
    Decided r o k (t.step (.unwritten r.task fault)) ∨
      Over r (t.step (.unwritten r.task fault)) := by
  have sound := sound_step h.sound (.unwritten r.task fault)
  have own := h.own
  have fails (other : Failure)
      (hm : t.move? (.unwritten r.task fault) =
        some (r.task, t.session.conclude r.goal r.id (.error other))) :
      Over r (t.step (.unwritten r.task fault)) := by
    refine ⟨sound, ?_, fun task => ?_⟩
    · exact Nat.lt_of_lt_of_le (h.sound.given _ _ own) (t.nextId_step_le _)
    · rw [own?_of_move hm]
      split
      · rw [Session.conclude, id?_proceed]
        simp
      · rename_i other
        exact fun mine => other (h.sound.apart _ _ _ mine own)
  obtain ⟨stage, hs, few, ⟨stands, settled⟩ | ⟨failure, rfl, rfl⟩⟩ := h.comes
  · cases stands with
    | awaiting =>
      have hm : t.move? (.unwritten r.task fault) = none := by rw [move?, hs]
      rw [step_of_none hm] at sound ⊢
      exact .inl ⟨sound, _, hs, few, .inl ⟨.awaiting, settled⟩⟩
    | writing =>
      refine .inr (fails fault.failure ?_)
      rw [move?, hs]
      rcases r.after_cases with wait | ⟨x, -, check⟩
      · rw [wait]
        rfl
      · rw [check]
        rfl
  · refine .inr (fails fault.failure ?_)
    rw [move?, hs]
    rfl

/-- **A request that will end in a certain way is not withdrawn any more**, whatever happens. -/
theorem Decided.withdrawals {r : Asked} {o : Outcome} {k : Nat} {t : Traffic} (h : Decided r o k t)
    (events : List Traffic.Event) : t.withdrawals r.id events = 0 := by
  induction events generalizing t k with
  | nil => rfl
  | cons e rest ih =>
    rw [Traffic.withdrawals, h.withdrawn, Nat.zero_add]
    by_cases taken : ∀ fault, e ≠ .unwritten r.task fault
    · rcases h.step taken with ended | ⟨-, due, -⟩
      · exact ended.past.withdrawals rest
      · exact ih due
    · obtain ⟨fault, rfl⟩ := not_forall_not.mp taken
      rcases h.unwritten_own fault with due | past
      · exact ih due
      · exact past.withdrawals rest

/-- **A request that is answered in time is never withdrawn**, whatever happens before and after. -/
theorem Waits.spared {r : Asked} {t : Traffic} (h : Waits r t) {events later : List Traffic.Event}
    {message : Members} (awaited : (t.run events).session.awaits r.id = true)
    (own : bearsId r.id message = true) :
    t.withdrawals r.id (events ++ .receive message :: later) = 0 := by
  obtain ⟨waits, spared⟩ := h.run_of_awaited awaited
  have said : (t.run events).heard? r (.receive message) =
      some (responseOutcome r.method message) := if_pos own
  have now : (t.run events).withdrawn r.id (.receive message) = 0 :=
    withdrawn_eq_zero (by simp [givesUp?])
  rw [withdrawals_append, spared, Traffic.withdrawals, now, Nat.zero_add, Nat.zero_add]
  cases waits.next (.receive message) with
  | silent nothing _ _ =>
    rw [nothing] at said
    cases said
  | answered _ _ due _ => exact due.withdrawals later
  | ended _ due _ => exact due.withdrawals later
  | stopped _ lapse _ _ => cases lapse
  | withdrawn _ lapse _ _ _ => cases lapse
  | failed _ why => rcases why with ⟨never, -⟩ | ⟨fault, never⟩ <;> cases never

/-! ## The result -/

namespace Waits

variable {r : Asked} {t : Traffic} {e : Traffic.Event}

/-- It is its own call that goes on when its time is over, and only a caller with a limit runs out
of time. -/
theorem limit_of_lapse (h : Waits r t) (lapse : t.lapses r.task e = true) :
    ∃ x m, r.seconds = some x ∧ t.move? e = some (r.task, m) := by
  obtain ⟨stage, hs, stands⟩ := h.stands
  obtain ⟨-, ⟨later, stands', hr⟩ | ⟨x, limit, hr⟩⟩ := stands.resume_waiting h.waits.outcome
  · cases e with
    | goOn k =>
      simp only [lapses, Bool.and_eq_true, decide_eq_true_eq] at lapse
      obtain ⟨rfl, lapsed⟩ := lapse
      rw [hs, Option.any_some, hr] at lapsed
      cases stands' <;> cases lapsed
    | expire k =>
      simp only [lapses, Bool.and_eq_true, decide_eq_true_eq] at lapse
      obtain ⟨rfl, lapsed⟩ := lapse
      rw [move?, hs, Option.bind_some, hr] at lapsed
      cases stands' <;> cases lapsed
    | _ => cases lapse
  · cases e with
    | goOn k =>
      obtain rfl : k = r.task := by simp_all [lapses]
      exact ⟨x, _, limit, by rw [move?, hs]; rfl⟩
    | expire k =>
      obtain rfl : k = r.task := by simp_all [lapses]
      exact ⟨x, _, limit, by rw [move?, hs, Option.bind_some, hr]; rfl⟩
    | _ => cases lapse

/-- **When its time is over, its caller stops waiting or withdraws it.** -/
theorem of_lapse (h : Waits r t) (whole : t.session.transport.wire.broken = none)
    (upholds : t.upholds r e) (lapse : t.lapses r.task e = true) :
    ∃ x, r.seconds = some x ∧ (t.step e).session.ending = none ∧ Retreats r x t e [] := by
  obtain ⟨x, -, limit, -⟩ := h.limit_of_lapse lapse
  have heard := heard?_of_lapses lapse limit
  rcases h.upheld_next whole upholds with ⟨nothing, -, -⟩ | ⟨o, heard', ⟨-, early⟩ | next⟩
  · rw [nothing] at heard
    cases heard
  · rw [early] at lapse
    cases lapse
  · obtain ⟨x', limit', rfl, next⟩ := next
    rw [limit] at limit'
    cases limit'
    refine ⟨x, limit, alive_of_upholds upholds ?_, .of_next h whole upholds next⟩
    rcases next with ⟨stopped, -⟩ | ⟨due, -⟩
    · exact stopped.own
    · exact due.own

/-- The end of its time leaves the others waiting. -/
theorem spares (h : Waits r t) (upholds : t.upholds r e) (lapse : t.lapses r.task e = true)
    (alive : (t.step e).session.ending = none) {other : Asked} (apart : other.task ≠ r.task)
    (waits : Undecided other t) : Undecided other (t.step e) := by
  obtain ⟨-, m, -, hm⟩ := h.limit_of_lapse lapse
  have old : ∀ message, e ≠ .receive message := by
    rintro message rfl
    cases lapse
  have upholds' : t.upholds other e = true := by
    simp only [Traffic.upholds, alive, Option.isNone_none, Bool.true_or, Bool.and_true] at upholds ⊢
    exact upholds
  have nothing := heard?_of_not_lapses (r := other) old (lapses_of_other hm apart.symm)
  rcases waits.waits'.upheld_next waits.whole upholds' with ⟨-, still, -⟩ | ⟨o, heard, -⟩
  · exact still.undecided (whole_of_upholds upholds waits.whole)
  · rw [nothing] at heard
    cases heard

end Waits

/-- From the end of its time on, nobody waits for its response. -/
theorem Retreats.unawaited {r : Asked} {x : Float} {t : Traffic} {e : Traffic.Event}
    {later : List Traffic.Event} (h : Retreats r x t e later) :
    (t.run (e :: later)).session.awaits r.id = false := by
  cases h with
  | stopped still _ _ _ _ => exact still.unawaited
  | withdrawn _ _ gone _ _ => rw [awaits, gone]
  | failed _ gone _ => rw [awaits, gone]

/-- **A timeout is local.** On a session that has been started, a call makes a request while writes
are taken.

If its time is over with the event `e`, before anything is heard of it, while writes are taken and
the session goes on: the request has been written and not withdrawn so far; it is withdrawn exactly
once before it fails, and fails with its method and its limit; its entry goes; the others keep
theirs, and every other request that waits ends with what is heard of it first; and every response
to it that comes later is dropped and does nothing else.

If it is answered before its time is over, it is never withdrawn. -/
theorem timeout_is_local {t : Traffic} (started : t.Started) {before : List Traffic.Event}
    {r : Asked} {call : Call} (whole : (t.run before).session.transport.wire.broken = none)
    (asks : Asks r call (t.run before)) :
    let asked := t.run (before ++ [.call r.task call])
    (∃ params, asked.session.transport.wire.sent =
      (t.run before).session.transport.wire.sent ++ [requestMessage r.id r.method params]) ∧
    (∀ between e, asked.upheld r (between ++ [e]) → asked.silent r between →
      (asked.run between).lapses r.task e →
      let waits := asked.run between
      ∃ x, r.seconds = some x ∧ asked.withdrawals r.id between = 0 ∧
        waits.answersTo r.id = [] ∧
        (∀ later, (waits.step e).upheld r later → Retreats r x waits e later) ∧
        (∀ n < waits.session.nextId, n ≠ r.id →
          (waits.step e).session.entryOf? n = waits.session.entryOf? n) ∧
        (∀ other : Asked, other.task ≠ r.task → Undecided other waits →
          (waits.step e).EndsAsHeard other) ∧
        ∀ later message, bearsId r.id message →
          (waits.run (e :: later)).step (.receive message) =
            { waits.run (e :: later) with
              session := ((waits.run (e :: later)).session.forget r.id).drop
                (message.get? "id") }) ∧
    ∀ events message later, (asked.run events).session.awaits r.id → bearsId r.id message →
      asked.withdrawals r.id (events ++ .receive message :: later) = 0 := by
  intro asked
  have first : asked = (t.run before).step (.call r.task call) := run_append ..
  have sound := sound_run started.sound before
  obtain ⟨fresh, unanswered⟩ := asks.undecided sound whole
  rw [← first] at fresh unanswered
  refine ⟨first ▸ asks.writes sound whole, ?_, fun events message later awaited own =>
    fresh.waits'.spared awaited own⟩
  intro between e upheld silent lapse waits
  rw [upheld_append, Bool.and_eq_true] at upheld
  obtain ⟨still, whole', same, spared⟩ := fresh.waits'.run fresh.whole upheld.1 silent
  obtain ⟨upholds, -⟩ := upheld_cons upheld.2 still.own
  obtain ⟨x, limit, alive, retreats⟩ := still.of_lapse whole' upholds lapse
  obtain ⟨-, m, -, hm⟩ := still.limit_of_lapse lapse
  refine ⟨x, limit, spared, same.trans unanswered, fun later upheld => retreats.run upheld, ?_, ?_,
    fun later message own => step_of_not_awaited own ?_⟩
  · intro n old ne
    have moved : (waits.step e).session = m.1 := by rw [step_of_move hm]
    rw [moved] at alive ⊢
    exact (moves_of_move? hm).entryOf?_of_ne
      (fun own => ne (Option.some.inj (own.symm.trans still.own))) old alive
  · intro other apart there
    exact (still.spares upholds lapse alive apart there).ends_as_heard
  · have old := Nat.lt_of_lt_of_le (still.sound.given _ _ still.own) (waits.nextId_step_le e)
    exact (dwindles_run old later).not_awaited retreats.unawaited

/-- Two requests are open. The time of the first is over, its response comes before its call has
gone on, and the second is answered. -/
theorem timeout_is_local_overtaken :
    let t : Traffic := { session := { reader := .waiting } }
    let r : Asked := ⟨1, .answer, 1, "first", some 5⟩
    let other : Asked := ⟨2, .answer, 2, "second", none⟩
    let first := Call.request "first" .null (.given (some (.seconds 5)))
    let second := Call.request "second" .null .inherited
    let late := [("id", .int 1), ("result", .int 10)]
    let answer := [("id", .int 2), ("result", .int 20)]
    let later := [.receive late, .goOn 1, .receive answer, .goOn 2, .goOn 1]
    let waits := (t.run ([] ++ [.call r.task first])).run [.call 2 second, .goOn 1, .goOn 2]
    let past := (waits.step (.goOn 1)).run [.receive late, .goOn 1]
    Ended r (.error (.timeout "first" 5)) waits (waits.run (.goOn 1 :: later)) ∧
      waits.withdrawals 1 (.goOn 1 :: later) = 1 ∧
      Ended other (.ok (.int 20)) past (past.run (.receive answer :: [.goOn 2, .goOn 1])) ∧
      (waits.run (.goOn 1 :: later)).session.dropped = 1 := by
  intro t r other first second late answer later waits past
  have started : t.Started := ⟨rfl, rfl, rfl, rfl, rfl, rfl, fun _ => rfl, rfl⟩
  have asks : Asks r first (t.run []) := ⟨rfl, rfl, rfl, .given (some (.seconds 5)), rfl, rfl⟩
  have whole : (t.run []).session.transport.wire.broken = none := rfl
  obtain ⟨-, timeout, -⟩ := timeout_is_local started whole asks
  obtain ⟨x, limit, -, -, retreats, -, others, -⟩ :=
    timeout [.call 2 second, .goOn 1, .goOn 2] (.goOn 1) (by decide) (by decide) (by decide)
  cases limit
  have asks' : Asks other second (t.run ([] ++ [.call r.task first])) :=
    ⟨rfl, rfl, rfl, .inherited, rfl, rfl⟩
  obtain ⟨there, -⟩ := asks'.undecided (sound_run started.sound _) rfl
  have still : Undecided other waits :=
    ((there.ends_as_heard [.goOn 1, .goOn 2]) (by decide) (by decide)).1
  obtain ⟨-, ends⟩ :=
    others other (by decide) still [.receive late, .goOn 1] (by decide) (by decide)
  refine ⟨?_, ?_, ?_, by decide⟩
  · cases retreats later (by decide) with
    | stopped still _ _ _ _ => exact absurd still.own (by decide)
    | withdrawn due _ _ _ _ => exact absurd due.own (by decide)
    | failed ended _ _ => exact ended
  · cases retreats later (by decide) with
    | stopped still _ _ _ _ => exact absurd still.own (by decide)
    | withdrawn due _ _ _ _ => exact absurd due.own (by decide)
    | failed _ _ once => exact once
  · rcases ends (.receive answer) [.goOn 2, .goOn 1] (.ok (.int 20)) rfl (by decide) with
      ended | ⟨waits, -⟩
    · exact ended
    · exact absurd waits (by decide)

end ProbeBench
