import ProbeBench.Proofs.Session.Traffic

/-!
# Calm runs, and what decides a request

Of what may end a request, its response, the end of its time, the end of the stream and the closing
of the session, the first that happens decides with which outcome it ends: `verdict?` says which
events decide, and what.

* A run is calm (`calm`) if writes are taken, reading does not fail, nothing that the reader calls
  fails, no id is a truth value, and a caller whose time is over goes on at once.
* `broken_of_unbroken`, `broken_step`: only a break of the stream breaks it, and so it stays whole in
  a calm run.
* `answersTo_step`, `answer?_of_other`: a request is answered by its own call only.
-/

namespace ProbeBench

/-- A request that a call has made. -/
structure Asked where
  task : Nat
  goal : Goal
  id : Nat
  method : String
  /-- How long it waits; none is for ever. -/
  seconds : Option Float

/-- What its call does once the request is written. -/
def Asked.after (r : Asked) : After :=
  Session.afterRequest r.goal r.id r.method (r.seconds.map .seconds)

/-- Whether a message is a response with this whole number as its id. -/
def isResponseTo (n : Nat) (message : Members) : Bool :=
  match message.get? "method" with
  | some (.str _) => false
  | _ =>
    match message.get? "id" with
    | some (.int k) => k = n
    | _ => false

/-- Whether the id of a message is a truth value. -/
def hasTruthId (message : Members) : Bool :=
  match message.get? "id" with
  | some (.bool _) => true
  | _ => false

/-- Whether the call has stopped waiting and not gone on yet. -/
def Progress.isExpiring : Progress → Bool
  | .waiting (.expiring ..) => true
  | _ => false

namespace Traffic

/-- Whether an event may happen in a calm run. -/
def isCalm (t : Traffic) : Event → Bool
  | .goOn task =>
    match t.stage task with
    | some stage => !(t.session.resume stage).2.isExpiring
    | none => true
  | .unwritten .. => false
  | .receive message => (t.session.dispatch message).2.isNone && !hasTruthId message
  | .fail _ => false
  | .breaks _ => false
  | _ => true

/-- Whether all events of a run are calm. -/
def calm (t : Traffic) : List Event → Bool
  | [] => true
  | e :: rest => t.isCalm e && (t.step e).calm rest

/-- What a call writes is taken in a calm run. -/
theorem taken_of_calm {t : Traffic} {e : Event} (calm : t.isCalm e) (task : Nat)
    (fault : WriteFault) : e ≠ .unwritten task fault := by
  rintro rfl
  cases calm

/-- What closing decides, where an event closes the stream: only closing the session does. -/
def closing? (t : Traffic) (e : Event) : Option Outcome :=
  if !t.session.transport.wire.closed && (t.step e).session.transport.wire.closed then
    some (.error .closed)
  else none

/-- What an event decides about a request that nothing has decided yet. -/
def verdict? (t : Traffic) (r : Asked) : Event → Option Outcome
  | .receive message =>
    if isResponseTo r.id message then some (responseOutcome r.method message) else none
  | .finish => some (.error t.session.endingAtEnd.failure)
  | .expire task =>
    if task = r.task ∧ (t.move? (.expire task)).isSome then
      r.seconds.map fun x => .error (.timeout r.method x)
    else t.closing? (.expire task)
  | e => t.closing? e

theorem verdict?_receive {t : Traffic} {r : Asked} {message : Members}
    (own : isResponseTo r.id message = true) :
    t.verdict? r (.receive message) = some (responseOutcome r.method message) := if_pos own

/-- Closing decides on a stream that is open. -/
theorem closing?_close {t : Traffic} {task : Nat} (idle : t.stage task = none)
    (open_ : t.session.transport.wire.closed = false) :
    t.closing? (.call task .close) = some (.error .closed) := by
  have shut : (t.step (.call task .close)).session.transport.wire.closed = true := by
    rw [step, move?, idle]
    simp only [Session.begin, Session.close, Session.shut, Session.endWith_eq, open_]
    exact Wire.closed_close _
  rw [closing?, open_, shut]
  rfl

/-- Whether nothing in a run decides a request. -/
def undecided (t : Traffic) (r : Asked) : List Event → Bool
  | [] => true
  | e :: rest => (t.verdict? r e).isNone && (t.step e).undecided r rest

/-- The outcomes with which a request has ended. -/
def answersTo (t : Traffic) (n : Nat) : List Outcome :=
  (t.answers.filter (·.1 = n)).map (·.2)

/-- A session that has just been started. -/
structure Started (t : Traffic) : Prop where
  nextId : t.session.nextId = 1
  pending : t.session.pending = []
  outcomes : t.session.outcomes = []
  ending : t.session.ending = none
  open_ : t.session.transport.wire.closed = false
  whole : t.session.transport.wire.broken = none
  stages : ∀ task, t.stage task = none
  answers : t.answers = []

theorem Started.sound {t : Traffic} (h : t.Started) : t.Sound where
  session := by
    refine ⟨fun closed => ?_, fun past => absurd h.ending past, fun e he => ?_, fun o ho => ?_⟩
    · rw [h.open_] at closed
      cases closed
    · rw [h.pending] at he
      cases he
    · rw [h.outcomes] at ho
      cases ho
  given := fun task n hn => by
    rw [own?, h.stages] at hn
    cases hn
  apart := fun task task' n hn => by
    rw [own?, h.stages] at hn
    cases hn
  answered := fun a ha => by
    rw [h.answers] at ha
    cases ha

end Traffic

/-! ## The stream stays whole -/

namespace Session

theorem broken_act (s : Session) (a : Act) :
    (s.act a).transport.wire.broken = s.transport.wire.broken := by
  cases a with
  | warn text =>
    simp only [act, warn]
    split <;> rfl
  | adopt result =>
    simp only [act, adopt]
    split <;> rfl
  | start =>
    simp only [act, start]
    split <;> rfl
  | cancelReader =>
    simp only [act, cancelReader]
    split <;> rfl
  | close =>
    simp only [act, shut, endWith_eq, Wire.close]
    split <;> rfl
  | _ => rfl

theorem broken_of_moves {s : Session} {own : Option Nat} {r : Session × Progress}
    (h : Moves s own r) : r.1.transport.wire.broken = s.transport.wire.broken := by
  induction h with
  | rest _ => rfl
  | act a _ _ ih => exact ih.trans (broken_act _ a)

/-- No message breaks the stream. -/
theorem broken_along : Along fun s s' => s'.transport.wire.broken = s.transport.wire.broken :=
  .of_steps (fun _ => rfl) (fun h h' => h'.trans h)
    (fun noted => by
      obtain ⟨_, _, _, _, rfl⟩ := noted
      rfl)
    (fun _ _ _ _ => rfl) (fun _ _ => rfl) (fun _ _ _ => rfl)

end Session

namespace Traffic

/-- What a message does in a calm run. -/
theorem absorb_receive {t : Traffic} {message : Members} (calm : t.isCalm (.receive message)) :
    t.session.absorb (.receive message) = (t.session.dispatch message).1 := by
  simp only [isCalm, Bool.and_eq_true, Option.isNone_iff_eq_none] at calm
  exact Session.absorb_of_handled calm.1

/-- **Only a break of the stream breaks it.** -/
theorem broken_of_unbroken {t : Traffic} {e : Event} (unbroken : ∀ fault, e ≠ .breaks fault) :
    (t.step e).session.transport.wire.broken = t.session.transport.wire.broken := by
  refine session_step (P := fun s => s.transport.wire.broken = t.session.transport.wire.broken) t e
    Session.broken_of_moves ?_
  refine Session.broken_along.absorb (fun s ending => ?_) (fun _ _ _ _ _ => rfl)
    fun fault breaks => absurd breaks (unbroken fault)
  rw [Session.lose, Session.endWith_eq]
  rfl

/-- The stream stays whole in a calm run. -/
theorem broken_step {t : Traffic} {e : Event} (calm : t.isCalm e)
    (whole : t.session.transport.wire.broken = none) :
    (t.step e).session.transport.wire.broken = none := by
  refine (broken_of_unbroken ?_).trans whole
  rintro fault rfl
  cases calm

end Traffic

/-! ## Whose events answer -/

namespace Traffic

/-- What an event answers, it answers to the call that makes the move. -/
theorem task_of_move? {t : Traffic} {e : Event} {task : Nat} {r : Session × Progress}
    (h : t.move? e = some (task, r)) :
    (∃ c, e = .call task c ∧ t.stage task = none) ∨ e = .goOn task ∨ e = .expire task ∨
      ∃ fault, e = .unwritten task fault := by
  cases e with
  | call k c =>
    simp only [move?] at h
    split at h
    · rename_i idle
      cases h
      exact .inl ⟨c, rfl, idle⟩
    · cases h
  | goOn k =>
    obtain ⟨stage, hs, he⟩ := Option.map_eq_some_iff.mp h
    cases he
    exact .inr (.inl rfl)
  | expire k =>
    obtain ⟨stage, hs, he⟩ := Option.bind_eq_some_iff.mp h
    split at he
    · cases he
      exact .inr (.inr (.inl rfl))
    · cases he
  | unwritten k fault =>
    simp only [move?] at h
    split at h
    · cases h
      exact .inr (.inr (.inr ⟨fault, rfl⟩))
    · cases h
  | _ => cases h

/-- Answers to a request come from its own call only. -/
theorem answersTo_step {t : Traffic} {e : Event} {n : Nat}
    (h : ∀ o, t.answer? e ≠ some (n, o)) : (t.step e).answersTo n = t.answersTo n := by
  cases hm : t.move? e with
  | none => rw [step_of_none hm]; rfl
  | some m =>
    rw [step_of_move hm, answersTo, answersTo, List.filter_append, List.map_append]
    cases ha : t.answer? e with
    | none => simp
    | some a =>
      have ne : a.1 ≠ n := fun e => h a.2 (ha.trans (congrArg some (Prod.ext e rfl)))
      simp [ne]

/-- No other call answers the request of a call. -/
theorem answer?_of_other {t : Traffic} (sound : t.Sound) {task n : Nat} (own : t.own? task = some n)
    {e : Event} (other : e ≠ .goOn task) (o : Outcome) : t.answer? e ≠ some (n, o) := by
  intro ha
  obtain ⟨k, rfl, own'⟩ := own?_of_answer? ha
  exact other (congrArg Event.goOn (sound.apart _ _ n own' own))

/-- The stage of a call is its own business. -/
theorem stage_of_other {t : Traffic} {e : Event} {task k : Nat} {m : Session × Progress}
    (hm : t.move? e = some (k, m)) (other : k ≠ task) : (t.step e).stage task = t.stage task := by
  rw [step_of_move hm]
  exact if_neg other.symm

theorem ne_goOn_of_other {t : Traffic} {e : Event} {task k : Nat} {m : Session × Progress}
    (hm : t.move? e = some (k, m)) (other : k ≠ task) : e ≠ .goOn task := by
  rintro rfl
  obtain ⟨stage, _, he⟩ := Option.map_eq_some_iff.mp hm
  exact other (Prod.ext_iff.mp he).1.symm

end Traffic

end ProbeBench
