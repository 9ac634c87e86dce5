import ProbeBench.Proofs.Session.Incoming

/-!
# Traffic on a session

A session with any number of calls that are open on it, and everything that may happen to it, in any
order. An `Event` is one thing that happens while nobody else goes on: a call begins or goes on, the
reader handles one message or the end of the stream. Nothing is said about which event comes when,
so every order in which calls, messages, clocks and streams may take their turns is a list of
events.

* A call that waits for the stream goes on with `goOn` as soon as the stream has taken what it
  wrote, and with `unwritten` if it could not; one that waits for a response goes on with `goOn`
  when there is one.
* `expire` is the end of a request's time: its caller stops waiting and goes on at once, with nobody
  in between. A `goOn` without an outcome makes two events of that.
* A request ends when its caller takes its outcome (`answer?`); the `answers` are kept in order, and
  so are the outcomes of whole calls (`finished`).

## Results

* `Session.Along.absorb`: what holds along every message holds along whatever happens to the reader.
* `session_step`, `session_run`: what moves and the reader keep, every event and every run keeps.
* `Traffic.Sound`: in every state reached the table is sound, and every request that is waited for
  is waited for by one call (`sound_step`, `sound_run`).
-/

namespace ProbeBench

/-- A session and the calls on it. -/
structure Traffic where
  session : Session
  /-- Where each call waits. -/
  stage : Nat → Option Stage := fun _ => none
  /-- The requests that have ended, with their outcomes. -/
  answers : List (Nat × Outcome) := []
  /-- The calls that have ended, with their outcomes. -/
  finished : List (Nat × Outcome) := []

/-- Something that happens. -/
inductive Traffic.Event where
  /-- A call begins as task `task`, unless that is busy. -/
  | call (task : Nat) (call : Call)
  /-- A call goes on. -/
  | goOn (task : Nat)
  /-- The time of a request is over, and its caller goes on at once. -/
  | expire (task : Nat)
  /-- What a call has written is not taken. -/
  | unwritten (task : Nat) (fault : WriteFault)
  /-- The reader handles a message. -/
  | receive (message : Members)
  /-- The reader handles a faulty frame. -/
  | garbled (fault : Frame.Fault)
  /-- The reader finds the end of the stream. -/
  | finish
  /-- Reading fails. -/
  | fail (fault : StreamFault)
  /-- The reader ends as it was told. -/
  | quit
  /-- The stream to the server breaks. -/
  | breaks (fault : StreamFault)
  /-- Octets arrive or are read, and somebody can go on. -/
  | stir (inbox : Inbox) (decoder : Frame.Decoder) (reader : Reader) (wakes : List Wake)

/-- The stage of a call that waits. -/
def Progress.stage? : Progress → Option Stage
  | .finished _ => none
  | .waiting stage => some stage

/-- The outcome of a call that has ended. -/
def Progress.outcome? : Progress → Option Outcome
  | .finished outcome => some outcome
  | .waiting _ => none

namespace Session

/-- The request that ends when the call at a stage goes on, and its outcome. -/
def answer? (s : Session) : Stage → Option (Nat × Outcome)
  | .writing (.wait _ id _ none) => (s.outcome? id).map (id, ·)
  | .writing (.check _ id _) => (s.outcome? id).map (id, ·)
  | .writing (.fail _ id failure) => some (id, .error failure)
  | .awaiting _ id _ _ => (s.outcome? id).map (id, ·)
  | _ => none

/-- What an event does that is not the move of a call. -/
def absorb (s : Session) : Traffic.Event → Session
  | .receive message =>
    match s.dispatch message with
    | (s, none) => s
    | (s, some fault) => (s.lose (.lost (lossOf fault))).endReader
  | .garbled fault =>
    { s with frameFaults := s.frameFaults + 1 }.warn ("Protocol error: " ++ fault.message)
  | .finish => (s.lose s.endingAtEnd).endReader
  | .fail fault => (s.lose (.lost (lossOf (.stream fault)))).endReader
  | .quit => s.endReader
  | .breaks fault => { s with transport.wire.broken := some fault }
  | .stir inbox decoder reader wakes =>
    { s with transport.inbox := inbox, transport.decoder := decoder, reader, wakes }
  | _ => s

end Session

namespace Traffic

/-- The move that an event is: of which call, and what comes of it. -/
def move? (t : Traffic) : Event → Option (Nat × Session × Progress)
  | .call task call =>
    match t.stage task with
    | none => some (task, t.session.begin call)
    | some _ => none
  | .goOn task => (t.stage task).map fun stage => (task, t.session.resume stage)
  | .expire task =>
    (t.stage task).bind fun stage =>
      match t.session.resume stage with
      | (s, .waiting (.expiring goal id failure)) => some (task, s.giveUp goal id failure)
      | _ => none
  | .unwritten task fault =>
    match t.stage task with
    | some (.writing after) => some (task, t.session.unwritten fault.failure after)
    | _ => none
  | _ => none

/-- The request that ends with an event, and its outcome. -/
def answer? (t : Traffic) : Event → Option (Nat × Outcome)
  | .goOn task => (t.stage task).bind t.session.answer?
  | _ => none

/-- What is left after an event. -/
def step (t : Traffic) (e : Event) : Traffic :=
  match t.move? e with
  | some (task, s, p) =>
    { session := s
      stage := fun k => if k = task then p.stage? else t.stage k
      answers := t.answers ++ (t.answer? e).toList
      finished := t.finished ++ (p.outcome?.map (task, ·)).toList }
  | none => { t with session := t.session.absorb e }

/-- What is left after a run. -/
def run (t : Traffic) (events : List Event) : Traffic := events.foldl step t

/-- The request that a call has made and that has not ended. -/
def own? (t : Traffic) (task : Nat) : Option Nat := (t.stage task).bind Stage.id?

theorem run_append (t : Traffic) (events more : List Event) :
    t.run (events ++ more) = (t.run events).run more :=
  List.foldl_append

theorem run_cons (t : Traffic) (e : Event) (events : List Event) :
    t.run (e :: events) = (t.step e).run events := rfl

end Traffic

/-! ## Moves -/

theorem Moves.trans {s : Session} {own : Option Nat} {r r' : Session × Progress}
    (h : Moves s own r) (h' : Moves r.1 r.2.id? r') : Moves s own r' := by
  induction h with
  | rest hp => exact hp ▸ h'
  | act a allowed _ ih => exact .act a allowed (ih h')

namespace Traffic

/-- **Every move is made of acts** that are allowed to the call. -/
theorem moves_of_move? {t : Traffic} {e : Event} {task : Nat} {r : Session × Progress}
    (h : t.move? e = some (task, r)) : Moves t.session (t.own? task) r := by
  cases e with
  | call k c =>
    simp only [move?] at h
    split at h
    · rename_i idle
      cases h
      rw [own?, idle]
      exact Session.begin_moves _ _
    · cases h
  | goOn k =>
    obtain ⟨stage, hs, he⟩ := Option.map_eq_some_iff.mp h
    cases he
    rw [own?, hs]
    exact Session.resume_moves _ _
  | expire k =>
    obtain ⟨stage, hs, he⟩ := Option.bind_eq_some_iff.mp h
    have first := Session.resume_moves t.session stage
    split at he
    · rename_i s goal id failure hr
      cases he
      rw [own?, hs]
      rw [hr] at first
      exact first.trans (Session.giveUp_moves _ _ _ _)
    · cases he
  | unwritten k fault =>
    simp only [move?] at h
    split at h
    · rename_i after hs
      cases h
      rw [own?, hs]
      exact Session.unwritten_moves _ _ _
    · cases h
  | _ => cases h

/-! ## The invariant -/

end Traffic

theorem Session.absorb_plain {s : Session} {e : Traffic.Event}
    (h : ∀ message, e ≠ .receive message) (h' : e ≠ .finish) (h'' : ∀ fault, e ≠ .fail fault) :
    SameTable s (s.absorb e) := by
  unfold absorb
  split
  · exact absurd rfl (h _)
  · unfold warn
    split <;> exact ⟨rfl, rfl, rfl, rfl, rfl⟩
  · exact absurd rfl h'
  · exact absurd rfl (h'' _)
  · exact ⟨rfl, rfl, rfl, rfl, rfl⟩
  · exact ⟨rfl, rfl, rfl, rfl, rfl⟩
  · exact ⟨rfl, rfl, rfl, rfl, rfl⟩
  · exact .refl s

/-- A message that does not stop the reader. -/
theorem Session.absorb_of_handled {s : Session} {message : Members}
    (handled : (s.dispatch message).2 = none) :
    s.absorb (.receive message) = (s.dispatch message).1 := by
  simp only [absorb]
  split
  · rename_i e
    rw [e]
  · rename_i e
    rw [e] at handled
    cases handled

/-- **What holds along every message holds along all that may happen to the reader**, if it holds
besides where the session is lost, where the reader stirs and where the stream breaks. -/
theorem Session.Along.absorb {R : Session → Session → Prop} (h : Along R)
    (lose : ∀ (s : Session) ending, R s (s.lose ending).endReader)
    (stirs : ∀ (s : Session) inbox decoder reader wakes,
      R s { s with transport.inbox := inbox, transport.decoder := decoder, reader, wakes })
    {s : Session} {e : Traffic.Event}
    (breaks : ∀ fault, e = .breaks fault → R s { s with transport.wire.broken := some fault }) :
    R s (s.absorb e) := by
  cases e with
  | receive message =>
    have handled := h.dispatch s message
    simp only [Session.absorb]
    split
    · rename_i he
      rw [he] at handled
      exact handled
    · rename_i he
      rw [he] at handled
      exact h.trans handled (lose _ _)
  | garbled fault => exact h.jots (garbled_jots s _)
  | finish => exact lose s _
  | fail fault => exact lose s _
  | quit => exact stirs s s.transport.inbox s.transport.decoder .ended s.wakes
  | breaks fault => exact breaks fault rfl
  | stir inbox decoder reader wakes => exact stirs s inbox decoder reader wakes
  | _ => exact h.refl s

/-- What handling a message and losing the session keep, and what depends on the table only, every
event keeps that is not a move. -/
theorem Session.absorb_keeps {P : Session → Prop}
    (dispatch : ∀ {s}, P s → ∀ message, P (s.dispatch message).1)
    (lose : ∀ {s}, P s → ∀ ending, P (s.lose ending))
    (congr : ∀ {s s'}, P s → SameTable s s' → P s') {s : Session} (h : P s) (e : Traffic.Event) :
    P (s.absorb e) :=
  (Along.keeps dispatch congr).absorb (fun _ ending h => congr (lose h ending) (endReader_same _))
    (fun _ _ _ _ _ h => congr h ⟨rfl, rfl, rfl, rfl, rfl⟩)
    (fun _ _ h => congr h ⟨rfl, rfl, rfl, rfl, rfl⟩) h

theorem Session.Sound.absorb {s : Session} (h : Sound s) (e : Traffic.Event) :
    Sound (s.absorb e) :=
  absorb_keeps (fun h => h.dispatch) (fun h => h.lose) (fun h => h.congr) h e

/-- What is settled stays so, whatever comes from the server. -/
theorem Session.Settled.absorb {n : Nat} {o : Outcome} {s : Session} (h : Settled n o s)
    (e : Traffic.Event) : Settled n o (s.absorb e) :=
  absorb_keeps (fun h => h.dispatch) (fun h => h.lose) (fun h => h.congr) h e

theorem Session.nextId_absorb (s : Session) (e : Traffic.Event) :
    (s.absorb e).nextId = s.nextId :=
  nextId_along.absorb nextId_lose (fun _ _ _ _ _ => rfl) (e := e) fun _ _ => rfl

namespace Traffic

/-- The table is sound, every request that a call waits for, or that has ended, has got its id, and
no two calls wait for one request. -/
structure Sound (t : Traffic) : Prop where
  session : t.session.Sound
  given : ∀ task n, t.own? task = some n → n < t.session.nextId
  apart : ∀ task task' n, t.own? task = some n → t.own? task' = some n → task = task'
  answered : ∀ a ∈ t.answers, a.1 < t.session.nextId

/-- A request ends when the call goes on that waits for it. -/
theorem own?_of_answer? {t : Traffic} {e : Event} {n : Nat} {o : Outcome}
    (h : t.answer? e = some (n, o)) : ∃ task, e = .goOn task ∧ t.own? task = some n := by
  cases e with
  | goOn task =>
    obtain ⟨stage, hs, ha⟩ := Option.bind_eq_some_iff.mp h
    refine ⟨task, rfl, ?_⟩
    rw [own?, hs, Option.bind_some]
    unfold Session.answer? at ha
    split at ha
    · obtain ⟨_, _, e⟩ := Option.map_eq_some_iff.mp ha
      cases e
      rfl
    · obtain ⟨_, _, e⟩ := Option.map_eq_some_iff.mp ha
      cases e
      rfl
    · cases ha
      rfl
    · obtain ⟨_, _, e⟩ := Option.map_eq_some_iff.mp ha
      cases e
      rfl
    · cases ha
  | _ => cases h

theorem step_of_move {t : Traffic} {e : Event} {task : Nat} {r : Session × Progress}
    (h : t.move? e = some (task, r)) :
    t.step e =
      { session := r.1
        stage := fun k => if k = task then r.2.stage? else t.stage k
        answers := t.answers ++ (t.answer? e).toList
        finished := t.finished ++ (r.2.outcome?.map (task, ·)).toList } := by
  rw [step, h]

theorem step_of_none {t : Traffic} {e : Event} (h : t.move? e = none) :
    t.step e = { t with session := t.session.absorb e } := by
  rw [step, h]

/-- **What becomes of the session with one event**: a call moves, or the reader does what it
does. -/
theorem session_step {P : Session → Prop} (t : Traffic) (e : Event)
    (moves : ∀ {own r}, Moves t.session own r → P r.1) (absorb : P (t.session.absorb e)) :
    P (t.step e).session := by
  cases hm : t.move? e with
  | none =>
    rw [step_of_none hm]
    exact absorb
  | some m =>
    rw [step_of_move hm]
    exact moves (moves_of_move? hm)

/-- What moves and the reader keep, a run keeps. -/
theorem session_run {P : Session → Prop}
    (moves : ∀ {s own r}, Moves s own r → P s → P r.1)
    (absorb : ∀ {s : Session}, P s → ∀ e, P (s.absorb e)) {t : Traffic} (h : P t.session)
    (events : List Event) : P (t.run events).session := by
  induction events generalizing t with
  | nil => exact h
  | cons e rest ih => exact ih (session_step t e (fun made => moves made h) (absorb h e))

theorem id?_eq_stage? (p : Progress) : p.id? = p.stage?.bind Stage.id? := by
  cases p <;> rfl

/-- The requests that calls wait for after a move. -/
theorem own?_of_move {t : Traffic} {e : Event} {task : Nat} {r : Session × Progress}
    (h : t.move? e = some (task, r)) (k : Nat) :
    (t.step e).own? k = if k = task then r.2.id? else t.own? k := by
  rw [own?, step_of_move h]
  simp only
  split
  · exact (id?_eq_stage? _).symm
  · rfl

/-- A call waits for the request that it has waited for before, or for one with a new id. -/
theorem own?_step {t : Traffic} {e : Event} {k n : Nat} (h : (t.step e).own? k = some n) :
    t.own? k = some n ∨ t.session.nextId ≤ n ∧ n < (t.step e).session.nextId := by
  cases hm : t.move? e with
  | none =>
    rw [step_of_none hm] at h
    exact .inl h
  | some m =>
    rw [own?_of_move hm] at h
    rw [step_of_move hm]
    split at h
    · rename_i same
      rw [same]
      exact (moves_of_move? hm).id? h
    · exact .inl h

/-- Only one call gets a new id. -/
theorem own?_step_unique {t : Traffic} (sound : t.Sound) {e : Event} {k k' n : Nat}
    (h : (t.step e).own? k = some n) (h' : (t.step e).own? k' = some n)
    (new : t.session.nextId ≤ n) : k = k' := by
  have unknown {k : Nat} (hk : t.own? k = some n) : False := by
    have := sound.given k n hk
    omega
  cases hm : t.move? e with
  | none =>
    rw [step_of_none hm] at h
    exact (unknown h).elim
  | some m =>
    rw [own?_of_move hm] at h h'
    split at h <;> split at h'
    · rename_i e e'
      rw [e, e']
    · exact (unknown h').elim
    · exact (unknown h).elim
    · exact (unknown h).elim

/-- Ids are never taken back. -/
theorem nextId_step_le (t : Traffic) (e : Event) :
    t.session.nextId ≤ (t.step e).session.nextId :=
  session_step (P := fun s => t.session.nextId ≤ s.nextId) t e (fun moves => moves.nextId_le)
    (Nat.le_of_eq (Session.nextId_absorb _ _).symm)

/-- What is answered has been answered before, or a call has waited for it. -/
theorem answers_step {t : Traffic} {e : Event} {a : Nat × Outcome}
    (h : a ∈ (t.step e).answers) : a ∈ t.answers ∨ ∃ task, t.own? task = some a.1 := by
  cases hm : t.move? e with
  | none =>
    rw [step_of_none hm] at h
    exact .inl h
  | some m =>
    rw [step_of_move hm] at h
    refine (List.mem_append.mp h).imp_right fun now => ?_
    obtain ⟨task, _, own⟩ := own?_of_answer? (Option.mem_toList.mp now)
    exact ⟨task, own⟩

theorem finished_step (t : Traffic) (e : Event) :
    ∃ since, (t.step e).finished = t.finished ++ since := by
  cases hm : t.move? e with
  | none =>
    rw [step_of_none hm]
    exact ⟨[], (List.append_nil _).symm⟩
  | some m =>
    rw [step_of_move hm]
    exact ⟨_, rfl⟩

theorem finished_run (t : Traffic) (events : List Event) :
    ∃ since, (t.run events).finished = t.finished ++ since := by
  induction events generalizing t with
  | nil => exact ⟨[], (List.append_nil _).symm⟩
  | cons e rest ih =>
    obtain ⟨first, h⟩ := t.finished_step e
    obtain ⟨more, h'⟩ := ih (t.step e)
    exact ⟨first ++ more, by rw [run_cons, h', h, List.append_assoc]⟩

/-- The table stays sound, whoever waits for what. -/
theorem table_step {t : Traffic} (h : t.session.Sound) (e : Event) : (t.step e).session.Sound :=
  session_step t e (fun moves => moves.sound h) (h.absorb e)

/-- **Every event keeps the invariant.** -/
theorem sound_step {t : Traffic} (h : t.Sound) (e : Event) : (t.step e).Sound := by
  have grows := t.nextId_step_le e
  refine ⟨table_step h.session e, fun k n hn => ?_, fun k k' n hn hn' => ?_, fun a ha => ?_⟩
  · rcases own?_step hn with before | ⟨_, new⟩
    · exact Nat.lt_of_lt_of_le (h.given k n before) grows
    · exact new
  · rcases own?_step hn with before | ⟨new, _⟩
    · rcases own?_step hn' with before' | ⟨new, _⟩
      · exact h.apart k k' n before before'
      · exact own?_step_unique h hn hn' new
    · exact own?_step_unique h hn hn' new
  · rcases answers_step ha with before | ⟨task, own⟩
    · exact Nat.lt_of_lt_of_le (h.answered a before) grows
    · exact Nat.lt_of_lt_of_le (h.given task a.1 own) grows

theorem sound_run {t : Traffic} (h : t.Sound) (events : List Event) : (t.run events).Sound := by
  induction events generalizing t with
  | nil => exact h
  | cons e rest ih => exact ih (sound_step h e)

end Traffic

end ProbeBench
