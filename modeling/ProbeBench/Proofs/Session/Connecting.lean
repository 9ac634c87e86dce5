import ProbeBench.Proofs.Session.Handshaking

/-!
# How a call that connects goes on

The call begins on a session that nobody has used (`Session.Unused`). Whenever it goes on it ends
(`Session.Ends`), or stops waiting for its answer (`Session.Stops`) and goes on once more. It ends
in one of two ways: the session is live and its greeting acknowledged, or it is closed from this
side, and nothing is left behind once its reader has ended.

* `ends_close`: a handshake that fails leaves nothing behind.
* `Shaking.conclude`, `Shaking.expire`, `Shaking.giveUp`: the ways on.
* `shakes_begin`, `shakes_resume`: how the call begins, and goes on.
-/

namespace ProbeBench.Session

variable {n : Nat} {params : Json} {granted : Prop} {s s' : Session}

/-! ## The end of the call -/

/-- The session is live behind its handshake. -/
structure Greeted (n : Nat) (params : Json) (s : Session) : Prop where
  open_ : s.Open
  reader : s.reader = .waiting ∨ s.reader = .woken
  pending : s.pending = []
  written : s.Opens n params [notification "initialized" (.obj [])]

/-- How a call that connects ends, when the reader has ended if it has to close the session;
`granted` says that the server has answered its request with a result. -/
inductive Ends (n : Nat) (params : Json) (granted : Prop) : Session × Progress → Prop
  | leaves {s : Session} {failure : Failure} (dismissed : s.Dismissed n params)
      (reader : s.reader = .cancelled) :
      Ends n params granted (s, .waiting (.releasing (.error failure)))
  | made {s : Session} (greeted : s.Greeted n params) (ok : granted) :
      Ends n params granted (s, .finished (.ok .null))
  | failed {s : Session} {failure : Failure} (dismissed : s.Dismissed n params)
      (reader : s.reader = .ended) : Ends n params granted (s, .finished (.error failure))

/-- Who is noted to go on does not matter. -/
theorem Ends.hush {p : Progress} (h : Ends n params granted (s, p)) :
    Ends n params granted ({ s with wakes := [] }, p) := by
  have same : SameTable s { s with wakes := [] } := ⟨rfl, rfl, rfl, rfl, rfl⟩
  cases h with
  | leaves dismissed reader => exact .leaves (dismissed.congr same rfl) reader
  | made greeted ok =>
    exact .made ⟨greeted.open_, greeted.reader, greeted.pending, greeted.written⟩ ok
  | failed dismissed reader => exact .failed (dismissed.congr same rfl) reader

theorem Ends.mono {granted' : Prop} {r : Session × Progress} (h : Ends n params granted r)
    (imp : granted → granted') : Ends n params granted' r := by
  cases h with
  | leaves dismissed reader => exact .leaves dismissed reader
  | made greeted ok => exact .made greeted (imp ok)
  | failed dismissed reader => exact .failed dismissed reader

/-- A call that connects has stopped waiting for the answer, and is let go on once. -/
inductive Stops (n : Nat) (params : Json) : Session × Progress → Prop
  | stops {s : Session} {failure : Failure} (shaking : s.Shaking n params) (table : s.Overdue n)
      (called : s.calls n = 1) : Stops n params (s, .waiting (.expiring .connect n failure))

/-! ## The ways on -/

/-- **A handshake that fails leaves nothing behind**: the session and its stream are closed, and the
reader has ended or is told to. -/
theorem ends_close (open_ : s.transport.wire.closed = false) (closesWell : s.ClosesWell)
    (attended : s.Attended) (written : s.Tried n params) (failure : Failure) (fuel : Nat) :
    Ends n params granted (through (fuel + 1) (s.close (.error failure))) := by
  have wire := s.shutDown_wire
  have dismissed : s.shutDown.Dismissed n params := by
    refine ⟨?_, ?_, s.shutDown_pending, written.congr ?_⟩
    · rw [s.shutDown_ending]
      exact Option.some_ne_none _
    · rw [wire]
      exact Wire.closed_close _
    · rw [wire, Wire.sent_close]
  have reader := s.shutDown_reader
  rw [through_close open_ closesWell]
  split
  · rename_i gone
    have ended : s.reader = .ended := by
      refine gone.resolve_left fun absent => ?_
      rcases attended with phase | phase | ⟨phase, -⟩ <;> rw [phase] at absent <;> cases absent
    exact .failed dismissed (reader.trans ended)
  · rename_i there
    obtain ⟨cancelled, transport⟩ := s.shutDown.cancelReader_of_there (reader ▸ there)
    exact .leaves (dismissed.congr s.shutDown.cancelReader_same (by rw [transport])) cancelled

theorem Shaking.close (h : s.Shaking n params) (open_ : s.transport.wire.closed = false)
    (failure : Failure) (fuel : Nat) :
    Ends n params granted (through (fuel + 1) (s.close (.error failure))) :=
  ends_close open_ h.closesWell h.attended (.inr (.inl h.written)) failure fuel

/-- **The server has answered**: with a result, the greeting is acknowledged if the session and its
stream are still up; in any other case the session is closed. -/
theorem Shaking.conclude (h : s.Shaking n params) {o : Outcome} (table : s.Replied n o)
    (ok : ∀ result, o = .ok result → granted) (fuel : Nat) :
    Ends n params granted (through (fuel + 1) (s.conclude .connect n o)) := by
  have taken : ((s.forget n).collect n).Shaking n params := h.congr rfl rfl rfl
  have empty : ((s.forget n).collect n).pending = [] := by
    simp [Session.collect, Session.forget, table.pending]
  have open_ : ((s.forget n).collect n).transport.wire.closed = false := table.open_
  unfold Session.conclude
  generalize (s.forget n).collect n = t at taken empty open_
  cases o with
  | error failure => exact taken.close open_ failure fuel
  | ok result =>
    have adopted : (t.adopt result).Shaking n params ∧ (t.adopt result).pending = [] ∧
        (t.adopt result).transport.wire.closed = false := by
      unfold Session.adopt
      split
      · exact ⟨taken.congr rfl rfl rfl, empty, open_⟩
      · exact ⟨taken, empty, open_⟩
    obtain ⟨taken, empty, open_⟩ := adopted
    show Ends n params granted (through (fuel + 1) (t.acknowledge .connect result))
    unfold Session.acknowledge
    generalize t.adopt result = t at taken empty open_
    simp only
    split
    · rename_i told
      unfold Session.tell at told
      split at told
      · cases told
      · rename_i alive
        split at told
        · rename_i sent
          cases told
          have alive := refuse_ok alive
          obtain ⟨-, whole, rfl⟩ := send_ok sent
          have live : t.reader = .waiting ∨ t.reader = .woken := by
            rcases taken.attended with phase | phase | ⟨-, past⟩
            · exact .inl phase
            · exact .inr phase
            · exact absurd alive past
          show Ends n params granted (through fuel (_, .finished (.ok .null)))
          cases fuel <;>
            exact .made ⟨⟨alive, open_, whole⟩, live, empty, taken.written.write rfl⟩ (ok _ rfl)
        · cases told
    · rename_i failure told
      exact taken.close open_ failure fuel

/-- **Who stops waiting** says so, and the session is closed. -/
theorem Shaking.giveUp (h : s.Shaking n params) (table : s.Overdue n) (failure : Failure)
    (fuel : Nat) :
    Ends n params granted (through (fuel + 2) (s.giveUp .connect n failure)) := by
  have forgotten : (s.forget n).Shaking n params := h.congr rfl rfl rfl
  have open_ : (s.forget n).transport.wire.closed = false := table.open_
  -- once the withdrawal is written the request fails
  have withdrawn (t : Session) (written : t.Opens n params [cancellation n]) (attended : t.Attended)
      (closesWell : t.ClosesWell) (open_ : t.transport.wire.closed = false) :
      Ends n params granted
        (through (fuel + 2) (t, .waiting (.writing (.fail .connect n failure)))) :=
    ends_close (s := (t.forget n).collect n) open_ closesWell attended (.inr (.inr written))
      failure fuel
  unfold Session.giveUp
  simp only
  generalize s.forget n = t at forgotten open_
  split
  · rename_i told
    unfold Session.tell at told
    split at told
    · cases told
    · split at told
      · rename_i sent
        cases told
        obtain ⟨-, -, rfl⟩ := send_ok sent
        exact withdrawn _ (forgotten.written.write rfl) forgotten.attended forgotten.closesWell
          open_
      · cases told
  · rename_i other _
    exact Shaking.close (s := (t.forget n).collect n) (forgotten.congr rfl rfl rfl) open_ other
      (fuel + 1)

/-- **Who finds no answer in time stops waiting**, and is let go on. -/
theorem Shaking.expire (h : s.Shaking n params) (table : s.Unanswered n) (idle : s.calls n = 0)
    (failure : Failure) (fuel : Nat) :
    Stops n params (through fuel (s.expire .connect n failure)) := by
  have late : Stops n params (s.expire .connect n failure) := by
    refine .stops (h.congr rfl rfl rfl)
      ⟨.inr (by simp [table.pending]), table.outcomes, table.open_⟩ ?_
    show (s.wakes ++ [Wake.caller n]).countP _ = 1
    rw [List.countP_append, show s.wakes.countP _ = 0 from idle]
    simp
  cases fuel <;> exact late

theorem Unanswered.resume (h : s.Unanswered n) (seconds : Float) :
    s.resume (.awaiting .connect n "initialize" (some seconds)) =
      s.expire .connect n (.timeout "initialize" seconds) := by
  rw [Session.resume, concludeOr, h.outcome?]

theorem Replied.resume {o : Outcome} (h : s.Replied n o) (limit : Option Float) :
    s.resume (.awaiting .connect n "initialize" limit) = s.conclude .connect n o := by
  cases limit <;> rw [Session.resume, concludeOr, h.outcome?]

/-- **The call goes on** from where it stands: it stops waiting if its time is over, and ends in any
other case. Without a limit it goes on only when there is an answer, and for the reader it waits
until that has ended. -/
theorem shakes_resume {stage : Stage} (h : Shakes n params granted s stage) (idle : s.calls n = 0)
    (answered : stage = .awaiting .connect n "initialize" none → s.outcome? n ≠ none)
    (ended : ∀ result, stage = .releasing result → s.reader = .ended) :
    Ends n params granted (through 3 (s.resume stage)) ∨
      (∃ seconds, stage = .awaiting .connect n "initialize" (some seconds)) ∧ s.Unanswered n ∧
        Stops n params (through 3 (s.resume stage)) := by
  cases h with
  | @waits limit shaking table =>
    cases limit with
    | none => exact absurd table.outcome? (answered rfl)
    | some seconds =>
      refine .inr ⟨⟨seconds, rfl⟩, table, ?_⟩
      rw [table.resume]
      exact shaking.expire table idle _ 3
  | replied shaking table ok =>
    rw [table.resume]
    exact .inl (shaking.conclude table ok 2)
  | overdue shaking table => exact .inl (shaking.giveUp table _ 1)
  | leaves dismissed => exact .inl (.failed dismissed (ended _ rfl))

/-! ## The beginning of the call -/

/-- Nobody has used the session yet. -/
structure Unused (s : Session) : Prop where
  reader : s.reader = .absent
  nextId : s.nextId = 1
  pending : s.pending = []
  outcomes : s.outcomes = []
  alive : s.ending = none
  open_ : s.transport.wire.closed = false
  unwritten : s.transport.wire.sent = []
  wakes : s.wakes = []
  closesWell : s.ClosesWell

/-- On a stream that is broken a request is registered and fails. -/
theorem request_of_broken {fault : StreamFault} (alive : s.ending = none)
    (open_ : s.transport.wire.closed = false) (broken : s.transport.wire.broken = some fault)
    (goal : Goal) (method : String) (params : Json) (patience : Patience) :
    ∃ failure, s.request goal method params patience =
      (s.act (.register method)).conclude goal s.nextId (.error failure) := by
  have unsent (message : Members) :
      ∃ why, (s.act (.register method)).send message = .error why := by
    unfold send Wire.send
    simp only [act, open_, broken, Bool.false_eq_true, if_false]
    split <;> exact ⟨_, rfl⟩
  obtain ⟨why, unsent⟩ := unsent (requestMessage s.nextId method params)
  have refused : s.refuse = .ok () := by rw [refuse, alive]
  refine ⟨why.failure, ?_⟩
  unfold request
  rw [refused]
  simp only
  rw [show ({ s with
    nextId := s.nextId + 1
    pending := s.pending ++ [⟨s.nextId, method, false⟩] } : Session) = s.act (.register method)
    from rfl, unsent]
  exact unwritten_afterRequest _ _ _ _ _ _

/-- How a call that connects begins: it waits for the answer, for ever only if the session says so,
or it has no time for that, or it cannot write its request. -/
inductive Begins (params : Json) (granted : Prop) (limit : Option Limit) :
    Session × Progress → Prop
  | waits {s : Session} {seconds : Option Float} (shaking : s.Shaking 1 params)
      (table : s.Unanswered 1) (idle : s.calls 1 = 0) (patient : seconds = none → limit = none) :
      Begins params granted limit (s, .waiting (.awaiting .connect 1 "initialize" seconds))
  | stops {r : Session × Progress} (h : Stops 1 params r) : Begins params granted limit r
  | ends {r : Session × Progress} (h : Ends 1 params granted r) : Begins params granted limit r

/-- The request that opens the handshake is written, and its call waits for the answer, or not. -/
theorem Shaking.asks (h : s.Shaking 1 params) (table : s.Unanswered 1) (idle : s.calls 1 = 0)
    (limit : Option Limit) :
    Begins params granted limit
      (through 3 (s, .waiting (.writing (afterRequest .connect 1 "initialize" limit)))) := by
  have checks (failure : Failure) :
      Begins params granted limit
        (through 3 (s, .waiting (.writing (.check .connect 1 failure)))) := by
    have expires : s.resume (.writing (.check .connect 1 failure)) =
        s.expire .connect 1 failure := by
      rw [resume, Session.written, concludeOr, table.outcome?]
    show Begins params granted limit
      (through 2 (s.resume (.writing (.check .connect 1 failure))))
    rw [expires]
    exact .stops (h.expire table idle failure 2)
  cases limit with
  | none =>
    have waits : s.resume (.writing (.wait .connect 1 "initialize" none)) =
        (s, .waiting (.awaiting .connect 1 "initialize" none)) := by
      rw [resume, Session.written, concludeOr, table.outcome?]
    show Begins params granted none
      (through 2 (s.resume (.writing (.wait .connect 1 "initialize" none))))
    rw [waits]
    exact .waits h table idle fun _ => rfl
  | some limit =>
    cases limit with
    | seconds x =>
      rw [afterRequest]
      split
      · exact checks _
      · exact .waits h table idle (by rintro ⟨⟩)
    | overdue failure => exact checks failure
    | unusable failure =>
      exact .ends (Shaking.close (s := (s.forget 1).collect 1) (h.congr rfl rfl rfl) table.open_
        failure 1)

/-- **The call begins**: it writes its request, or fails. -/
theorem shakes_begin (h : s.Unused) (params : Json) :
    Begins params granted s.limit (through 3 (s.begin (.connect params))) := by
  have started : s.start = { s with reader := .woken, wakes := s.wakes ++ [.reader] } :=
    if_pos h.reader
  have begins : s.begin (.connect params) =
      s.start.request .connect "initialize" params .inherited := rfl
  have open_ : s.start.transport.wire.closed = false := by
    rw [started]
    exact h.open_
  have id : s.start.nextId = 1 := by
    rw [started]
    exact h.nextId
  have limit : s.start.limit = s.limit := by rw [started]
  have attended : s.start.Attended := .inr (.inl (by rw [started]))
  have closesWell : s.start.ClosesWell := by
    rw [started]
    exact h.closesWell
  rw [begins]
  cases broken : s.transport.wire.broken with
  | none =>
    have whole : s.start.Open := by
      rw [started]
      exact ⟨h.alive, h.open_, broken⟩
    rw [request_of_open whole, id, ← limit]
    let asked : Session := (s.start.act (.register "initialize")).act
      (.write (requestMessage 1 "initialize" params))
    have shaking : asked.Shaking 1 params := by
      refine ⟨⟨[], by simp, ?_⟩, attended, closesWell⟩
      simp [asked, started, Session.act, h.unwritten]
    have table : asked.Unanswered 1 := by
      refine ⟨?_, ?_, ?_, open_⟩
      · simp [asked, started, Session.act, h.pending, h.nextId]
      · simpa [asked, started, Session.act] using h.outcomes
      · simpa [asked, started, Session.act] using h.alive
    have idle : asked.calls 1 = 0 := by
      simp [asked, started, Session.act, calls, h.wakes]
    exact shaking.asks table idle _
  | some fault =>
    have broken' : s.start.transport.wire.broken = some fault := by
      rw [started]
      exact broken
    have alive : s.start.ending = none := by
      rw [started]
      exact h.alive
    obtain ⟨failure, fails⟩ :=
      request_of_broken alive open_ broken' .connect "initialize" params .inherited
    have unwritten : s.start.transport.wire.sent = [] := by
      rw [started]
      exact h.unwritten
    rw [fails]
    exact .ends (ends_close
      (s := ((s.start.act (.register "initialize")).forget s.start.nextId).collect s.start.nextId)
      open_ closesWell attended (.inl unwritten) failure 2)

end ProbeBench.Session
