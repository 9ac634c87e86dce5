import ProbeBench.Session.Call

/-!
# What calls do to a session

A call changes its session by a few acts only, whichever way it goes: `Act` lists them, and `Moves`
says that a call comes from one state to another by acts that are allowed to it. It may write and
register only on a session that has not ended and whose stream takes messages; it touches no
request but its own, which is the one that it registers; and it closes the session only when that
has ended.

* `begin_moves`, `resume_moves`, `unwritten_moves`: every call goes on by acts, and waits for no
  request but its own.

What holds before and after every act thus holds wherever calls begin and go on.
-/

namespace ProbeBench

/-- One change that a call makes to its session. -/
inductive Act where
  | write (message : Members)
  /-- A request gets the next id and an entry in the table. -/
  | register (method : String)
  /-- The entry of a request leaves the table. -/
  | forget (id : Nat)
  /-- A request ends: its entry and its outcome go. -/
  | conclude (id : Nat)
  /-- The caller of a request stops waiting. -/
  | expire (id : Nat)
  | warn (text : String)
  | adopt (result : Json)
  /-- Closing begins. -/
  | announce
  | start
  | cancelReader
  /-- The session ends from this side, and the stream is closed. -/
  | close

/-- The request that a call waits for. -/
def Progress.id? : Progress → Option Nat
  | .finished _ => none
  | .waiting stage => stage.id?

namespace Session

/-- The stream takes messages, and nobody has ended the session. -/
def Open (s : Session) : Prop :=
  s.ending = none ∧ s.transport.wire.closed = false ∧ s.transport.wire.broken = none

/-- What an act does. -/
def act (s : Session) : Act → Session
  | .write message => { s with transport.wire.sent := s.transport.wire.sent ++ [message] }
  | .register method =>
    { s with nextId := s.nextId + 1, pending := s.pending ++ [⟨s.nextId, method, false⟩] }
  | .forget id => s.forget id
  | .conclude id => (s.forget id).collect id
  | .expire id =>
    { s with
      pending := s.pending.map fun e => if e.id = id then { e with expired := true } else e
      wakes := s.wakes ++ [.caller id] }
  | .warn text => s.warn text
  | .adopt result => s.adopt result
  | .announce => { s with closing := true }
  | .start => s.start
  | .cancelReader => s.cancelReader
  | .close => { s.shut with transport.wire := s.shut.transport.wire.close.1 }

end Session

/-- What calls write: requests and notifications. -/
inductive Outgoing : Members → Prop
  | asks (id : Nat) (method : String) (params : Json) :
      Outgoing (requestMessage id method params)
  | tells (method : String) (params : Json) : Outgoing (notification method params)

/-- What a call may do that has made the request `own`, if any. -/
def Act.Allowed (s : Session) (own : Option Nat) : Act → Prop
  | .write message => s.Open ∧ Outgoing message
  | .register _ => s.ending = none ∧ own = none
  | .forget id => own = some id
  | .conclude id => own = some id
  | .expire id => own = some id
  | .close => own = none
  | _ => True

/-- The request of a call after an act. -/
def Act.ownAfter (s : Session) (own : Option Nat) : Act → Option Nat
  | .register _ => some s.nextId
  | .conclude _ => none
  | _ => own

/-- Whether an act changes nothing about requests. -/
def Act.isPlain : Act → Bool
  | .register _ => false
  | .forget _ => false
  | .conclude _ => false
  | .expire _ => false
  | .close => false
  | _ => true

/-- A call that has made the request `own` goes on by acts that are allowed to it, and then waits
for its request or for none. -/
inductive Moves : Session → Option Nat → Session × Progress → Prop
  | rest {s : Session} {own : Option Nat} {p : Progress} (h : p.id? = own) : Moves s own (s, p)
  | act {s : Session} {own : Option Nat} {r : Session × Progress} (a : Act)
      (allowed : a.Allowed s own) (more : Moves (s.act a) (a.ownAfter s own) r) : Moves s own r

namespace Session

theorem refuse_ok {s : Session} (h : s.refuse = .ok ()) : s.ending = none := by
  unfold refuse at h
  split at h
  · cases h
  · assumption

theorem send_ok {s s' : Session} {message : Members} (h : s.send message = .ok s') :
    s.transport.wire.closed = false ∧ s.transport.wire.broken = none ∧
      s' = s.act (.write message) := by
  unfold send Wire.send at h
  split at h
  · cases h
  · rename_i shut
    split at h
    · split at h <;> cases h
    · rename_i whole
      cases h
      exact ⟨by simpa using shut, whole, rfl⟩

/-! ## How calls go on -/

theorem tell_moves {s : Session} {method : String} {params : Json} {after : After}
    {r : Session × Progress} (h : s.tell method params after = .ok r) : Moves s after.id? r := by
  unfold tell at h
  split at h
  · cases h
  · rename_i alive
    split at h
    · rename_i s' sent
      cases h
      obtain ⟨shut, whole, rfl⟩ := send_ok sent
      exact .act (.write _) ⟨⟨refuse_ok alive, shut, whole⟩, .tells ..⟩ (.rest rfl)
    · cases h

theorem tell_waits {s : Session} {method : String} {params : Json} {after : After}
    {r : Session × Progress} (h : s.tell method params after = .ok r) :
    r.2 = .waiting (.writing after) := by
  unfold tell at h
  split at h
  · cases h
  · split at h
    · cases h
      rfl
    · cases h

theorem id?_tell {s : Session} {method : String} {params : Json} {after : After}
    {r : Session × Progress} (h : s.tell method params after = .ok r) : r.2.id? = after.id? := by
  rw [tell_waits h]
  rfl

theorem release_moves (s : Session) (result : Outcome) (fault : Option StreamFault) :
    Moves s none (s.release result fault) := by
  unfold release
  split
  · exact .rest rfl
  · split
    · exact .rest rfl
    · exact .act .cancelReader trivial (.rest rfl)

theorem close_moves (s : Session) (result : Outcome) : Moves s none (s.close result) := by
  unfold close
  simp only
  split
  · rename_i shut
    have e : s.act .close = s.shut := by
      simp only [act, Wire.close, shut, if_true]
    refine .act .close rfl ?_
    rw [e]
    exact release_moves _ _ _
  · exact .act .close rfl (.rest rfl)

theorem failHandshake_moves (s : Session) (goal : Goal) (failure : Failure) :
    Moves s none (s.failHandshake goal failure) := by
  unfold failHandshake
  split
  · exact close_moves _ _
  · exact .rest rfl

theorem acknowledge_moves (s : Session) (goal : Goal) (result : Json) :
    Moves s none (s.acknowledge goal result) := by
  unfold acknowledge
  refine .act (.adopt result) trivial ?_
  simp only
  split
  · rename_i told
    exact tell_moves told
  · exact failHandshake_moves _ _ _

theorem exit_moves (s : Session) : Moves s none s.exit := by
  unfold exit
  split
  · exact close_moves _ _
  · split
    · rename_i told
      exact tell_moves told
    · exact .rest rfl

theorem proceed_moves (s : Session) (goal : Goal) (outcome : Outcome) :
    Moves s none (s.proceed goal outcome) := by
  unfold proceed
  split
  · exact .rest rfl
  · exact exit_moves s
  · split
    · exact .act (.warn _) trivial (exit_moves _)
    · exact .rest rfl
  · exact acknowledge_moves _ _ _
  · exact failHandshake_moves _ _ _

theorem id?_close (s : Session) (result : Outcome) : (s.close result).2.id? = none := by
  unfold close
  simp only
  split
  · unfold release
    simp only
    split <;> rfl
  · rfl

theorem id?_exit (s : Session) : s.exit.2.id? = none := by
  unfold exit
  split
  · exact id?_close _ _
  · split
    · rename_i told
      exact id?_tell told
    · rfl

/-- A call whose request has ended waits for no other. -/
theorem id?_proceed (s : Session) (goal : Goal) (outcome : Outcome) :
    (s.proceed goal outcome).2.id? = none := by
  have failed (s : Session) (goal : Goal) (failure : Failure) :
      (s.failHandshake goal failure).2.id? = none := by
    unfold failHandshake
    split
    · exact id?_close _ _
    · rfl
  unfold proceed
  split
  · rfl
  · exact id?_exit s
  · split
    · exact id?_exit _
    · rfl
  · unfold acknowledge
    simp only
    split
    · rename_i told
      exact id?_tell told
    · exact failed _ _ _
  · exact failed _ _ _

/-- **A call that stops waiting** has told the server of a request whose time is over, or has
waited for as long as it would; it does nothing else. -/
theorem expiring_of_resume {s s' : Session} {stage : Stage} {goal : Goal} {id : Nat}
    {failure : Failure} (h : s.resume stage = (s', .waiting (.expiring goal id failure))) :
    s' = s.act (.expire id) ∧ (stage = .writing (.check goal id failure) ∨
      ∃ method x, stage = .awaiting goal id method (some x) ∧ failure = .timeout method x) := by
  have busy {r : Session × Progress} (same : r = (s', .waiting (.expiring goal id failure))) :
      r.2.id? ≠ none := by
    rw [same]
    exact Option.some_ne_none id
  have undecided {goal' : Goal} {n : Nat} {otherwise : Session × Progress}
      (same : s.concludeOr goal' n otherwise = (s', .waiting (.expiring goal id failure))) :
      otherwise = (s', .waiting (.expiring goal id failure)) := by
    unfold concludeOr at same
    split at same
    · exact absurd (id?_proceed _ _ _) (busy same)
    · exact same
  cases stage with
  | writing after =>
    cases after with
    | wait goal' n method seconds =>
      cases seconds with
      | none => cases undecided h
      | some x => cases h
    | check goal' n failure' =>
      cases undecided h
      exact ⟨rfl, .inl rfl⟩
    | fail => exact absurd (id?_proceed _ _ _) (busy h)
    | initialized goal' result => cases goal' <;> cases h
    | exit => exact absurd (id?_close s _) (busy h)
    | notify => cases h
  | awaiting goal' n method seconds =>
    cases seconds with
    | none => cases undecided h
    | some x =>
      cases undecided h
      exact ⟨rfl, .inr ⟨method, x, rfl, rfl⟩⟩
  | expiring goal' n failure' =>
    simp only [resume, giveUp] at h
    split at h
    · rename_i told
      cases h
      cases tell_waits told
    · exact absurd (id?_proceed _ _ _) (busy h)
  | closing result fault =>
    simp only [resume, release] at h
    split at h
    · cases h
    · split at h <;> cases h
  | releasing result => cases h

theorem conclude_moves (s : Session) (goal : Goal) (id : Nat) (outcome : Outcome) :
    Moves s (some id) (s.conclude goal id outcome) :=
  .act (.conclude id) rfl (proceed_moves _ _ _)

theorem concludeOr_moves {s : Session} {goal : Goal} {id : Nat} {otherwise : Session × Progress}
    (h : Moves s (some id) otherwise) : Moves s (some id) (s.concludeOr goal id otherwise) := by
  unfold concludeOr
  split
  · exact conclude_moves _ _ _ _
  · exact h

theorem expire_moves (s : Session) (goal : Goal) (id : Nat) (failure : Failure) :
    Moves s (some id) (s.expire goal id failure) :=
  .act (.expire id) rfl (.rest rfl)

theorem written_moves (s : Session) (after : After) : Moves s after.id? (s.written after) := by
  unfold written
  split
  · exact concludeOr_moves (.rest rfl)
  · exact .rest rfl
  · exact concludeOr_moves (expire_moves _ _ _ _)
  · exact conclude_moves _ _ _ _
  · exact .rest rfl
  · exact .rest rfl
  · exact close_moves _ _
  · exact .rest rfl

/-- A call whose message could not be written goes on by acts. -/
theorem unwritten_moves (s : Session) (failure : Failure) (after : After) :
    Moves s after.id? (s.unwritten failure after) := by
  unfold unwritten
  split
  · exact conclude_moves _ _ _ _
  · exact conclude_moves _ _ _ _
  · exact conclude_moves _ _ _ _
  · exact failHandshake_moves _ _ _
  · exact .rest rfl
  · exact .rest rfl

theorem id?_afterRequest (goal : Goal) (id : Nat) (method : String) (limit : Option Limit) :
    (afterRequest goal id method limit).id? = some id := by
  unfold afterRequest
  split
  · rfl
  · split <;> rfl
  · rfl
  · rfl

/-- A request that cannot be written fails, however long it was to wait. -/
theorem unwritten_afterRequest (s : Session) (failure : Failure) (goal : Goal) (id : Nat)
    (method : String) (limit : Option Limit) :
    s.unwritten failure (afterRequest goal id method limit) =
      s.conclude goal id (.error failure) := by
  unfold afterRequest
  split
  · rfl
  · split <;> rfl
  · rfl
  · rfl

theorem request_moves (s : Session) (goal : Goal) (method : String) (params : Json)
    (patience : Patience) : Moves s none (s.request goal method params patience) := by
  unfold request
  split
  · exact proceed_moves _ _ _
  · rename_i alive
    have alive := refuse_ok alive
    simp only
    refine .act (.register method) ⟨alive, rfl⟩ ?_
    split
    · rename_i sent
      obtain ⟨shut, whole, rfl⟩ := send_ok sent
      exact .act (.write _) ⟨⟨alive, shut, whole⟩, .asks ..⟩ (.rest (id?_afterRequest ..))
    · rename_i fault _
      have moves := fun limit => unwritten_moves (s.act (.register method)) fault.failure
        (afterRequest goal s.nextId method limit)
      simp only [id?_afterRequest] at moves
      exact moves _

/-- How long a request waits. -/
def limitOf (s : Session) : Patience → Option Limit
  | .inherited => s.limit
  | .given limit => limit

/-- On a stream that takes messages a request is registered and written. -/
theorem request_of_open {s : Session} (h : s.Open) (goal : Goal) (method : String)
    (params : Json) (patience : Patience) :
    s.request goal method params patience =
      ((s.act (.register method)).act (.write (requestMessage s.nextId method params)),
        .waiting (.writing (afterRequest goal s.nextId method (s.limitOf patience)))) := by
  obtain ⟨alive, shut, whole⟩ := h
  cases patience <;>
    simp [request, refuse, send, Wire.send, act, limitOf, alive, shut, whole, Except.map]

/-- **Every call begins by acts**, and has made no request before. -/
theorem begin_moves (s : Session) (call : Call) : Moves s none (s.begin call) := by
  unfold begin
  split
  · exact request_moves _ _ _ _ _
  · split
    · rename_i told
      exact tell_moves told
    · exact .rest rfl
  · exact request_moves _ _ _ _ _
  · exact .act .start trivial (request_moves _ _ _ _ _)
  · split
    · exact close_moves _ _
    · exact .act .announce trivial (request_moves _ _ _ _ _)
  · exact close_moves _ _
  · exact .act .start trivial (.rest rfl)

theorem giveUp_moves (s : Session) (goal : Goal) (id : Nat) (failure : Failure) :
    Moves s (some id) (s.giveUp goal id failure) := by
  unfold giveUp
  simp only
  refine .act (.forget id) rfl ?_
  split
  · rename_i told
    exact tell_moves told
  · exact conclude_moves _ _ _ _

/-- On a stream that takes messages, giving a request up is withdrawing it. -/
theorem giveUp_of_open {s : Session} (h : s.Open) (goal : Goal) (id : Nat) (failure : Failure) :
    s.giveUp goal id failure =
      ((s.forget id).act (.write (notification "$/cancelRequest" (.obj [("id", .int id)]))),
        .waiting (.writing (.fail goal id failure))) := by
  obtain ⟨alive, shut, whole⟩ := h
  simp [giveUp, tell, refuse, send, Wire.send, forget, act, alive, shut, whole, Except.map]

/-- On any other, it ends the request. -/
theorem giveUp_of_broken {s : Session} {fault : StreamFault}
    (broken : s.transport.wire.broken = some fault) (goal : Goal) (id : Nat) (failure : Failure) :
    ∃ other, s.giveUp goal id failure = (s.forget id).conclude goal id (.error other) := by
  unfold giveUp
  simp only
  split
  · rename_i told
    unfold tell at told
    split at told
    · cases told
    · split at told
      · rename_i sent
        have whole := (send_ok sent).2.1
        rw [show (s.forget id).transport.wire.broken = s.transport.wire.broken from rfl,
          broken] at whole
        cases whole
      · cases told
  · exact ⟨_, rfl⟩

/-- **Every call goes on by acts**, and only with its own request. -/
theorem resume_moves (s : Session) (stage : Stage) : Moves s stage.id? (s.resume stage) := by
  unfold resume
  split
  · exact written_moves _ _
  · exact concludeOr_moves (.rest rfl)
  · exact concludeOr_moves (expire_moves _ _ _ _)
  · exact giveUp_moves _ _ _ _
  · exact release_moves _ _ _
  · exact .rest rfl

end Session

end ProbeBench
