import ProbeBench.Proofs.Session.Act

/-!
# Sessions that calls cannot tell apart

A session counts and keeps things that no call looks at: dropped responses, faulty frames,
notifications and warnings, the refusals among the messages written, and whether its reader is just
going on. Two sessions that differ in nothing else are `Alike`. Whatever is done to both leaves them
alike, as long as what is written is taken and no listener fails, and every call that goes on from
both comes to the same.

* `isRefusal`: which messages refuse a request of the server.
* `Alike.begin`, `Alike.resume`, `Alike.giveUp`, `Alike.unwritten`: calls.
* `Alike.dispatch`, `Alike.lose`: what the reader does.
-/

namespace ProbeBench

/-- Whether a message says that nobody handles a request. -/
def isRefusal (message : Members) : Bool :=
  match (message.get? "error").bind (·.get? "code") with
  | some (.int code) => code = methodNotFound
  | _ => false

theorem isRefusal_refusal (id : Json) (method : String) : isRefusal (refusal id method) = true :=
  rfl

/-- What calls write refuses nothing. -/
theorem isRefusal_of_call (id : Nat) (method : String) (params : Json) :
    isRefusal (requestMessage id method params) = false ∧
      isRefusal (notification method params) = false := by
  unfold requestMessage notification
  cases params.isNull <;> exact ⟨rfl, rfl⟩

/-- The reader, as if nobody had woken it. -/
def Reader.unwoken : Reader → Reader
  | .woken => .waiting
  | reader => reader

/-- A stream that takes what is written takes it until it is closed. -/
theorem Wire.send_of_whole {w : Wire} (whole : w.broken = none) (message : Members) :
    w.send message =
      if w.closed then .error (.lost .transportClosed)
      else .ok { w with sent := w.sent ++ [message] } := by
  unfold Wire.send
  split
  · rfl
  · split
    · rename_i broken
      rw [whole] at broken
      cases broken
    · rfl

/-- Two streams that have taken the same messages, but for refusals, and that take more. -/
structure Wire.Alike (w w' : Wire) : Prop where
  sent : w'.sent.filter (!isRefusal ·) = w.sent.filter (!isRefusal ·)
  whole : w.broken = none
  whole' : w'.broken = none
  closeFault : w'.closeFault = w.closeFault
  closed : w'.closed = w.closed

theorem Wire.Alike.close {w w' : Wire} (h : w.Alike w') :
    w.close.1.Alike w'.close.1 ∧ w'.close.2 = w.close.2 := by
  unfold Wire.close
  rw [h.closed]
  split
  · exact ⟨h, rfl⟩
  · exact ⟨⟨h.sent, h.whole, h.whole', h.closeFault, rfl⟩, by rw [h.closeFault]⟩

namespace Session

/-- Two sessions that calls cannot tell apart. Writes succeed on both, and their listener does not
fail. -/
structure Alike (s s' : Session) : Prop where
  wire : s.transport.wire.Alike s'.transport.wire
  reader : s'.reader.unwoken = s.reader.unwoken
  nextId : s'.nextId = s.nextId
  pending : s'.pending = s.pending
  outcomes : s'.outcomes = s.outcomes
  ending : s'.ending = s.ending
  closing : s'.closing = s.closing
  limit : s'.limit = s.limit
  capabilities : s'.capabilities = s.capabilities
  listener : s'.listener = s.listener
  listens : ∀ text, s.listener ≠ .failing text

/-- Two calls that have come to the same, on sessions that calls cannot tell apart. -/
def Agree (r r' : Session × Progress) : Prop := r.1.Alike r'.1 ∧ r'.2 = r.2

variable {s s' : Session}

theorem Alike.refl (whole : s.transport.wire.broken = none)
    (listens : ∀ text, s.listener ≠ .failing text) : s.Alike s :=
  ⟨⟨rfl, whole, whole, rfl, rfl⟩, rfl, rfl, rfl, rfl, rfl, rfl, rfl, rfl, rfl, listens⟩

/-- Two sessions that calls cannot tell from a third one they cannot tell apart. -/
theorem Alike.common {s'' : Session} (h : s.Alike s') (h' : s.Alike s'') : s'.Alike s'' where
  wire :=
    { sent := h'.wire.sent.trans h.wire.sent.symm
      whole := h.wire.whole'
      whole' := h'.wire.whole'
      closeFault := h'.wire.closeFault.trans h.wire.closeFault.symm
      closed := h'.wire.closed.trans h.wire.closed.symm }
  reader := h'.reader.trans h.reader.symm
  nextId := h'.nextId.trans h.nextId.symm
  pending := h'.pending.trans h.pending.symm
  outcomes := h'.outcomes.trans h.outcomes.symm
  ending := h'.ending.trans h.ending.symm
  closing := h'.closing.trans h.closing.symm
  limit := h'.limit.trans h.limit.symm
  capabilities := h'.capabilities.trans h.capabilities.symm
  listener := h'.listener.trans h.listener.symm
  listens := h.listener ▸ h.listens

/-! ## Writing and listening on one session -/

/-- What is written is taken until the stream is closed. -/
theorem send_of_whole (whole : s.transport.wire.broken = none) (message : Members) :
    s.send message =
      if s.transport.wire.closed then .error (.lost .transportClosed)
      else .ok (s.act (.write message)) := by
  rw [Session.send, Wire.send_of_whole whole]
  split <;> rfl

/-- A request of the server is refused. -/
theorem handle_of_id (whole : s.transport.wire.broken = none) {message : Members} {id : Json}
    (named : message.get? "id" = some id) (method : String) :
    s.handle method message =
      (if s.transport.wire.closed then s else s.act (.write (refusal id method)), none) := by
  unfold Session.handle
  simp only [named, send_of_whole whole]
  split <;> rfl

/-- A notification leaves no trace but in what is kept of notifications and warnings. -/
theorem handle_of_no_id (listens : ∀ text, s.listener ≠ .failing text) {message : Members}
    (named : message.get? "id" = none) (method : String) :
    ∃ notified warnings, s.handle method message = ({ s with notified, warnings }, none) := by
  unfold Session.handle
  simp only [named]
  split
  · exact ⟨_, _, rfl⟩
  · exact ⟨_, _, rfl⟩
  · split
    · unfold Session.warn
      split <;> exact ⟨_, _, rfl⟩
    · exact ⟨_, _, rfl⟩
  · rename_i text fails
    exact absurd fails (listens text)

namespace Alike

theorem listens' (h : s.Alike s') (text : String) : s'.listener ≠ .failing text := by
  rw [h.listener]
  exact h.listens text

/-! ## The table -/

theorem refuse (h : s.Alike s') : s'.refuse = s.refuse := by
  rw [Session.refuse, h.ending, Session.refuse]

theorem closed (h : s.Alike s') : s'.closed = s.closed := by
  rw [Session.closed, h.ending, Session.closed]

theorem forget (h : s.Alike s') (id : Nat) : (s.forget id).Alike (s'.forget id) :=
  { h with pending := by rw [Session.forget, h.pending, Session.forget] }

theorem settle (h : s.Alike s') (id : Nat) (o : Outcome) :
    (s.settle id o).Alike (s'.settle id o) :=
  { h with outcomes := congrArg (· ++ [(id, o)]) h.outcomes }

theorem outcome? (h : s.Alike s') (id : Nat) : s'.outcome? id = s.outcome? id := by
  rw [Session.outcome?, h.outcomes, Session.outcome?]

theorem collect (h : s.Alike s') (id : Nat) : (s.collect id).Alike (s'.collect id) :=
  { h with outcomes := by rw [Session.collect, h.outcomes, Session.collect] }

theorem settleAll (h : s.Alike s') (entries : List Entry) (failure : Failure) :
    (s.settleAll entries failure).Alike (s'.settleAll entries failure) := by
  induction entries generalizing s s' with
  | nil => exact h
  | cons e rest ih =>
    have one : Alike (if e.expired then s else s.settle e.id (.error failure))
        (if e.expired then s' else s'.settle e.id (.error failure)) := by
      split
      · exact h
      · exact h.settle e.id (.error failure)
    exact ih one

theorem failPending (h : s.Alike s') (failure : Failure) :
    (s.failPending failure).Alike (s'.failPending failure) := by
  have emptied : Alike { s with pending := [] } { s' with pending := [] } :=
    { h with pending := rfl }
  unfold Session.failPending
  rw [h.pending]
  exact emptied.settleAll s.pending failure

theorem endWith (h : s.Alike s') (ending : Ending) :
    (s.endWith ending).Alike (s'.endWith ending) := by
  have ended : Alike { s with ending := some (s.ending.getD ending) }
      { s' with ending := some (s.ending.getD ending) } := { h with ending := rfl }
  unfold Session.endWith
  rw [h.ending]
  exact ended.failPending _

theorem lose (h : s.Alike s') (ending : Ending) : (s.lose ending).Alike (s'.lose ending) :=
  h.endWith ending

theorem shut (h : s.Alike s') : s.shut.Alike s'.shut := by
  have begun : Alike { s with closing := true } { s' with closing := true } :=
    { h with closing := rfl }
  exact begun.endWith .closed

/-! ## The reader -/

theorem endReader (h : s.Alike s') : s.endReader.Alike s'.endReader :=
  { h with reader := rfl }

theorem absent_iff (h : s.Alike s') : s'.reader = .absent ↔ s.reader = .absent := by
  have same := h.reader
  cases hs : s.reader <;> cases hs' : s'.reader <;> simp_all [Reader.unwoken]

theorem ended_iff (h : s.Alike s') : s'.reader = .ended ↔ s.reader = .ended := by
  have same := h.reader
  cases hs : s.reader <;> cases hs' : s'.reader <;> simp_all [Reader.unwoken]

theorem start (h : s.Alike s') : s.start.Alike s'.start := by
  unfold Session.start
  simp only [h.absent_iff]
  split
  · exact { h with reader := rfl }
  · exact h

theorem cancelReader (h : s.Alike s') : s.cancelReader.Alike s'.cancelReader := by
  have same := h.reader
  unfold Session.cancelReader
  cases hs : s.reader <;> cases hs' : s'.reader <;> simp_all [Reader.unwoken]
  all_goals exact { h with reader := rfl }

/-! ## Writing -/

theorem write (h : s.Alike s') (message : Members) :
    (s.act (.write message)).Alike (s'.act (.write message)) := by
  refine { h with wire := { h.wire with sent := ?_ } }
  show List.filter _ (_ ++ _) = List.filter _ (_ ++ _)
  rw [List.filter_append, List.filter_append, h.wire.sent]

/-- A refusal that one of both writes is not seen by calls. -/
theorem refuses (h : s.Alike s') (id : Json) (method : String) :
    s.Alike (s'.act (.write (refusal id method))) := by
  refine { h with wire := { h.wire with sent := ?_ } }
  show List.filter _ (_ ++ _) = _
  rw [List.filter_append, h.wire.sent]
  exact List.append_nil _

/-- A message is written on both, or on neither. -/
theorem send (h : s.Alike s') (message : Members) :
    (∃ v v', s.send message = .ok v ∧ s'.send message = .ok v' ∧ v.Alike v') ∨
      ∃ fault, s.send message = .error fault ∧ s'.send message = .error fault := by
  rw [send_of_whole h.wire.whole, send_of_whole h.wire.whole']
  by_cases closed : s.transport.wire.closed = true
  · rw [if_pos closed, if_pos (h.wire.closed.trans closed)]
    exact .inr ⟨_, rfl, rfl⟩
  · have open_' : ¬ s'.transport.wire.closed = true := by rwa [h.wire.closed]
    rw [if_neg closed, if_neg open_']
    exact .inl ⟨_, _, rfl, rfl, h.write message⟩

/-- A notification is written on both, or on neither. -/
theorem tell (h : s.Alike s') (method : String) (params : Json) (after : After) :
    (∃ r r', s.tell method params after = .ok r ∧ s'.tell method params after = .ok r' ∧
      Agree r r') ∨
    ∃ failure, s.tell method params after = .error failure ∧
      s'.tell method params after = .error failure := by
  unfold Session.tell
  rw [h.refuse]
  split
  · exact .inr ⟨_, rfl, rfl⟩
  · rcases h.send (notification method params) with ⟨v, v', sent, sent', alike⟩ | ⟨f, lost, lost'⟩
    · rw [sent, sent']
      exact .inl ⟨_, _, rfl, rfl, alike, rfl⟩
    · rw [lost, lost']
      exact .inr ⟨_, rfl, rfl⟩

/-! ## Calls -/

theorem release (h : s.Alike s') (result : Outcome) (fault : Option StreamFault) :
    Agree (s.release result fault) (s'.release result fault) := by
  cases fault with
  | some fault => exact ⟨h, rfl⟩
  | none =>
    simp only [Session.release, h.absent_iff, h.ended_iff]
    split
    · exact ⟨h, rfl⟩
    · exact ⟨h.cancelReader, rfl⟩

theorem close (h : s.Alike s') (result : Outcome) : Agree (s.close result) (s'.close result) := by
  have shut := h.shut
  unfold Session.close
  simp only [shut.wire.closed]
  split
  · exact shut.release result none
  · obtain ⟨wire, fault⟩ := shut.wire.close
    exact ⟨{ shut with wire := wire }, by rw [fault]⟩

theorem adopt (h : s.Alike s') (result : Json) : (s.adopt result).Alike (s'.adopt result) := by
  unfold Session.adopt
  split
  · exact { h with capabilities := rfl }
  · exact h

theorem failHandshake (h : s.Alike s') (goal : Goal) (failure : Failure) :
    Agree (s.failHandshake goal failure) (s'.failHandshake goal failure) := by
  unfold Session.failHandshake
  split
  · exact h.close _
  · exact ⟨h, rfl⟩

theorem acknowledge (h : s.Alike s') (goal : Goal) (result : Json) :
    Agree (s.acknowledge goal result) (s'.acknowledge goal result) := by
  have adopted := h.adopt result
  unfold Session.acknowledge
  rcases adopted.tell "initialized" (.obj []) (.initialized goal result) with
    ⟨r, r', told, told', agree⟩ | ⟨f, lost, lost'⟩
  · simp only [told, told']
    exact agree
  · simp only [lost, lost']
    exact adopted.failHandshake goal f

theorem exit (h : s.Alike s') : Agree s.exit s'.exit := by
  unfold Session.exit
  rw [h.closed]
  split
  · exact h.close _
  · rcases h.tell "exit" .null .exit with ⟨r, r', told, told', agree⟩ | ⟨f, lost, lost'⟩
    · rw [told, told']
      exact agree
    · rw [lost, lost']
      exact ⟨h, rfl⟩

theorem warn (h : s.Alike s') (text text' : String) : (s.warn text).Alike (s'.warn text') := by
  unfold Session.warn
  split <;> split <;> exact { h with }

theorem proceed (h : s.Alike s') (goal : Goal) (o : Outcome) :
    Agree (s.proceed goal o) (s'.proceed goal o) := by
  cases goal with
  | answer => exact ⟨h, rfl⟩
  | shutdown =>
    cases o with
    | ok result => exact h.exit
    | error failure =>
      simp only [Session.proceed]
      split
      · exact (h.warn _ _).exit
      · exact ⟨h, rfl⟩
  | handshake =>
    cases o with
    | ok result => exact h.acknowledge _ result
    | error failure => exact h.failHandshake _ failure
  | connect =>
    cases o with
    | ok result => exact h.acknowledge _ result
    | error failure => exact h.failHandshake _ failure

theorem conclude (h : s.Alike s') (goal : Goal) (id : Nat) (o : Outcome) :
    Agree (s.conclude goal id o) (s'.conclude goal id o) :=
  ((h.forget id).collect id).proceed goal o

theorem concludeOr (h : s.Alike s') (goal : Goal) (id : Nat) {r r' : Session × Progress}
    (otherwise : Agree r r') : Agree (s.concludeOr goal id r) (s'.concludeOr goal id r') := by
  unfold Session.concludeOr
  rw [h.outcome? id]
  split
  · exact h.conclude goal id _
  · exact otherwise

theorem expire (h : s.Alike s') (goal : Goal) (id : Nat) (failure : Failure) :
    Agree (s.expire goal id failure) (s'.expire goal id failure) :=
  ⟨{ h with pending := congrArg (List.map _) h.pending }, rfl⟩

theorem written (h : s.Alike s') (after : After) : Agree (s.written after) (s'.written after) := by
  cases after with
  | wait goal id method limit =>
    cases limit with
    | none => exact h.concludeOr goal id ⟨h, rfl⟩
    | some x => exact ⟨h, rfl⟩
  | check goal id failure => exact h.concludeOr goal id (h.expire goal id failure)
  | fail goal id failure => exact h.conclude goal id _
  | initialized goal result => cases goal <;> exact ⟨h, rfl⟩
  | exit => exact h.close _
  | notify => exact ⟨h, rfl⟩

/-- A write that fails in the end fails on both. -/
theorem unwritten (h : s.Alike s') (failure : Failure) (after : After) :
    Agree (s.unwritten failure after) (s'.unwritten failure after) := by
  cases after with
  | wait goal id method limit => exact h.conclude goal id _
  | check goal id other => exact h.conclude goal id _
  | fail goal id other => exact h.conclude goal id _
  | initialized goal result => exact h.failHandshake goal failure
  | exit => exact ⟨h, rfl⟩
  | notify => exact ⟨h, rfl⟩

theorem request (h : s.Alike s') (goal : Goal) (method : String) (params : Json)
    (patience : Patience) :
    Agree (s.request goal method params patience) (s'.request goal method params patience) := by
  unfold Session.request
  rw [h.refuse]
  split
  · exact h.proceed goal _
  · simp only [h.nextId, h.limit]
    have registered : Alike
        { s with nextId := s.nextId + 1, pending := s.pending ++ [⟨s.nextId, method, false⟩] }
        { s' with
          nextId := s.nextId + 1, pending := s'.pending ++ [⟨s.nextId, method, false⟩]
          limit := s.limit } :=
      { h with nextId := rfl, pending := congrArg (· ++ [_]) h.pending, limit := rfl }
    rcases registered.send (requestMessage s.nextId method params) with
      ⟨v, v', sent, sent', alike⟩ | ⟨fault, lost, lost'⟩
    · rw [sent, sent']
      exact ⟨alike, rfl⟩
    · rw [lost, lost']
      exact registered.unwritten fault.failure _

/-- **A call that begins on both comes to the same.** -/
theorem begin (h : s.Alike s') (call : Call) : Agree (s.begin call) (s'.begin call) := by
  cases call with
  | request method params patience => exact h.request _ _ _ _
  | notify method params =>
    simp only [Session.begin]
    rcases h.tell method params .notify with ⟨r, r', told, told', agree⟩ | ⟨f, lost, lost'⟩
    · rw [told, told']
      exact agree
    · rw [lost, lost']
      exact ⟨h, rfl⟩
  | handshake params => exact h.request _ _ _ _
  | connect params => exact h.start.request _ _ _ _
  | shutdown patience =>
    have begun : Alike { s with closing := true } { s' with closing := true } :=
      { h with closing := rfl }
    simp only [Session.begin, h.closed]
    split
    · exact h.close _
    · exact begun.request _ _ _ _
  | close => exact h.close _
  | start => exact ⟨h.start, rfl⟩

/-- A request that was not answered in time is given up on both. -/
theorem giveUp (h : s.Alike s') (goal : Goal) (id : Nat) (failure : Failure) :
    Agree (s.giveUp goal id failure) (s'.giveUp goal id failure) := by
  have forgotten := h.forget id
  unfold Session.giveUp
  rcases forgotten.tell "$/cancelRequest" (.obj [("id", .int id)]) (.fail goal id failure) with
    ⟨r, r', told, told', agree⟩ | ⟨f, lost, lost'⟩
  · simp only [told, told']
    exact agree
  · simp only [lost, lost']
    exact forgotten.conclude goal id _

/-- **A call that goes on on both comes to the same.** -/
theorem resume (h : s.Alike s') (stage : Stage) : Agree (s.resume stage) (s'.resume stage) := by
  cases stage with
  | writing after => exact h.written after
  | awaiting goal id method limit =>
    cases limit with
    | none => exact h.concludeOr goal id ⟨h, rfl⟩
    | some x => exact h.concludeOr goal id (h.expire goal id _)
  | expiring goal id failure => exact h.giveUp goal id failure
  | closing result fault => exact h.release result fault
  | releasing result => exact ⟨h, rfl⟩

/-! ## Messages -/

theorem drop (h : s.Alike s') (id : Option Json) : (s.drop id).Alike (s'.drop id) :=
  have counted : Alike { s with dropped := s.dropped + 1 } { s' with dropped := s'.dropped + 1 } :=
    { h with }
  counted.warn _ _

theorem respond (h : s.Alike s') (message : Members) :
    (s.respond message).Alike (s'.respond message) := by
  unfold Session.respond
  simp only [h.pending]
  cases (requestId? (message.get? "id")).bind fun n =>
    s.pending.find? fun e => (e.id : Int) = n with
  | none => exact h.drop _
  | some entry =>
    by_cases past : entry.expired = true
    · simp only [past, if_true]
      exact (h.forget entry.id).drop _
    · simp only [if_neg past]
      exact (h.forget entry.id).settle entry.id _

/-- A message that names a method stops the reader on neither. -/
theorem handle (h : s.Alike s') (method : String) (message : Members) :
    (s.handle method message).1.Alike (s'.handle method message).1 ∧
      (s.handle method message).2 = none ∧ (s'.handle method message).2 = none := by
  cases named : message.get? "id" with
  | none =>
    obtain ⟨notified, warnings, handled⟩ := handle_of_no_id h.listens named method
    obtain ⟨notified', warnings', handled'⟩ := handle_of_no_id h.listens' named method
    rw [handled, handled']
    exact ⟨{ h with }, rfl, rfl⟩
  | some id =>
    rw [handle_of_id h.wire.whole named, handle_of_id h.wire.whole' named]
    by_cases closed : s.transport.wire.closed = true
    · rw [if_pos closed, if_pos (h.wire.closed.trans closed)]
      exact ⟨h, rfl, rfl⟩
    · have open_' : ¬ s'.transport.wire.closed = true := by rwa [h.wire.closed]
      rw [if_neg closed, if_neg open_']
      exact ⟨h.write (refusal id method), rfl, rfl⟩

/-- **A message that arrives on both** leaves both alike, and stops the reader on neither. -/
theorem dispatch (h : s.Alike s') (message : Members) :
    (s.dispatch message).1.Alike (s'.dispatch message).1 ∧
      (s.dispatch message).2 = none ∧ (s'.dispatch message).2 = none := by
  unfold Session.dispatch
  split
  · exact h.handle _ message
  · exact ⟨h.respond message, rfl, rfl⟩

end Alike

end Session

end ProbeBench
