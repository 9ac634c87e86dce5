import ProbeBench.Proofs.Loop.Tick
import ProbeBench.Proofs.Session.Waking

/-!
# Live sessions, and what they tell of documents

What a session has told its server of documents (`told`) while it is live: both streams are up, and
nobody has ended it. Reading adds nothing to that, as the reader writes nothing but refusals. A
request adds itself, and its cancellation when it is given up.

* `At`: a session is live, has told so much and lets requests wait so long.
* `At.read`, `At.arrive`: what comes from the server leaves it so.
* `begin_notify`, `asks_begin`, `asks_resume`: what calls do.
-/

namespace ProbeBench

/-- The methods of the messages that are about documents. -/
def documentMethods : List String :=
  ["textDocument/didOpen", "textDocument/didChange", "textDocument/definition",
    "textDocument/completion", "textDocument/didClose", "$/cancelRequest"]

/-- Whether a message is about documents: it opens, changes or closes one, asks something about
one, or withdraws a request. -/
def isOfDocuments (message : Members) : Bool :=
  match message.get? "method" with
  | some (.str method) => documentMethods.contains method
  | _ => false

/-- The message that withdraws a request. -/
def cancellation (id : Nat) : Members :=
  notification "$/cancelRequest" (.obj [("id", .int id)])

/-- What the server is told when a request ends: it is withdrawn if its time was over. -/
def cancellations (id : Nat) : Outcome → List Members
  | .error (.timeout ..) => [cancellation id]
  | _ => []

/-- The outcome is what the server has answered. -/
def FromServer : Outcome → Prop
  | .ok _ => True
  | .error (.request ..) => True
  | _ => False

/-- The outcome is what the server has answered, or that it has not answered in time. -/
def IsReply (o : Outcome) : Prop :=
  FromServer o ∨ ∃ method x, o = .error (.timeout method x)

theorem fromServer_responseOutcome (method : String) (message : Members) :
    FromServer (responseOutcome method message) := by
  unfold responseOutcome
  split
  · trivial
  · trivial
  · unfold requestFailure
    split <;> trivial

namespace Session

/-- The messages about documents that a session has written. -/
def told (s : Session) : List Members := s.transport.wire.sent.filter isOfDocuments

/-- Both streams are up, nobody has ended the session, and what it has for its callers comes from
the server. -/
structure Live (s : Session) : Prop where
  alive : s.ending = none
  open_ : s.transport.wire.closed = false
  whole : s.transport.wire.broken = none
  more : s.transport.inbox.ended = false
  readable : s.transport.inbox.fault = none
  reads : s.transport.chunk ≠ some 0
  listens : ∀ text, s.listener ≠ .failing text
  answers : ∀ o ∈ s.outcomes, FromServer o.2

/-- The session is live, has written these messages about documents, and its requests wait so
long. -/
structure At (told : List Members) (limit : Option Limit) (s : Session) : Prop where
  live : s.Live
  told : s.told = told
  limit : s.limit = limit

variable {told : List Members} {limit : Option Limit} {s : Session}

/-- Only the streams, the listener and what is there for callers matter. -/
theorem At.same {s' : Session} (h : s.At told limit) (ending : s'.ending = s.ending)
    (transport : s'.transport = s.transport) (listener : s'.listener = s.listener)
    (outcomes : s'.outcomes = s.outcomes) (waits : s'.limit = s.limit) : s'.At told limit := by
  refine ⟨⟨ending ▸ h.live.alive, ?_, ?_, ?_, ?_, ?_, listener ▸ h.live.listens,
    outcomes ▸ h.live.answers⟩, ?_, waits ▸ h.limit⟩
  · exact transport ▸ h.live.open_
  · exact transport ▸ h.live.whole
  · exact transport ▸ h.live.more
  · exact transport ▸ h.live.readable
  · exact transport ▸ h.live.reads
  · rw [Session.told, transport]
    exact h.told

theorem At.congr {s' : Session} (h : s.At told limit) (same : s.SameButWakes s') :
    s'.At told limit := by
  have e : s' = { s with wakes := s'.wakes } := by
    cases s
    cases s'
    cases same
    rfl
  rw [e]
  exact h.same rfl rfl rfl rfl rfl

theorem Live.send (h : s.Live) (message : Members) :
    s.send message =
      .ok { s with transport.wire.sent := s.transport.wire.sent ++ [message] } := by
  simp [Session.send, Wire.send, h.open_, h.whole, Except.map]

theorem At.write (h : s.At told limit) {message : Members} (of : isOfDocuments message = true) :
    At (told ++ [message]) limit
      { s with transport.wire.sent := s.transport.wire.sent ++ [message] } := by
  refine ⟨⟨h.live.alive, h.live.open_, h.live.whole, h.live.more, h.live.readable, h.live.reads,
    h.live.listens, h.live.answers⟩, ?_, h.limit⟩
  rw [← h.told, Session.told, Session.told, List.filter_append, List.filter_cons_of_pos of,
    List.filter_nil]

theorem At.writeOther (h : s.At told limit) {message : Members}
    (other : isOfDocuments message = false) :
    At told limit { s with transport.wire.sent := s.transport.wire.sent ++ [message] } := by
  refine ⟨⟨h.live.alive, h.live.open_, h.live.whole, h.live.more, h.live.readable, h.live.reads,
    h.live.listens, h.live.answers⟩, ?_, h.limit⟩
  rw [← h.told, Session.told, Session.told, List.filter_append,
    List.filter_cons_of_neg (by simp [other]), List.filter_nil, List.append_nil]

theorem At.warn (h : s.At told limit) (text : String) : (s.warn text).At told limit := by
  unfold Session.warn
  split
  · exact h.same rfl rfl rfl rfl rfl
  · exact h

theorem At.forget (h : s.At told limit) (id : Nat) : (s.forget id).At told limit :=
  h.same rfl rfl rfl rfl rfl

theorem At.collect (h : s.At told limit) (id : Nat) : (s.collect id).At told limit :=
  ⟨⟨h.live.alive, h.live.open_, h.live.whole, h.live.more, h.live.readable, h.live.reads,
    h.live.listens, fun o ho => h.live.answers o (List.mem_filter.mp ho).1⟩, h.told, h.limit⟩

theorem At.settle (h : s.At told limit) (id : Nat) {o : Outcome} (ho : FromServer o) :
    (s.settle id o).At told limit := by
  refine ⟨⟨h.live.alive, h.live.open_, h.live.whole, h.live.more, h.live.readable, h.live.reads,
    h.live.listens, fun a ha => ?_⟩, h.told, h.limit⟩
  rcases List.mem_append.mp ha with there | new
  · exact h.live.answers a there
  · rw [List.mem_singleton.mp new]
    exact ho

/-! ## Reading -/

theorem At.drop (h : s.At told limit) (id : Option Json) : (s.drop id).At told limit := by
  refine At.warn ?_ _
  exact h.same rfl rfl rfl rfl rfl

theorem At.respond (h : s.At told limit) (message : Members) :
    (s.respond message).At told limit := by
  rw [respond_eq]
  split
  · exact h.drop _
  · rename_i entry _
    split
    · exact (h.forget _).drop _
    · exact (h.forget _).settle _ (fromServer_responseOutcome _ _)

/-- A refusal names no method. -/
theorem isOfDocuments_refusal (id : Json) (method : String) :
    isOfDocuments (refusal id method) = false := rfl

theorem At.handle (h : s.At told limit) (method : String) (message : Members) :
    (s.handle method message).1.At told limit ∧ (s.handle method message).2 = none := by
  unfold Session.handle
  split
  · rename_i id _
    rw [h.live.open_, h.live.send]
    exact ⟨h.writeOther (isOfDocuments_refusal id method), rfl⟩
  · split
    · exact ⟨h.same rfl rfl rfl rfl rfl, rfl⟩
    · exact ⟨h, rfl⟩
    · split
      · exact ⟨h.warn _, rfl⟩
      · exact ⟨h, rfl⟩
    · rename_i text he
      exact absurd he (h.live.listens text)

theorem At.dispatch (h : s.At told limit) (message : Members) :
    (s.dispatch message).1.At told limit ∧ (s.dispatch message).2 = none := by
  unfold Session.dispatch
  split
  · exact h.handle _ _
  · exact ⟨h.respond _, rfl⟩

theorem At.takeIn (h : s.At told limit) (items : List Frame.Item) :
    (s.takeIn items).1.At told limit ∧ (s.takeIn items).2 = none := by
  induction items generalizing s with
  | nil => exact ⟨h, rfl⟩
  | cons item rest ih =>
    cases item with
    | fault fault =>
      refine ih (At.warn ?_ _)
      exact h.same rfl rfl rfl rfl rfl
    | message message =>
      have handled := h.dispatch message
      rw [Session.takeIn]
      split
      · rename_i he
        rw [he] at handled
        exact ih handled.1
      · rename_i he
        rw [he] at handled
        cases handled.2

theorem wire_pull (t : Transport) : t.pull.2.1.wire = t.wire := by
  unfold Transport.pull
  split
  · rfl
  · split
    · rfl
    · simp only
      split <;> rfl
    · split <;> rfl

theorem wire_arrive (t : Transport) (octets : List UInt8) : (t.arrive octets).wire = t.wire := by
  unfold Transport.arrive
  split <;> rfl

/-- As nothing has ended, more may arrive, whatever could be read. -/
theorem At.pull (h : s.At told limit) :
    ∃ transport, s.transport.pull = (s.transport.pull.1, transport, .waiting) ∧
      At told limit { s with transport } := by
  have whole := h.live.readable
  have more := h.live.more
  have reads := h.live.reads
  obtain ⟨items, inbox, decoder, hp, more', whole'⟩ : ∃ items inbox decoder, s.transport.pull =
      (items, { s.transport with inbox, decoder }, .waiting) ∧
      inbox.ended = false ∧ inbox.fault = none := by
    unfold Transport.pull
    rw [whole]
    simp only
    split
    · rename_i none_
      exact absurd none_ reads
    · rw [more]
      exact ⟨_, { fault := s.transport.inbox.fault }, _, rfl, rfl, whole⟩
    · rw [more]
      exact ⟨[], s.transport.inbox, s.transport.decoder, rfl, more, whole⟩
  rw [hp]
  exact ⟨_, rfl, ⟨h.live.alive, h.live.open_, h.live.whole, more', whole', reads, h.live.listens,
    h.live.answers⟩, h.told, h.limit⟩

/-- A reader that goes on takes in what has arrived, and waits for more. -/
theorem At.read_of_woken (h : s.At told limit) (woken : s.reader = .woken) :
    ∃ transport, transport.wire = s.transport.wire ∧ At told limit { s with transport } ∧
      s.read =
        { (Session.takeIn { s with transport } s.transport.pull.1).1 with reader := .waiting } := by
  obtain ⟨transport, hp, pulled⟩ := h.pull
  have wire : transport.wire = s.transport.wire := by
    have kept := wire_pull s.transport
    rw [hp] at kept
    exact kept
  obtain ⟨_, clean⟩ := pulled.takeIn s.transport.pull.1
  refine ⟨transport, wire, pulled, ?_⟩
  unfold Session.read
  split
  · rename_i other
    rw [woken] at other
    cases other
  · rw [hp]
    simp only
    split
    · rename_i he
      rw [he] at clean
      cases clean
    · rename_i he
      rw [he]
  · rename_i other
    exact absurd woken other

/-- **Reading tells the server nothing of documents**, and the session lives on. -/
theorem At.read (h : s.At told limit) : s.read.At told limit := by
  by_cases woken : s.reader = .woken
  · obtain ⟨transport, _, pulled, read⟩ := h.read_of_woken woken
    rw [read]
    exact (pulled.takeIn _).1.same rfl rfl rfl rfl rfl
  · unfold Session.read
    split
    · exact h.same rfl rfl rfl rfl rfl
    · rename_i goes
      exact absurd goes woken
    · exact h

theorem At.arrive (h : s.At told limit) (octets : List UInt8) :
    (s.arrive octets).At told limit := by
  unfold Session.arrive
  split
  · exact h
  · have arrived : At told limit { s with transport := s.transport.arrive octets } := by
      unfold Transport.arrive
      split
      · exact h
      · exact ⟨⟨h.live.alive, h.live.open_, h.live.whole, h.live.more, h.live.readable,
          h.live.reads, h.live.listens, h.live.answers⟩, h.told, h.limit⟩
    unfold wakeReader
    split
    · exact arrived.same rfl rfl rfl rfl rfl
    · exact arrived

/-! ## A call -/

theorem Live.tell (h : s.Live) (method : String) (params : Json) (after : After) :
    s.tell method params after =
      .ok ({ s with
        transport.wire.sent := s.transport.wire.sent ++ [notification method params] },
        .waiting (.writing after)) := by
  simp [Session.tell, refuse, h.alive, h.send]

/-- Where a call waits whose request has this id and may take that many seconds. -/
inductive Patient (id : Nat) (method : String) (seconds : Option Float) : Stage → Prop
  | awaiting : Patient id method seconds (.awaiting .answer id method seconds)
  | expiring (x : Float) : Patient id method seconds (.expiring .answer id (.timeout method x))

/-- What has become of a call whose request has this id, on a session that has told the server so
much before: it waits, or it has ended with a reply. -/
inductive Asks (id : Nat) (method : String) (seconds : Option Float) (told : List Members)
    (limit : Option Limit) : Session × Progress → Prop
  | waits {s : Session} {stage : Stage} (live : s.At told limit)
      (patient : Patient id method seconds stage) (poised : s.Poised stage) :
      Asks id method seconds told limit (s, .waiting stage)
  | ends {s : Session} {o : Outcome} (live : s.At (told ++ cancellations id o) limit)
      (reply : IsReply o) : Asks id method seconds told limit (s, .finished o)

end Session

end ProbeBench
