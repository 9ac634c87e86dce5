import ProbeBench.Protocol
import ProbeBench.Transport

/-!
# Sessions

A session keeps apart the requests that are open on one connection. Each request gets the next
number as its id and an `Entry` in the table of pending requests; a response finds its request by
the id alone, so responses may come in any order. `settle` moves a request from the table to the
list of outcomes, where its caller finds it.

Every way a session ends sets its failure, once, and settles all that is pending with it: `lose`
when the stream from the server ends or fails, `shut` when the session is closed from this side.
From then on nothing is written and every call fails with the failure.

`dispatch` handles one message and `read` everything that has arrived. Operations that let somebody
else go on note that in `wakes`, in the order in which it happens.
-/

namespace ProbeBench

/-- What a call ends with. -/
abbrev Outcome := Except Failure Json

/-- A request that waits for its response. -/
structure Entry where
  id : Nat
  method : String
  /-- Its caller has stopped waiting. -/
  expired : Bool := false
  deriving DecidableEq, Repr

/-- What is done with notifications from the server. -/
inductive Listener where
  | collect
  | ignore
  /-- What the server wants to be shown becomes a warning. -/
  | announce
  /-- The listener takes the message and then fails. -/
  | failing (text : String)
  deriving DecidableEq, Repr

/-- The task that reads what arrives. -/
inductive Reader where
  | absent
  /-- Waits for octets. -/
  | waiting
  /-- Will go on. -/
  | woken
  /-- Will go on only to end. -/
  | cancelled
  | ended
  deriving DecidableEq, Repr

/-- Somebody who can go on. -/
inductive Wake where
  /-- The caller of the request with this id. -/
  | caller (id : Nat)
  | reader
  deriving DecidableEq, Repr

/-- Why a session has ended. -/
inductive Ending where
  | lost (cause : Loss)
  | closed
  deriving DecidableEq, Repr

/-- What calls fail with once a session has ended. -/
def Ending.failure : Ending → Failure
  | .lost cause => .lost cause
  | .closed => .closed

/-- How long a request may wait. -/
inductive Limit where
  | seconds (x : Float)
  /-- It is over at once, and the request fails in this way. -/
  | overdue (failure : Failure)
  /-- It cannot be measured, and the request fails in this way as soon as it is written. -/
  | unusable (failure : Failure)

/-- The limit that a value means; none is for ever. -/
def Limit.ofJson? : Json → Option Limit
  | .null => none
  | .float x => some (.seconds x)
  | .bool b => some (.seconds (if b then 1.0 else 0.0))
  | .int n =>
    match Decimal.double? n with
    | some x => some (.seconds x)
    | none => some (if n < 0 then .overdue .tooLarge else .unusable .tooLarge)
  | _ => some (.unusable .wrongType)

/-- A session. -/
structure Session where
  transport : Transport := {}
  reader : Reader := .absent
  nextId : Nat := 1
  pending : List Entry := []
  /-- The outcomes that no caller has taken yet, in the order in which they came. -/
  outcomes : List (Nat × Outcome) := []
  ending : Option Ending := none
  /-- Closing has begun on this side. -/
  closing : Bool := false
  /-- How long requests wait unless they say otherwise; none is for ever. -/
  limit : Option Limit := none
  capabilities : Members := []
  /-- Responses that no request waited for. -/
  dropped : Nat := 0
  frameFaults : Nat := 0
  listener : Listener := .collect
  notified : List Members := []
  /-- Whether warnings are kept. -/
  warns : Bool := true
  warnings : List String := []
  wakes : List Wake := []

/-- The protocol's number for a method that nobody handles. -/
def methodNotFound : Int := -32601

/-- The number for errors without one of their own. -/
def unknownCode : Int := -32001

/-- The request that a message makes. -/
def requestMessage (id : Nat) (method : String) (params : Json) : Members :=
  [("jsonrpc", .str "2.0"), ("id", .int id), ("method", .str method)] ++
    (if params.isNull then [] else [("params", params)])

/-- The message of a notification. -/
def notification (method : String) (params : Json) : Members :=
  [("jsonrpc", .str "2.0"), ("method", .str method)] ++
    (if params.isNull then [] else [("params", params)])

/-- The answer to a request of the server. -/
def refusal (id : Json) (method : String) : Members :=
  [("jsonrpc", .str "2.0"), ("id", id),
    ("error", .obj [("code", .int methodNotFound),
      ("message", .str ("Unhandled method " ++ method))])]

/-- The failure of a request called `method` that the server answered with `error`. -/
def requestFailure (method : String) (error : Json) : Failure :=
  match error with
  | .obj _ =>
    let code : Json :=
      match error.get? "code" with
      | some (.int n) => .int n
      | some (.bool b) => .bool b
      | _ => .int unknownCode
    let text : String :=
      match error.get? "message" with
      | some (.str s) => s
      | _ => unknownError
    .request method code text ((error.get? "data").getD .null)
  | other => .request method (.int unknownCode) other.display .null

/-- The outcome that a response gives to a request called `method`. -/
def responseOutcome (method : String) (message : Members) : Outcome :=
  match message.get? "error" with
  | none | some .null => .ok ((message.get? "result").getD .null)
  | some error => .error (requestFailure method error)

/-- The request id that a member means; truth values count as one and zero. -/
def requestId? : Option Json → Option Int
  | some (.int n) => some n
  | some (.bool b) => some (if b then 1 else 0)
  | _ => none

namespace Session

/-- Whether the session has ended. -/
def closed (s : Session) : Bool := s.ending.isSome

/-- Keeps a warning. -/
def warn (s : Session) (text : String) : Session :=
  if s.warns then { s with warnings := s.warnings ++ [text] } else s

/-- The failure of calls on a session that has ended. -/
def refuse (s : Session) : Except Failure Unit :=
  match s.ending with
  | some ending => .error ending.failure
  | none => .ok ()

/-- Writes a message. -/
def send (s : Session) (message : Members) : Except WriteFault Session :=
  (s.transport.wire.send message).map fun wire => { s with transport.wire := wire }

/-- Takes the entry of a request off the table. -/
def forget (s : Session) (id : Nat) : Session :=
  { s with pending := s.pending.filter (·.id ≠ id) }

/-- Records the outcome of a request and lets its caller go on. -/
def settle (s : Session) (id : Nat) (outcome : Outcome) : Session :=
  { s with
    outcomes := s.outcomes ++ [(id, outcome)]
    wakes := s.wakes ++ [.caller id] }

/-- The outcome of a request, if it has one. -/
def outcome? (s : Session) (id : Nat) : Option Outcome :=
  (s.outcomes.find? fun o => o.1 = id).map (·.2)

/-- Takes the outcome of a request. -/
def collect (s : Session) (id : Nat) : Session :=
  { s with outcomes := s.outcomes.filter (·.1 ≠ id) }

/-- Settles requests with one failure, in order, except those whose callers have stopped waiting. -/
def settleAll (s : Session) (entries : List Entry) (failure : Failure) : Session :=
  entries.foldl (fun s e => if e.expired then s else s.settle e.id (.error failure)) s

/-- Empties the table, settling what is in it. -/
def failPending (s : Session) (failure : Failure) : Session :=
  settleAll { s with pending := [] } s.pending failure

/-- Ends the session, unless it has ended already, and empties the table. -/
def endWith (s : Session) (ending : Ending) : Session :=
  let ending := s.ending.getD ending
  failPending { s with ending := some ending } ending.failure

/-- Ends the session because the connection is lost. -/
def lose (s : Session) (ending : Ending) : Session :=
  s.endWith ending

/-- Ends the session from this side. -/
def shut (s : Session) : Session :=
  endWith { s with closing := true } .closed

/-- The loss that a write fault in the reader amounts to. -/
def lossOf : WriteFault → Loss
  | .lost cause => cause
  | .stream fault =>
    if fault.kind = .value then .readerFailed fault.text else .readFailed fault.text

/-- Handles a message that names a method: a request of the server is refused, a notification goes
to the listener. Also says what stops the reader. -/
def handle (s : Session) (method : String) (message : Members) : Session × Option WriteFault :=
  match message.get? "id" with
  | some id =>
    if s.transport.wire.closed then (s, none)
    else
      match s.send (refusal id method) with
      | .ok s => (s, none)
      | .error fault => (s, some fault)
  | none =>
    match s.listener with
    | .collect => ({ s with notified := s.notified ++ [message] }, none)
    | .ignore => (s, none)
    | .announce =>
      match Protocol.serverMessage? message with
      | some text => (s.warn text, none)
      | none => (s, none)
    | .failing text =>
      ({ s with notified := s.notified ++ [message] }, some (.stream ⟨.value, text⟩))

/-- Counts a response that no request waits for. -/
def drop (s : Session) (id : Option Json) : Session :=
  { s with dropped := s.dropped + 1 }.warn
    ("Dropping response for unknown request id " ++ (id.getD .null).literal)

/-- Handles a response. -/
def respond (s : Session) (message : Members) : Session :=
  let id := message.get? "id"
  match (requestId? id).bind fun n => s.pending.find? fun e => (e.id : Int) = n with
  | none => s.drop id
  | some entry =>
    let s := s.forget entry.id
    if entry.expired then s.drop id
    else s.settle entry.id (responseOutcome entry.method message)

/-- Handles one message. -/
def dispatch (s : Session) (message : Members) : Session × Option WriteFault :=
  match message.get? "method" with
  | some (.str method) => s.handle method message
  | _ => (s.respond message, none)

/-- Ends the reader's work. -/
def endReader (s : Session) : Session := { s with reader := .ended }

/-- Handles what came out of the stream, in order, up to the first fault that stops the reader. -/
def takeIn (s : Session) : List Frame.Item → Session × Option WriteFault
  | [] => (s, none)
  | .fault fault :: rest =>
    let s := { s with frameFaults := s.frameFaults + 1 }.warn ("Protocol error: " ++ fault.message)
    takeIn s rest
  | .message message :: rest =>
    match s.dispatch message with
    | (s, none) => takeIn s rest
    | (s, some fault) => (s, some fault)

/-- How a session ends when the server's output does. -/
def endingAtEnd (s : Session) : Ending :=
  if s.closing then .closed else .lost .outputEnded

/-- Lets the reader take in everything that has arrived. -/
def read (s : Session) : Session :=
  match s.reader with
  | .cancelled => s.endReader
  | .woken =>
    let (items, transport, status) := s.transport.pull
    match takeIn { s with transport } items with
    | (s, some fault) => (s.lose (.lost (lossOf fault))).endReader
    | (s, none) =>
      match status with
      | .waiting => { s with reader := .waiting }
      | .ended => (s.lose s.endingAtEnd).endReader
      | .failed fault => (s.lose (.lost (lossOf (.stream fault)))).endReader
  | _ => s

/-- Lets the reader go on if it waits. -/
def wakeReader (s : Session) : Session :=
  if s.reader = .waiting then { s with reader := .woken, wakes := s.wakes ++ [.reader] } else s

/-- Starts the reader, once. -/
def start (s : Session) : Session :=
  if s.reader = .absent then { s with reader := .woken, wakes := s.wakes ++ [.reader] } else s

/-- Tells the reader to end. -/
def cancelReader (s : Session) : Session :=
  match s.reader with
  | .waiting => { s with reader := .cancelled, wakes := s.wakes ++ [.reader] }
  | .woken => { s with reader := .cancelled }
  | _ => s

/-- Octets arrive. -/
def arrive (s : Session) (octets : List UInt8) : Session :=
  if octets.isEmpty then s else { s with transport := s.transport.arrive octets }.wakeReader

/-- The stream from the server ends. -/
def finish (s : Session) : Session :=
  { s with transport := s.transport.finish }.wakeReader

/-- Reading will fail. -/
def failReader (s : Session) (fault : StreamFault) : Session :=
  { s with transport := s.transport.fail fault }.wakeReader

end Session

end ProbeBench
