import ProbeBench.Session.Basic

/-!
# Calls on a session

A `Call` is something a client asks of a session. `begin` does what can be done at once; a call that
has to wait is at a `Stage` from which `resume` goes on. It waits wherever others may go on in the
meantime: until the stream has taken what it wrote, for the response of a request, having stopped
waiting because the time is over, until the stream has closed, and for the reader to end.

What a call does when a message is written is its `After`; if the write fails in the end,
`unwritten` says how the call goes on. What a request was made for, its `Goal`, decides the same
after the response:

* a handshake takes the server's capabilities and sends `initialized`;
* a connection is a handshake that closes the session if it fails;
* a shutdown sends `exit` and closes the session.

A call never leaves its request in the table: `conclude` takes it off on every path.
-/

namespace ProbeBench

/-- How long a request waits: as long as the session says, or as given; none is for ever. -/
inductive Patience where
  | inherited
  | given (limit : Option Limit)

/-- What a client asks of a session. -/
inductive Call where
  | request (method : String) (params : Json) (patience : Patience)
  | notify (method : String) (params : Json)
  | handshake (params : Json)
  | connect (params : Json)
  | shutdown (patience : Patience)
  | close
  | start

/-- What a request was made for. -/
inductive Goal where
  | answer
  | handshake
  | connect
  | shutdown
  deriving DecidableEq, Repr

/-- What a call does once the stream has taken its message. -/
inductive After where
  /-- It waits for the response of request `id`, until the limit if there is one. -/
  | wait (goal : Goal) (id : Nat) (method : String) (limit : Option Float)
  /-- It takes the response of request `id` if there is one by now, and stops waiting if not: the
  request has no time left and fails with `failure`. -/
  | check (goal : Goal) (id : Nat) (failure : Failure)
  /-- Its request fails with `failure`. -/
  | fail (goal : Goal) (id : Nat) (failure : Failure)
  /-- Its handshake ends, which the server answered with `result`. -/
  | initialized (goal : Goal) (result : Json)
  /-- It closes the session. -/
  | exit
  /-- It ends. -/
  | notify

/-- Where a call waits. -/
inductive Stage where
  /-- For the stream to take what was written. -/
  | writing (after : After)
  /-- For the response of request `id`, until the limit if there is one. -/
  | awaiting (goal : Goal) (id : Nat) (method : String) (limit : Option Float)
  /-- For the end of a request whose time is over; then it fails with `failure`. -/
  | expiring (goal : Goal) (id : Nat) (failure : Failure)
  /-- For the stream to close, which meets `fault` if there is one; else the call is to end with
  `result`. -/
  | closing (result : Outcome) (fault : Option StreamFault)
  /-- For the reader to end; then the call ends with `result`. -/
  | releasing (result : Outcome)

/-- The request that a call has made and goes on with once its message is written. -/
def After.id? : After → Option Nat
  | .wait _ id _ _ => some id
  | .check _ id _ => some id
  | .fail _ id _ => some id
  | _ => none

/-- The request that a call at the stage has made and that has not ended. -/
def Stage.id? : Stage → Option Nat
  | .writing after => after.id?
  | .awaiting _ id _ _ => some id
  | .expiring _ id _ => some id
  | _ => none

/-- How far a call has come. -/
inductive Progress where
  | finished (outcome : Outcome)
  | waiting (stage : Stage)

namespace Session

/-- Writes a notification, unless the session has ended; the call goes on with `after`. -/
def tell (s : Session) (method : String) (params : Json) (after : After) :
    Except Failure (Session × Progress) :=
  match s.refuse with
  | .error failure => .error failure
  | .ok () =>
    match s.send (notification method params) with
    | .ok s => .ok (s, .waiting (.writing after))
    | .error fault => .error fault.failure

/-- Goes on after the stream has closed. -/
def release (s : Session) (result : Outcome) : Option StreamFault → Session × Progress
  | some fault => (s, .finished (.error (.stream fault)))
  | none =>
    if s.reader = .absent ∨ s.reader = .ended then (s, .finished result)
    else (s.cancelReader, .waiting (.releasing result))

/-- Closes the session; the call that did it ends with `result` once the reader has ended. -/
def close (s : Session) (result : Outcome) : Session × Progress :=
  let s := s.shut
  if s.transport.wire.closed then s.release result none
  else
    let (wire, fault) := s.transport.wire.close
    ({ s with transport.wire := wire }, .waiting (.closing result fault))

/-- Takes over the capabilities that the server declares. -/
def adopt (s : Session) (result : Json) : Session :=
  match result.get? "capabilities" with
  | some (.obj members) => { s with capabilities := members }
  | _ => s

/-- Goes on after a handshake has failed. -/
def failHandshake (s : Session) (goal : Goal) (failure : Failure) : Session × Progress :=
  match goal with
  | .connect => s.close (.error failure)
  | _ => (s, .finished (.error failure))

/-- Goes on after the server has answered a handshake. -/
def acknowledge (s : Session) (goal : Goal) (result : Json) : Session × Progress :=
  let s := s.adopt result
  match s.tell "initialized" (.obj []) (.initialized goal result) with
  | .ok r => r
  | .error failure => s.failHandshake goal failure

/-- Whether a shutdown goes on after its request failed in this way. -/
def isTolerated : Failure → Bool
  | .request .. => true
  | .timeout .. => true
  | .closed => true
  | _ => false

/-- Sends `exit`, unless the session has ended, and closes it. -/
def exit (s : Session) : Session × Progress :=
  if s.closed then s.close (.ok .null)
  else
    match s.tell "exit" .null .exit with
    | .ok r => r
    | .error failure => (s, .finished (.error failure))

/-- Goes on after the request of a call ended with `outcome`. -/
def proceed (s : Session) (goal : Goal) (outcome : Outcome) : Session × Progress :=
  match goal, outcome with
  | .answer, outcome => (s, .finished outcome)
  | .shutdown, .ok _ => s.exit
  | .shutdown, .error failure =>
    if isTolerated failure then (s.warn ("Shutdown request failed: " ++ failure.message)).exit
    else (s, .finished (.error failure))
  | goal, .ok result => s.acknowledge goal result
  | goal, .error failure => s.failHandshake goal failure

/-- Takes the request off the table, and its outcome with it, and goes on. -/
def conclude (s : Session) (goal : Goal) (id : Nat) (outcome : Outcome) : Session × Progress :=
  ((s.forget id).collect id).proceed goal outcome

/-- Goes on with the outcome of a request if it has one, and in another way if not. -/
def concludeOr (s : Session) (goal : Goal) (id : Nat) (otherwise : Session × Progress) :
    Session × Progress :=
  match s.outcome? id with
  | some outcome => s.conclude goal id outcome
  | none => otherwise

/-- Stops waiting for a request. -/
def expire (s : Session) (goal : Goal) (id : Nat) (failure : Failure) : Session × Progress :=
  ({ s with
      pending := s.pending.map fun e => if e.id = id then { e with expired := true } else e
      wakes := s.wakes ++ [.caller id] },
    .waiting (.expiring goal id failure))

/-- Goes on after the stream has taken a message. -/
def written (s : Session) : After → Session × Progress
  | .wait goal id method none =>
    s.concludeOr goal id (s, .waiting (.awaiting goal id method none))
  | .wait goal id method (some seconds) => (s, .waiting (.awaiting goal id method (some seconds)))
  | .check goal id failure => s.concludeOr goal id (s.expire goal id failure)
  | .fail goal id failure => s.conclude goal id (.error failure)
  | .initialized .connect _ => (s, .finished (.ok .null))
  | .initialized _ result => (s, .finished (.ok result))
  | .exit => s.close (.ok .null)
  | .notify => (s, .finished (.ok .null))

/-- Goes on after a message could not be written. -/
def unwritten (s : Session) (failure : Failure) : After → Session × Progress
  | .wait goal id _ _ => s.conclude goal id (.error failure)
  | .check goal id _ => s.conclude goal id (.error failure)
  | .fail goal id _ => s.conclude goal id (.error failure)
  | .initialized goal _ => s.failHandshake goal failure
  | .exit => (s, .finished (.error failure))
  | .notify => (s, .finished (.error failure))

/-- What the caller of a request with this limit does once it is written. -/
def afterRequest (goal : Goal) (id : Nat) (method : String) : Option Limit → After
  | none => .wait goal id method none
  | some (.seconds x) =>
    if x ≤ 0 then .check goal id (.timeout method x) else .wait goal id method (some x)
  | some (.overdue failure) => .check goal id failure
  | some (.unusable failure) => .fail goal id failure

/-- Makes a request. -/
def request (s : Session) (goal : Goal) (method : String) (params : Json) (patience : Patience) :
    Session × Progress :=
  match s.refuse with
  | .error failure => s.proceed goal (.error failure)
  | .ok () =>
    let limit :=
      match patience with
      | .inherited => s.limit
      | .given limit => limit
    let id := s.nextId
    let after := afterRequest goal id method limit
    let s : Session := { s with nextId := id + 1, pending := s.pending ++ [⟨id, method, false⟩] }
    match s.send (requestMessage id method params) with
    | .ok s => (s, .waiting (.writing after))
    | .error fault => s.unwritten fault.failure after

/-- Begins a call. -/
def begin (s : Session) : Call → Session × Progress
  | .request method params patience => s.request .answer method params patience
  | .notify method params =>
    match s.tell method params .notify with
    | .ok r => r
    | .error failure => (s, .finished (.error failure))
  | .handshake params => s.request .handshake "initialize" params .inherited
  | .connect params => s.start.request .connect "initialize" params .inherited
  | .shutdown patience =>
    if s.closed then s.close (.ok .null)
    else ({ s with closing := true } : Session).request .shutdown "shutdown" .null patience
  | .close => s.close (.ok .null)
  | .start => (s.start, .finished (.ok .null))

/-- Gives a request up that was not answered in time, and tells the server. -/
def giveUp (s : Session) (goal : Goal) (id : Nat) (failure : Failure) : Session × Progress :=
  let s := s.forget id
  match s.tell "$/cancelRequest" (.obj [("id", .int id)]) (.fail goal id failure) with
  | .ok r => r
  | .error other => s.conclude goal id (.error other)

/-- Lets a call go on. A caller with a limit that was let go without an outcome has run out of
time. -/
def resume (s : Session) : Stage → Session × Progress
  | .writing after => s.written after
  | .awaiting goal id method none =>
    s.concludeOr goal id (s, .waiting (.awaiting goal id method none))
  | .awaiting goal id method (some seconds) =>
    s.concludeOr goal id (s.expire goal id (.timeout method seconds))
  | .expiring goal id failure => s.giveUp goal id failure
  | .closing result fault => s.release result fault
  | .releasing result => (s, .finished result)

end Session

end ProbeBench
