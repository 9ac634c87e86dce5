import ProbeBench.Schedule
import ProbeBench.Server
import ProbeBench.Session.Call

/-!
# The loop

Calls on one session take turns. A `Loop` holds what is ready to go on, in rounds: what becomes
ready during a round goes on in the next one, and behind it what its schedule has due. Time is
virtual: it passes only while nothing is ready.

A caller that waits without a limit goes on in the round after its response. A caller with a limit
goes on one round later, because the response, like the timer, only lets it go (`Ready.relay`); it
then looks whether there is an outcome. Here the stream takes and closes at once, so nobody else
goes on while a call waits for it.
-/

namespace ProbeBench

/-- Something that is ready to go on. -/
inductive Ready where
  /-- A call begins. -/
  | begin (task : Nat) (call : Call)
  /-- The caller of a request is let go. -/
  | relay (id : Nat)
  /-- A call goes on. -/
  | resume (task : Nat)
  /-- The reader goes on. -/
  | read
  /-- Something comes from the server. -/
  | deliver (delivery : Delivery)
  /-- The server goes on by itself. -/
  | serve

/-- Whether it lets the caller of request `id` go. -/
def Ready.isRelay (id : Nat) : Ready → Bool
  | .relay other => other = id
  | _ => false

/-- Whether it lets the server go on. -/
def Ready.isServe : Ready → Bool
  | .serve => true
  | _ => false

/-- A session, the server it talks to and the calls that are open on it. -/
structure Loop (σ : Type) where
  session : Session
  server : σ
  /-- How many of the written messages the server has heard. -/
  heard : Nat := 0
  /-- What is left of this round, … -/
  current : List Ready := []
  /-- … and the next one. -/
  next : List Ready := []
  /-- What becomes ready at times to come. -/
  schedule : Schedule Float Ready := {}
  now : Float := 0.0
  stages : List (Nat × Stage) := []
  /-- The requests with a limit whose callers were let go. -/
  released : List Nat := []
  /-- The calls that wait for the reader to end, in the order in which they began to. -/
  closers : List Nat := []
  finished : List (Nat × Outcome) := []
  /-- How many things may go on, at least, before it counts as one that never comes to rest. -/
  endurance : Nat := 20000

/-- Whether a call at the stage waits for nothing but the stream. -/
def Stage.isForStream : Stage → Bool
  | .writing _ => true
  | .closing .. => true
  | _ => false

/-- Lets a call go on as long as it waits for the stream, at most `fuel` times. -/
def Session.through : Nat → Session × Progress → Session × Progress
  | 0, r => r
  | fuel + 1, r =>
    match r.2 with
    | .finished _ => r
    | .waiting stage => if stage.isForStream then through fuel (r.1.resume stage) else r

namespace Loop

variable {σ : Type}

/-- Makes something ready some time from now. -/
def later (l : Loop σ) (delay : Float) (due : Ready) : Loop σ :=
  { l with schedule := l.schedule.add (l.now + delay) due }

/-- Makes something ready for the next round. -/
def push (l : Loop σ) (r : Ready) : Loop σ := { l with next := l.next ++ [r] }

/-- Takes over what the server does in a turn. -/
def adopt (l : Loop σ) (t : Turn σ) : Loop σ :=
  let l := t.deliveries.foldl (fun l d => l.later d.delay (.deliver d)) { l with server := t.state }
  match t.wake with
  | some time => { l with schedule := (l.schedule.stop Ready.isServe).add time .serve }
  | none => l

/-- Shows the server one message. -/
def hearOne (serve : Server σ) (l : Loop σ) (message : Members) : Loop σ :=
  l.adopt (serve.hear l.server l.now message)

/-- Shows the server what it has not heard yet. -/
def hear (serve : Server σ) (l : Loop σ) : Loop σ :=
  let sent := l.session.transport.wire.sent
  (sent.drop l.heard).foldl (hearOne serve) { l with heard := sent.length }

/-- What becomes ready when the caller of request `id` can go on. -/
def readyFor? (l : Loop σ) (id : Nat) : Option Ready :=
  l.stages.findSome? fun (task, stage) =>
    match stage with
    | .awaiting _ other _ limit =>
      if other = id then some (if limit.isSome then .relay id else .resume task) else none
    | .expiring _ other _ => if other = id then some (.relay id) else none
    | _ => none

/-- Makes ready who is let go on. -/
def lineUp (l : Loop σ) : Wake → Loop σ
  | .caller id => ((l.readyFor? id).map l.push).getD l
  | .reader => l.push .read

/-- Makes ready what the session's operations have let go on. -/
def flush (l : Loop σ) : Loop σ :=
  let l' := l.session.wakes.foldl lineUp l
  { l' with session := { l'.session with wakes := [] } }

/-- The stage of a call. -/
def stage? (l : Loop σ) (task : Nat) : Option Stage :=
  (l.stages.find? fun s => s.1 = task).map (·.2)

/-- Puts a call at a stage. -/
def place (l : Loop σ) (task : Nat) (stage : Stage) : Loop σ :=
  let others := l.stages.filter (·.1 ≠ task)
  { l with stages := others ++ [(task, stage)] }

/-- Ends a call. -/
def finish (l : Loop σ) (task : Nat) (outcome : Outcome) : Loop σ :=
  { l with
    stages := l.stages.filter (·.1 ≠ task)
    finished := l.finished ++ [(task, outcome)] }

/-- Starts the clock of a call that waits with a limit, and lines a call up that waits for the
reader. -/
def arm (l : Loop σ) (task : Nat) : Stage → Loop σ
  | .awaiting _ id _ (some limit) => l.later limit (.relay id)
  | .releasing _ => { l with closers := l.closers ++ [task] }
  | _ => l

/-- Takes over what a call has done, which no more waits for the stream. -/
def record (serve : Server σ) (l : Loop σ) (task : Nat) (r : Session × Progress) : Loop σ :=
  let r := Session.through 3 r
  let l := { l with session := r.1 }
  match r.2 with
  | .finished outcome => ((l.finish task outcome).hear serve).flush
  | .waiting stage => (((l.place task stage).hear serve).arm task stage).flush

/-- Stops the clock of a call. -/
def disarm (l : Loop σ) : Stage → Loop σ
  | .awaiting _ id _ (some _) => { l with schedule := l.schedule.stop (·.isRelay id) }
  | _ => l

/-- The call that waits with a limit for request `id`, or for its end, unless it was let go. -/
def held? (l : Loop σ) (id : Nat) : Option Nat :=
  l.stages.findSome? fun (task, stage) =>
    match stage with
    | .awaiting _ other _ (some _) => if other = id ∧ id ∉ l.released then some task else none
    | .expiring _ other _ => if other = id then some task else none
    | _ => none

/-- Lets the caller of request `id` go, once. -/
def release (l : Loop σ) (id : Nat) : Loop σ :=
  match l.held? id with
  | some task => { l with released := l.released ++ [id] }.push (.resume task)
  | none => l

/-- Something comes from the server. -/
def receive (l : Loop σ) (d : Delivery) : Loop σ :=
  let s := l.session
  let s :=
    match d.breaks with
    | some fault => { s with transport.wire.broken := some fault }
    | none => s
  let s := s.arrive d.octets
  let s := if d.ends then s.finish else s
  let s :=
    match d.fails with
    | some fault => s.failReader fault
    | none => s
  { l with session := s }.flush

/-- Lets one thing go on. -/
def handle (serve : Server σ) (l : Loop σ) : Ready → Loop σ
  | .begin task call => l.record serve task (l.session.begin call)
  | .relay id => l.release id
  | .resume task =>
    match l.stage? task with
    | some stage => (l.disarm stage).record serve task (l.session.resume stage)
    | none => l
  | .read =>
    let l := ({ l with session := l.session.read }.hear serve).flush
    if l.session.reader = .ended then
      l.closers.foldl (fun l task => l.push (.resume task)) { l with closers := [] }
    else l
  | .deliver d => l.receive d
  | .serve => l.adopt (serve.goOn l.server l.now)

/-- Lets the next thing go on, or begins the next round; none when nothing is ready. -/
def tick? (serve : Server σ) (l : Loop σ) : Option (Loop σ) :=
  match l.current with
  | r :: rest => some ({ l with current := rest }.handle serve r)
  | [] =>
    let (due, schedule) := l.schedule.tidy.take (isDueAt l.now)
    match l.next ++ due with
    | [] => none
    | round => some { l with current := round, next := [], schedule }

/-- Moves time to the next timer; none when there is no timer. -/
def jump? (l : Loop σ) : Option (Loop σ) :=
  l.schedule.tidy.next?.map fun deadline => { l with now := deadline }

/-- Lets at most `fuel` things go on. -/
def settle (serve : Server σ) : Nat → Loop σ → Loop σ
  | 0, l => l
  | fuel + 1, l =>
    match l.tick? serve with
    | some l => settle serve fuel l
    | none => l

/-- How many things may go on before nothing is ready: what is there goes through a few rounds, and
a server that reacts to every message may keep the loop going for a while. -/
def budget (l : Loop σ) : Nat :=
  l.endurance +
    32 * (l.current.length + l.next.length + l.schedule.timers.size + l.stages.length +
      l.closers.length)

/-- Lets everything go on that can without time passing. -/
def idle (serve : Server σ) (l : Loop σ) : Loop σ :=
  l.settle serve l.budget

/-- Lets time pass to the next timer that runs out by `target`, as often as there is one. -/
def passTo (serve : Server σ) (target : Float) : Nat → Loop σ → Loop σ
  | 0, l => l
  | fuel + 1, l =>
    match l.schedule.tidy.next? with
    | some deadline =>
      if target < deadline then l
      else passTo serve target fuel ({ l with now := deadline }.idle serve)
    | none => l

/-- Lets `seconds` pass. -/
def advance (serve : Server σ) (l : Loop σ) (seconds : Float) : Loop σ :=
  let target := l.now + seconds
  let l := l.passTo serve target l.budget
  { l with now := target }.idle serve

/-- Begins a call as task `task`, at the end of what is ready, and lets everything go on. -/
def call (serve : Server σ) (l : Loop σ) (task : Nat) (call : Call) : Loop σ :=
  (l.push (.begin task call)).idle serve

/-- Changes the session from outside, and lets everything go on. -/
def affect (serve : Server σ) (l : Loop σ) (f : Session → Session) : Loop σ :=
  ({ l with session := f l.session }.flush).idle serve

/-- Lets at most `fuel` things go on, and time pass where nothing is ready, until call `task` has
finished; none if it has not then, or never does. -/
def await (serve : Server σ) (task fuel : Nat) (l : Loop σ) : Loop σ × Option Outcome :=
  match l.finished.find? fun f => f.1 = task with
  | some (_, outcome) => ({ l with finished := l.finished.filter (·.1 ≠ task) }, some outcome)
  | none =>
    match fuel with
    | 0 => (l, none)
    | fuel + 1 =>
      match l.tick? serve with
      | some l => await serve task fuel l
      | none =>
        match l.jump? with
        | some l => await serve task fuel l
        | none => (l, none)

/-- Makes a call at once and waits for its end. -/
def perform (serve : Server σ) (l : Loop σ) (c : Call) : Loop σ × Option Outcome :=
  let l := l.record serve 0 (l.session.begin c)
  l.await serve 0 l.budget

/-- Waits for the end of call `task` until at most so many rounds have begun. -/
def awaitWithin (serve : Server σ) (task : Nat) : Nat → Loop σ → Loop σ × Option Outcome
  | 0, l => l.await serve task 0
  | rounds + 1, l =>
    match l.await serve task (l.current.length + 1) with
    | (l, none) => awaitWithin serve task rounds l
    | ended => ended

/-- Closes the session at once and waits for the end of that. The reader is told to end and goes on
in the next round at the latest, and the call goes on in the round behind it. -/
def close (serve : Server σ) (l : Loop σ) : Loop σ × Option Outcome :=
  (l.record serve 0 (l.session.begin .close)).awaitWithin serve 0 3

/-- Ends a call that waits for something that never comes, without a word to the server: its request
leaves the table. -/
def abandon (l : Loop σ) (task : Nat) : Loop σ :=
  match l.stage? task with
  | some stage =>
    let l := { l.disarm stage with stages := l.stages.filter (·.1 ≠ task) }
    match stage.id? with
    | some id => { l with session := l.session.forget id }
    | none => l
  | none => l

end Loop

end ProbeBench
