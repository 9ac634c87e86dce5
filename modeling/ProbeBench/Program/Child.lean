import ProbeBench.Schedule

/-!
# Ending a child process

A child may exit by itself at some time, and reacts to each of two signals by exiting some time
later, or not at all. `Child.stop` ends one: it waits for a grace period, asks it to terminate, and
kills it if it is still there after another period. What it did is a `Stopping`. `Child.leave` ends
the child of a block and then passes on what the block came to. Times count from the moment when
that begins.

A `Watch` is a child on the way there, with the exits to come and the end of the period on one
schedule. What is due at a time happens at once, in the order of the schedule: an exit that comes
before the end of the period is in time, even if both are due together. Times can be of any ordered
type with a sum; `Due` says when a deadline is due.

* `stop_of_exited`: a child that has exited gets no signal.
-/

namespace ProbeBench

/-- A signal. -/
inductive Signal where
  | terminate
  | kill
  deriving DecidableEq, Repr

/-- The name of a signal. -/
def Signal.name : Signal → String
  | .terminate => "terminate"
  | .kill => "kill"

/-- The exit code of a child that a signal has ended. -/
def Signal.code : Signal → Int
  | .terminate => -15
  | .kill => -9

/-- What a child does about a signal. -/
inductive Reaction (τ : Type) where
  /-- The signal ends it, some time later. -/
  | ends (delay : τ)
  /-- It has exited by itself at that moment. -/
  | gone
  /-- It exits by itself some time later, with a code of its own. -/
  | exits (delay : τ) (code : Int)
  | ignores

/-- A child process. -/
structure Child (τ : Type) where
  /-- The code with which it has exited already. -/
  exited : Option Int := none
  /-- When it exits by itself, if it has not yet. -/
  exits : Option τ := none
  /-- The code with which it exits by itself. -/
  exitCode : Int := 0
  onTerminate : Reaction τ := .ignores
  onKill : Reaction τ := .ignores

/-- What a child does about a signal. -/
def Child.on {τ : Type} (c : Child τ) : Signal → Reaction τ
  | .terminate => c.onTerminate
  | .kill => c.onKill

/-- A signal that was sent. -/
structure Sending (τ : Type) where
  signal : Signal
  time : τ

/-- How a child was ended. -/
structure Stopping (τ : Type) where
  /-- Its exit code; none if it never exits. -/
  code : Option Int
  /-- What was sent to it, in order. -/
  sent : List (Sending τ)
  /-- When it was over, or the last thing happened. -/
  elapsed : τ

/-- The signals sent, in order. -/
def Stopping.signals {τ : Type} (s : Stopping τ) : List Signal := s.sent.map (·.signal)

/-- How a block that has a child was left. -/
structure Leaving (τ ε α : Type) where
  /-- What the block came to, passed on; none if it is never left. -/
  outcome : Option (Except ε α)
  stopping : Stopping τ

/-- Whether a deadline is due at a time. -/
abbrev Due (τ : Type) := (now deadline : τ) → Bool

/-- What is to come while a child is ended. -/
inductive Event where
  | exit (code : Int)
  /-- The end of a period of waiting. -/
  | periodEnd
  deriving DecidableEq, Repr

/-- A child on the way to its end. -/
structure Watch (τ : Type) where
  child : Child τ
  now : τ
  schedule : Schedule τ Event := {}
  /-- The code with which it has exited. -/
  code : Option Int := none
  /-- What was sent to it, in order. -/
  sent : List (Sending τ) := []

namespace Watch

variable {τ : Type}

/-- What became of the child. -/
def stopping (w : Watch τ) : Stopping τ := ⟨w.code, w.sent, w.now⟩

/-- The child exits, unless it has. -/
def exit (w : Watch τ) (code : Int) : Watch τ := { w with code := w.code.or (some code) }

/-- What happens at one time happens, in order. Says whether a period ended before the child had
exited. -/
def happen (w : Watch τ) : List Event → Watch τ × Bool
  | [] => (w, false)
  | .exit code :: rest => (w.exit code).happen rest
  | .periodEnd :: rest =>
    let r := w.happen rest
    (r.1, w.code.isNone || r.2)

variable [LT τ] [DecidableLT τ]

/-- Lets time pass to a deadline; what is due then happens. Says whether a period ended before the
child had exited. -/
def passTo (due : Due τ) (w : Watch τ) (deadline : τ) : Watch τ × Bool :=
  let now := if w.now < deadline then deadline else w.now
  let (events, schedule) := w.schedule.take (due now)
  ({ w with now, schedule }).happen events

/-- Lets time pass to the next deadline at most `n` times, until the child has exited or a period
has ended. Says whether a period ended first. -/
def waitFor (due : Due τ) : Nat → Watch τ → Watch τ × Bool
  | 0, w => (w, false)
  | n + 1, w =>
    match w.code, w.schedule.next? with
    | none, some deadline =>
      let r := w.passTo due deadline
      if r.2 then r else r.1.waitFor due n
    | _, _ => (w, false)

/-- Waits until the child has exited or a period has ended. Says whether a period ended first. -/
def wait (due : Due τ) (w : Watch τ) : Watch τ × Bool :=
  w.waitFor due w.schedule.timers.size

/-- Waits until the child has exited, up to a deadline at most. Says whether the deadline came
first. -/
def waitUntil (due : Due τ) (deadline : τ) (w : Watch τ) : Watch τ × Bool :=
  { w with schedule := w.schedule.add deadline .periodEnd }.wait due

variable [Add τ]

/-- Something is to come some time from now. -/
def plan (w : Watch τ) (delay : τ) (e : Event) : Watch τ :=
  { w with schedule := w.schedule.add (w.now + delay) e }

/-- The child does about a signal what it does. -/
def react (w : Watch τ) (s : Signal) : Watch τ :=
  match w.child.on s with
  | .ends delay => w.plan delay (.exit s.code)
  | .gone => w.exit w.child.exitCode
  | .exits delay code => w.plan delay (.exit code)
  | .ignores => w

/-- Sends the child a signal. -/
def send (w : Watch τ) (s : Signal) : Watch τ :=
  let w : Watch τ := { w with sent := w.sent ++ [⟨s, w.now⟩] }
  w.react s

/-- Asks the child to terminate, and kills it if it does not within `patience`. -/
def finish (due : Due τ) (patience : τ) (w : Watch τ) : Watch τ :=
  let r := (w.send .terminate).waitUntil due (w.now + patience)
  if r.2 then ((r.1.send .kill).wait due).1 else r.1

end Watch

namespace Child

variable {τ : Type} [LT τ] [DecidableLT τ] [Add τ] [OfNat τ 0]

/-- A child of which nothing has happened yet. -/
def watch (c : Child τ) : Watch τ :=
  { child := c
    now := 0
    schedule := c.exits.elim {} fun time => Schedule.add {} time (.exit c.exitCode) }

/-- Ends the child: waits for it as long as `grace`, then asks it to terminate. -/
def stop (c : Child τ) (due : Due τ) (grace patience : τ) : Stopping τ :=
  match c.exited with
  | some code => ⟨some code, [], 0⟩
  | none =>
    if 0 < grace then
      let r := c.watch.waitUntil due grace
      if r.2 then (r.1.finish due patience).stopping else r.1.stopping
    else (c.watch.finish due patience).stopping

/-- The grace for the child of a block that came to an outcome: none if the block failed. -/
def graceAfter {ε α : Type} (outcome : Except ε α) (grace : τ) : τ :=
  match outcome with
  | .ok _ => grace
  | .error _ => 0

/-- Leaves a block that came to an outcome: ends the child, and then passes on the outcome. -/
def leave {ε α : Type} (c : Child τ) (due : Due τ) (outcome : Except ε α) (grace patience : τ) :
    Leaving τ ε α :=
  let stopping := c.stop due (graceAfter outcome grace) patience
  { outcome := stopping.code.map fun _ => outcome, stopping }

theorem stop_of_exited (c : Child τ) {code : Int} (due : Due τ) (grace patience : τ)
    (h : c.exited = some code) : c.stop due grace patience = ⟨some code, [], 0⟩ := by
  unfold stop
  rw [h]

end Child

end ProbeBench
