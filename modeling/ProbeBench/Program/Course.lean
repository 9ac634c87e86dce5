import ProbeBench.Frame.Encoding
import ProbeBench.Program.Child
import ProbeBench.Program.Launch
import ProbeBench.Server

/-!
# Programs as children and as servers

A program that runs writes text at times, closes its output at some time, and exits at some time.
`Course.follow` goes along with a program through its sleeps. From its course a program is a
`Child`, with what it does about a signal, and a `Server`, which gets every message as a frame on
its input.

* `hear_of_closed`: a program whose output is closed hears nothing any more.
-/

namespace ProbeBench.Program

open Shell (Machine)
open Shell.Machine (startup)

/-- A program with what has become of it. -/
structure Course where
  machine : Machine
  /-- When it exited, and with which code. -/
  exit? : Option (Float × Int) := none
  /-- When its output was closed. -/
  closing? : Option Float := none
  /-- When nobody was left who had its streams. -/
  settling? : Option Float := none

/-- Notes what has become of the program. -/
def Course.noted (c : Course) : Course :=
  let exit? := c.exit?.or (c.machine.code?.map fun code => (c.machine.now, code))
  let time? (b : Bool) : Option Float := if b then some c.machine.now else none
  { c with
    exit?
    closing? := c.closing?.or (time? (c.machine.isClosed Shell.outerOutput))
    settling? := c.settling?.or (time? c.machine.isSettled) }

/-- The steps that a program can always make when it has slept. -/
def leastSteps : Nat := 5000

/-- Goes along with a program until it waits for input, or nothing of it is left, or it would sleep
to a time that is not `within` reach, for at most `fuel` sleeps and about as many steps as are
given. -/
def Course.followFor (within : Float → Bool) : Nat → Nat → Course → Course
  | 0, _, c => c
  | fuel + 1, steps, c =>
    let (machine, steps) := c.machine.run steps
    let c := { c with machine }.noted
    match c.machine.nextWake? with
    | some t =>
      if within t then
        followFor within fuel (max steps leastSteps) { c with machine := c.machine.wakeAt t }
      else c
    | none => c

/-- The most sleeps of a program that is followed. -/
def maxSleeps : Nat := 2000

/-- The most steps of a program that does not sleep; one that makes more counts as one that never
ends. -/
def endurance : Nat := 1000000

/-- Goes along with a program until it waits for input, or nothing of it is left, or it would sleep
to a time that is not within reach. -/
def follow (m : Machine) (within : Float → Bool) : Course :=
  ({ machine := m } : Course).followFor within maxSleeps endurance

/-- Goes along with a program as far as it gets with the input that it has. -/
def course (m : Machine) : Course := follow m fun _ => true

/-- All that the program has written. -/
def Course.output (c : Course) : List UInt8 :=
  Shell.octetsOf c.machine.written.reverse.flatten

/-! ## As a child -/

/-- A program at a later time. -/
def atTime (m : Machine) (t : Float) : Machine :=
  let c := follow m fun wake => !decide (t < wake)
  c.machine.wakeAt (max c.machine.now t)

/-- A program that is asked at time `t` to terminate. -/
def ask (m : Machine) (t : Float) : Machine := (atTime m t).terminate

/-- How a program reacts to being asked at time `t` to terminate. One that has not yet started is
ended by that. -/
def reaction (m : Machine) (t : Float) : Reaction Float :=
  if t < startup then .ends 0.0
  else
    match (course (ask m t)).exit? with
    | some (moment, code) => .exits (moment - t) code
    | none => .ignores

/-- What is left of a program as a child at time `t`, which is asked to terminate later, if ever. -/
def child (m : Machine) (c : Course) (t later : Float) : Child Float :=
  let exit := c.exit?.map fun e => (e.1 + startup, e.2)
  { exited := (exit.filter fun e => !decide (t < e.1)).map (·.2)
    exits := exit.map fun e => e.1 - t
    exitCode := (exit.map (·.2)).getD 0
    onTerminate := reaction m later
    onKill := .ends 0.0 }

/-- How long a child may take to exit, by itself or when it is asked to, in seconds. -/
def exitGrace : Float := 2.0

/-- What is done with a child before it is left, in this order. -/
structure Errand where
  /-- What is written to it; then its input ends. -/
  write : Option (List UInt8)
  /-- Its output is read to the end, as a text. -/
  reads : Bool
  /-- Its exit is waited for. -/
  waits : Bool
  /-- The errand is given up at its end. -/
  fails : Bool

/-- Why an errand is given up. -/
inductive Errand.Trouble where
  /-- The output is no text. -/
  | undecodable (fault : Text.Utf8.Fault)
  /-- It was meant to be. -/
  | meant
  deriving DecidableEq, Repr

/-- What an errand leaves behind. -/
structure Errand.Result where
  /-- What was read. -/
  output : Option (List Char)
  /-- Why it was given up; none if it was not, or the child never exits. -/
  trouble : Option Errand.Trouble
  /-- The child's exit code; none if it never exits. -/
  code : Option Int

/-- What an errand reads from a program whose output ends, unless it is no text. -/
def Errand.text (e : Errand) (c : Course) : Except Text.Utf8.Fault (Option (List Char)) :=
  if e.reads && c.closing?.isSome then (Text.Utf8.decode c.output).map some else .ok none

/-- When everything of an errand is done with a program, beside leaving it; none if that is never.
An exit that is waited for counts only when nobody is left who has the streams of the program. -/
def Errand.end? (e : Errand) (c : Course) : Option Float := do
  let reading ← if e.reads then c.closing?.map (· + startup) else some 0.0
  if !e.waits then return reading
  let (moment, _) ← c.exit?
  if moment + startup ≤ reading then return reading
  return max reading ((← c.settling?) + startup)

/-- Whether a program that is asked at time `t` to terminate, and then killed, leaves nobody behind
who has its streams for ever. -/
def settles (m : Machine) (t : Float) : Bool :=
  let killed := (atTime (ask m t) (t + exitGrace)).destroy
  (course killed).settling?.isSome

/-- Leaves a program when everything of an errand is done with it, and ends it; none if it is never
left. -/
def Errand.leave (e : Errand) (grace : Float) (m : Machine) (c : Course)
    (outcome : Except Errand.Trouble Unit) : Option (Leaving Float Errand.Trouble Unit) := do
  let t ← e.end? c
  let later := if outcome.isOk && 0.0 < grace then t + grace else t
  let l := (child m c t later).leave isDueAt outcome grace exitGrace
  if l.stopping.signals.contains .kill && !settles m later then none else some l

/-- Runs an errand with a program. Where the output is no text the errand is given up at once. -/
def Errand.run (e : Errand) (grace : Float) (m : Machine) : Errand.Result :=
  let m :=
    match e.write with
    | some octets => (m.hear (Shell.letters octets)).endInput
    | none => m
  let c := course m
  let (output, leaving) :=
    match e.text c with
    | .ok output =>
      (output, e.leave grace m c (if e.fails then .error .meant else .ok ()))
    | .error fault =>
      (none, { e with waits := false }.leave grace m c (.error (.undecodable fault)))
  { output
    trouble := leaving.bind fun l =>
      match l.outcome with
      | some (.error trouble) => some trouble
      | _ => none
    code := leaving.bind (·.stopping.code) }

/-! ## As a server -/

/-- How much later it shows, in seconds, that a program has closed a stream than what it wrote
before: after that a client still gets to write what it writes at once. -/
def closingDelay : Float := startup / 4.0

/-- What a client's write meets when nobody is left who reads the program's input. -/
def deafness : StreamFault := ⟨.connectionReset, "Connection lost"⟩

/-- What a program has sent in a turn: all that it wrote, and later that it has closed a stream.
That its input is closed shows at once if it was closed when the last was written. -/
def sent (before : Machine) (c : Course) : List Delivery :=
  let m := c.machine
  let ends := c.closing?.isSome
  let deaf := !before.isDeaf Shell.outerInput && m.isDeaf Shell.outerInput
  let words : Delivery :=
    { octets := c.output, breaks := if deaf && m.wasDeaf then some deafness else none }
  let closing : Delivery :=
    { delay := closingDelay, ends, breaks := if deaf then some deafness else none }
  (if m.written.isEmpty then [] else [words]) ++ (if ends || deaf then [closing] else [])

/-- A program as a server: it hears what its input gets, and goes on at once and whenever it wakes,
until its output is closed. -/
def server : Server Machine where
  hear m now message :=
    if m.isClosed Shell.outerOutput then { state := m }
    else { state := m.hear (Shell.letters (Frame.encode message)), wake := some now }
  goOn m now :=
    let c := follow (m.wakeAt now) (isDueAt now)
    { state := { c.machine with written := [] }
      deliveries := sent m c
      wake := if c.closing?.isSome then none else c.machine.nextWake? }

theorem hear_of_closed (m : Machine) (now : Float) (message : Members)
    (h : m.isClosed Shell.outerOutput = true) : server.hear m now message = { state := m } := by
  simp [server, h]

end ProbeBench.Program
