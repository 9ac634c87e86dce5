import ProbeBench.Shell.Command
import ProbeBench.Shell.Copying
import ProbeBench.Shell.Lookup
import ProbeBench.Shell.Token

/-!
# Processes

A `Process` runs a script: it holds what is left to do, the next thing first, what the script knows,
where its streams lead, and what it does about signals. Its `state` says whether it can go on. Here
is what concerns one process alone.

* `tasks_push`: what is pushed comes before everything else.
* `receive_of_ignored`: a signal that is ignored changes nothing.
* `receive_of_exited`: what has exited gets no signal.
-/

namespace ProbeBench.Shell

/-- What a stream of a process leads to. -/
inductive Endpoint where
  /-- What is written to a channel can be read. -/
  | source (channel : Nat)
  /-- What is written can be read from a channel. -/
  | sink (channel : Nat)
  /-- A file that was opened, by the number that it got then. -/
  | file (opening : Nat)
  /-- A folder, which can be neither read nor written. -/
  | folder
  | device (d : Device)
  deriving DecidableEq, Repr

/-- What is written is lost, and nothing can be read. -/
def Endpoint.nowhere : Endpoint := .device .null

/-- The streams of a process by their numbers. -/
abbrev Streams := List (Nat × Endpoint)

/-- What a stream leads to; none if it is closed. -/
def Streams.endpoint? (ss : Streams) (stream : Nat) : Option Endpoint :=
  (ss.find? fun s => s.1 = stream).map (·.2)

/-- Why a tool cannot write to what a stream leads to. -/
def Endpoint.refusal : Endpoint → String
  | .sink _ => "Broken pipe"
  | .device .full => "No space left on device"
  | _ => "Bad file descriptor"

/-- Leads a stream somewhere, or closes it. -/
def Streams.lead (ss : Streams) (stream : Nat) (target : Option Endpoint) : Streams :=
  let others := ss.filter (·.1 ≠ stream)
  match target with
  | some e => (stream, e) :: others
  | none => others

/-- A simple command whose words are known. -/
structure Phrase where
  fields : List (List Char)
  settings : List (List Char × Pieces)
  /-- The settings that have been made. -/
  made : List (List Char × List Char) := []
  /-- The code of the last script inside of it. -/
  code : Nat := 0

/-- What goes on when the output of a script inside of it is known. -/
inductive Pending where
  | command (c : Command)
  /-- A simple command has streams left to be led; those in `led` have been, and `old` are those
  from before. -/
  | phrase (p : Phrase) (left : List (Redirect (List Char))) (led : List Nat) (old : Streams)
  /-- A simple command has settings left to be made. -/
  | settings (p : Phrase) (left : List (List Char × Pieces)) (old : Streams)
  /-- A command has streams left to be led, which are given back unless it is apart. -/
  | body (c : Command) (apart : Bool) (left : List (Redirect (List Char))) (led : List Nat)

/-- Something left to do. -/
inductive Task where
  /-- Runs a command; the outputs of scripts inside its words that are known already, with the codes
  that these ended with. -/
  | run (c : Command) (outputs : List (List Char × Nat))
  /-- Runs the commands of a script one after the other. -/
  | script (script : Script)
  /-- Reads the script from the input, of which a part has been read already. -/
  | input (pending : List Char) (line : Nat)
  /-- The condition of a loop has been run; before it the body had ended with a code. -/
  | test (whileDone : Bool) (condition body : Command) (last : Nat)
  /-- A loop goes round; at first no body has been run. -/
  | round (whileDone : Bool) (condition body : Command) (first : Bool)
  /-- The condition of a choice has been run. -/
  | choose (yes no : Command)
  | join (how : Join) (second : Command)
  | negate
  /-- The body is to be run for the values that are left. -/
  | each (name : List Char) (values : List (List Char)) (body : Command)
  /-- A function ends: the arguments, the place in them and the variables from before the call come
  back. -/
  | leave (arguments : List (List Char)) (place : OptionPlace)
    (values : List Kept)
  /-- A script that was read into this one ends. -/
  | sourced
  /-- Commands are run by what ran them before. -/
  | caller (old : List Char)
  /-- The streams lead to where they led before. -/
  | streams (old : Streams)
  /-- Variables are again what they were before. -/
  | values (old : List Kept)
  /-- From here on a failure ends the script if the option for that is set, or does not. -/
  | lenient (on : Bool)
  /-- A failure may end the script here. -/
  | check
  /-- Reads a line into variables. -/
  | read (raw : Bool) (names : List (List Char))
  /-- Writes the contents of files, and of the input where there is a dash. -/
  | copy (how : Copying) (names : List (List Char)) (failed : Bool)
  /-- Takes the code of the last of some processes when all of them have exited. -/
  | await (numbers : List Nat)
  /-- The same as a command, which a signal interrupts; where all processes are waited for, it ends
  with success. -/
  | wait (numbers : List Nat) (all : Bool)
  /-- Takes what a process writes to a channel, for something to go on. -/
  | gather (channel number : Nat) (text : List Char) (next : Pending)
    (outputs : List (List Char × Nat))
  /-- Goes on with something for which the outputs of scripts inside of it are known. -/
  | resume (next : Pending) (outputs : List (List Char × Nat))
  /-- Does what a tool of the system does. -/
  | job (job : Job)
  /-- The program is there that takes the place of the script. -/
  | become (job : Job)
  /-- The last command ends with this code. -/
  | status (code : Nat)
  /-- Exits with the code of the last command. -/
  | exit
  /-- Exits with a code, without doing anything more. -/
  | finish (code : Nat)

/-- Whether a task stands for a loop that is being run. -/
def Task.isRound : Task → Bool
  | .round .. => true
  | .test .. => true
  | .each .. => true
  | _ => false

/-- Whether a task is the end of a function. -/
def Task.isLeave : Task → Bool
  | .leave .. => true
  | _ => false

/-- Whether a task is the end of a process that has nothing more to do before it. -/
def Task.isFinish : Task → Bool
  | .finish _ => true
  | _ => false

/-- Whether a task is the end of a function or of a script. -/
def Task.isReturn : Task → Bool
  | .leave .. => true
  | .sourced => true
  | _ => false

/-- Whether a task goes on with something that no signal interrupts. -/
def Task.isHolding : Task → Bool
  | .run _ outputs => !outputs.isEmpty
  | .copy .. => true
  | .await _ => true
  | .gather .. => true
  | .resume _ outputs => !outputs.isEmpty
  | _ => false

/-- What a process does about a signal. -/
inductive Trap where
  | ignored
  | handler (script : List Char)
  deriving DecidableEq, Repr

/-- Whether a process can go on. -/
inductive State where
  | busy
  /-- It waits until a channel holds more than something, or is closed. -/
  | reading (channel seen : Nat)
  | asleep (wake : Float)
  /-- It waits until processes have exited. -/
  | awaiting (numbers : List Nat)
  /-- It has exited, with a code below zero if a signal ended it. -/
  | exited (code : Int)

/-- Whether there is something to do at once. -/
def State.isBusy : State → Bool
  | .busy => true
  | _ => false

/-- The code of a process that has exited. -/
def State.code? : State → Option Int
  | .exited code => some code
  | _ => none

/-- A process. -/
structure Process where
  number : Nat
  parent : Nat
  tasks : List Task
  scope : Scope
  functions : List (List Char × Command) := []
  /-- Words that stand for texts at the beginning of a command, the oldest first. -/
  aliases : List (List Char × List Char) := []
  /-- What was started in the background: the numbers of the jobs and of their processes, the latest
  first. -/
  jobs : List (Nat × Nat) := []
  /-- The numbers of the processes among them that were waited for. -/
  waited : List Nat := []
  /-- The numbers of those that it has seen exit. -/
  seen : List Nat := []
  streams : Streams
  traps : List (Nat × Trap) := []
  /-- Signals that came and for which a handler is to be run. -/
  pending : List Nat := []
  /-- A failure does not end the script, even if the option for that is set. -/
  lenient : Bool := false
  /-- How many functions were being run where it was started. -/
  depth : Nat := 0
  /-- How many loops were being run there, in the same function. -/
  rounds : Nat := 0
  /-- The signals for which there were handlers where it was started, as long as it has done
  nothing. They get lost. -/
  unheard : List Nat := []
  /-- It was started for one command, and does nothing after it. -/
  branch : Bool := false
  state : State := .busy

namespace Process

/-- Whether the process still exists. -/
def isLive (p : Process) : Bool := p.state.code?.isNone

/-- How many functions are being run. -/
def calls (p : Process) : Nat :=
  p.depth + p.tasks.countP Task.isLeave

/-- Puts something to do in front. -/
def push (p : Process) (tasks : List Task) : Process := { p with tasks := tasks ++ p.tasks }

/-- Sets the code that a command ends with. -/
def ended (p : Process) (status : Nat) : Process := { p with scope.status := status }

/-- Sets a variable. -/
def set (p : Process) (name value : List Char) : Process :=
  { p with scope := p.scope.set name value }

/-- Whether nothing is left to do but to end as the command does that is being run, in a process
that was started for it. -/
def isLast (p : Process) : Bool :=
  p.branch && p.traps.all (fun t => t.2 = .ignored) &&
    p.tasks.all fun | .check => true | _ => false

/-- What the process does about a signal that it does not leave alone. -/
def trap? (p : Process) (signal : Nat) : Option Trap :=
  (p.traps.find? fun t => t.1 = signal).map (·.2)

/-- Says what to do about a signal. -/
def setTrap (p : Process) (signal : Nat) (trap : Option Trap) : Process :=
  let others := p.traps.filter (·.1 ≠ signal)
  { p with
    traps :=
      match trap with
      | some t => others ++ [(signal, t)]
      | none => others }

/-- What a process that is started does about signals: it ignores those that are ignored. -/
def inherited (traps : List (Nat × Trap)) : List (Nat × Trap) :=
  traps.filter fun t => t.2 = .ignored

/-- Has exited, with nothing left to do. -/
def finish (p : Process) (code : Int) : Process :=
  { p with tasks := [], pending := [], state := .exited code }

/-- What the outermost command that is being run has changed about streams and arguments is undone;
variables keep their values. -/
def outermost (p : Process) : Process :=
  p.tasks.foldl
    (fun p t =>
      match t with
      | .streams old => { p with streams := old }
      | .leave arguments _ _ => { p with scope.arguments := arguments }
      | _ => p)
    p

/-- Exits with a code, of which the lowest octet counts; what was said to be done then comes before
it. -/
def exit (p : Process) (code : Nat) : Process :=
  match p.trap? 0 with
  | some (.handler script) =>
    let p := (p.outermost.setTrap 0 none).ended code
    { p with tasks := [.script (.ofText 1 script), .finish code], lenient := false }
  | _ => p.finish (code % 256 : Nat)

theorem tasks_push (p : Process) (tasks : List Task) :
    (p.push tasks).tasks = tasks ++ p.tasks := rfl

/-- Does something first in which a failure may end the script, also where it is done as a
condition. -/
def strictly (p : Process) (tasks : List Task) : Process :=
  { p.push (tasks ++ [.lenient p.lenient]) with lenient := false }

/-! ## Leaving what was begun -/

/-- Variables are again what they were; a dash stands for the options. -/
def restore (p : Process) (old : List Kept) : Process :=
  let back (s : Scope) (v : Kept) : Scope :=
    if v.name = ['-'] then { s with options := v.value.getD [] } else s.giveBack v
  { p with scope := old.foldl back p.scope }

/-- Does a task that has to be done also when what comes before it is left out. -/
def tidyUp (p : Process) : Task → Process
  | .streams old => { p with streams := old }
  | .values old => p.restore old
  | .leave arguments place values =>
    let p := p.restore values
    { p with scope := { p.scope with arguments, optionPlace := place } }
  | .lenient on => { p with lenient := on }
  | .caller old => { p with scope.caller := old }
  | _ => p

/-- Leaves out what is left to do up to a task. -/
def unwind (stop : Task → Bool) (p : Process) : List Task → Process
  | [] => { p with tasks := [] }
  | t :: rest =>
    if stop t then { p with tasks := t :: rest } else unwind stop (p.tidyUp t) rest

/-- The number of loops whose bodies are being run, in the function that is being run; those in
which the process was started count as well. -/
def loops (p : Process) : Nat :=
  (p.tasks.takeWhile fun t => !t.isLeave).countP Task.isRound +
    if p.tasks.any Task.isLeave then 0 else p.rounds

/-- Leaves the bodies of loops: of `n - 1` loops all that is left, and of the next outer one this
round. Of a loop in which the process was started, all is left. -/
def leaveLoops (p : Process) : Nat → Process
  | 0 => p
  | 1 => p.unwind Task.isRound p.tasks
  | n + 1 =>
    let p := p.unwind Task.isRound p.tasks
    { p with tasks := p.tasks.drop 1 }.leaveLoops n

/-- Leaves the function or the script that is being run. What is done at the end of a process does
not change the code with which that exits. -/
def leaveFunction (p : Process) : Process :=
  if p.tasks.any Task.isReturn then p.unwind Task.isReturn p.tasks
  else if p.tasks.any Task.isFinish then p.unwind Task.isFinish p.tasks
  else { p.unwind (fun _ => false) p.tasks with tasks := [.exit] }

/-! ## Signals -/

/-- The signals that end nothing. -/
def harmless : List Nat := [17, 18, 19, 20, 21, 22, 23, 28]

/-- A signal for which a handler is to be run reaches the process; it interrupts reading a line and
waiting. -/
def interrupted (p : Process) (signal : Nat) : Process :=
  let p := if p.pending.contains signal then p else { p with pending := p.pending ++ [signal] }
  match p.tasks with
  | .read .. :: rest => { p with tasks := .status 1 :: rest, state := .busy }
  | .wait .. :: rest => { p with tasks := .status (128 + signal) :: rest, state := .busy }
  | _ => p

/-- A signal reaches the process. -/
def receive (p : Process) (signal : Nat) : Process :=
  if !p.isLive || signal = 0 then p
  else if signal = 9 then p.finish (-9)
  else if p.unheard.contains signal then p
  else
    match p.trap? signal with
    | some .ignored => p
    | some (.handler _) => p.interrupted signal
    | none => if harmless.contains signal then p else p.finish (-(signal : Int))

/-- Begins to run the handlers of signals that came, unless something is being done that no signal
interrupts. The code of the last command stays. -/
def handled (p : Process) : Process :=
  match p.pending with
  | [] => p
  | signal :: rest =>
    if (p.tasks.head?.map Task.isHolding).getD false then p
    else
      match p.trap? signal with
      | some (.handler script) =>
        let tasks := [.script (.ofText 1 script), .status p.scope.status]
        { p.strictly tasks with pending := rest }
      | _ => { p with pending := rest }

theorem receive_of_ignored (p : Process) {signal : Nat} (h : p.trap? signal = some .ignored)
    (hs : signal ≠ 9) : p.receive signal = p := by
  simp [receive, h, hs]

theorem receive_of_exited (p : Process) (signal : Nat) {code : Int}
    (h : p.state = .exited code) : p.receive signal = p := by
  simp [receive, isLive, State.code?, h]

end Process

end ProbeBench.Shell
