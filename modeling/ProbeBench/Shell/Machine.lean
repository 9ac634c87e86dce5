import ProbeBench.Shell.Expansion
import ProbeBench.Shell.Process

/-!
# Machines

A `Machine` is a process together with the others that it has to do with, the channels between them,
the files that they see and have opened, and the time. Channel 0 is the input from outside, and what
goes to channel 1 gets outside. A channel is closed when nobody is left who could write to it, and
deaf when nobody is left who could read it.

* `written_put`: what is written to channel 1 is kept.
* `isLive_fork`: a process that is started exists.
-/

namespace ProbeBench.Shell

/-- What was written and not yet read. -/
structure Channel where
  /-- What was there when somebody looked last. -/
  front : List Char := []
  /-- What was written since then, last first. -/
  back : List (List Char) := []
  /-- More may come from outside. -/
  fed : Bool := false

/-- All that a channel holds. -/
def Channel.content (c : Channel) : List Char :=
  if c.back.isEmpty then c.front else c.front ++ c.back.reverse.flatten

/-- The channel of the input from outside. -/
def outerInput : Nat := 0

/-- The channel to the outside. -/
def outerOutput : Nat := 1

/-- A file that was opened. -/
structure Opening where
  names : List String
  /-- How many octets stand in front of what is read or written next. -/
  place : Nat := 0
  reads : Bool := false
  writes : Bool := false
  /-- What is written gets to the end. -/
  atEnd : Bool := false

/-- Processes that run together. -/
structure Machine where
  /-- The process whose turn it is. -/
  process : Process
  /-- The others, the one whose turn comes next first. -/
  others : List Process := []
  channels : List (Nat × Channel)
  /-- The files that were opened, by numbers. -/
  openings : List (Nat × Opening) := []
  files : FileTree
  now : Float := 0.0
  /-- What got outside, last first. -/
  written : List (List Char) := []
  /-- When the last of it was written nobody was left who could read the input from outside. -/
  wasDeaf : Bool := false
  /-- A number that no process, no channel and no opening has. -/
  fresh : Nat

namespace Machine

/-- Changes the process whose turn it is. -/
def on (m : Machine) (f : Process → Process) : Machine := { m with process := f m.process }

/-- Puts something to do in front. -/
def push (m : Machine) (tasks : List Task) : Machine := m.on (·.push tasks)

/-- Sets the code that a command ends with. -/
def ended (m : Machine) (status : Nat) : Machine := m.on (·.ended status)

/-- Ends a command with success or without. -/
def answer (m : Machine) (success : Bool) : Machine := m.ended (if success then 0 else 1)

/-- The code of the last command. -/
def status (m : Machine) : Nat := m.process.scope.status

/-- What the script knows. -/
def scope (m : Machine) : Scope := m.process.scope

/-- Changes what the script knows. -/
def withScope (m : Machine) (s : Scope) : Machine := m.on fun p => { p with scope := s }

/-- All processes. -/
def processes (m : Machine) : List Process := m.process :: m.others

/-- The process with a number. -/
def find? (m : Machine) (number : Nat) : Option Process :=
  m.processes.find? fun p => p.number = number

/-- Changes the process with a number. -/
def onNumber (m : Machine) (number : Nat) (f : Process → Process) : Machine :=
  let change (p : Process) : Process := if p.number = number then f p else p
  { m with process := change m.process, others := m.others.map change }

/-- Forgets processes that have exited. -/
def forget (m : Machine) (numbers : List Nat) : Machine :=
  { m with others := m.others.filter fun p => p.isLive || !numbers.contains p.number }

/-! ## Channels -/

/-- What a channel holds. -/
def content (m : Machine) (channel : Nat) : List Char :=
  ((m.channels.find? fun c => c.1 = channel).map (·.2.content)).getD []

/-- Whether a channel does not hold exactly so many characters. -/
def holdsOther (m : Machine) (channel count : Nat) : Bool :=
  match m.channels.find? fun c => c.1 = channel with
  | some (_, c) => !c.back.isEmpty || c.front.length ≠ count
  | none => count ≠ 0

/-- Whether more may come from outside. -/
def isFed (m : Machine) (channel : Nat) : Bool :=
  ((m.channels.find? fun c => c.1 = channel).map (·.2.fed)).getD false

/-- Changes a channel. -/
def onChannel (m : Machine) (channel : Nat) (f : Channel → Channel) : Machine :=
  { m with channels := m.channels.map fun c => if c.1 = channel then (channel, f c.2) else c }

/-- Sets what a channel holds. -/
def leave (m : Machine) (channel : Nat) (content : List Char) : Machine :=
  m.onChannel channel fun c => { c with front := content, back := [] }

/-- Whether a process has a stream that leads somewhere, or will have it again. -/
def holds (p : Process) (e : Endpoint) : Bool :=
  p.isLive &&
    (p.streams.any (fun s => s.2 = e) ||
      p.tasks.any fun
        | .streams old => old.any fun s => s.2 = e
        | .gather channel .. => e = .source channel
        | _ => false)

/-- Whether nothing more can be written to a channel. -/
def isClosed (m : Machine) (channel : Nat) : Bool :=
  !m.isFed channel && !m.processes.any fun p => holds p (.sink channel)

/-- Whether nobody is left who could read a channel. -/
def isDeaf (m : Machine) (channel : Nat) : Bool :=
  channel ≠ outerOutput && !m.processes.any fun p => holds p (.source channel)

/-- Puts text into a channel. -/
def put (m : Machine) (channel : Nat) (cs : List Char) : Machine :=
  if channel = outerOutput then
    if cs.isEmpty then m
    else { m with written := cs :: m.written, wasDeaf := m.isDeaf outerInput }
  else m.onChannel channel fun c => { c with back := cs :: c.back }

/-- A new channel that holds a text. -/
def channel (m : Machine) (content : List Char) : Nat × Machine :=
  let c : Channel := { front := content }
  (m.fresh, { m with channels := (m.fresh, c) :: m.channels, fresh := m.fresh + 1 })

/-- Forgets channels and openings that nobody has. -/
def tidy (m : Machine) : Machine :=
  { m with
    channels := m.channels.filter fun c =>
      c.1 ≤ outerOutput || !m.isDeaf c.1 || !m.isClosed c.1
    openings := m.openings.filter fun o => m.processes.any fun p => holds p (.file o.1) }

theorem written_put (m : Machine) (c : Char) (cs : List Char) :
    (m.put outerOutput (c :: cs)).written = (c :: cs) :: m.written := rfl

/-! ## More processes -/

/-- Exits with a code. -/
def exit (m : Machine) (code : Nat) : Machine := m.on (·.exit code)


/-- Takes the first number that no job has; one that was waited for gives its number away. -/
def freeJob (m : Machine) : Nat × Machine :=
  let p := m.process
  let isFree (n : Nat) : Bool := !p.jobs.any fun j => j.1 = n + 1 && !p.waited.contains j.2
  let job := ((List.range (p.jobs.length + 1)).find? isFree).getD 0 + 1
  match p.jobs.find? fun j => j.1 = job with
  | none => (job, m)
  | some (_, number) =>
    let m := m.forget [number]
    (job, m.on fun p =>
      { p with
        jobs := p.jobs.filter (·.1 ≠ job)
        waited := p.waited.filter (· ≠ number) })

/-- Starts a process that knows what this one knows, to do something. It runs no handlers. -/
def fork (m : Machine) (streams : Streams) (tasks : List Task) : Nat × Machine :=
  let m := m.freeJob.2
  let p := m.process
  let child : Process :=
    { p with
      number := m.fresh
      parent := p.number
      tasks
      streams
      traps := Process.inherited p.traps
      jobs := []
      waited := []
      seen := []
      pending := []
      depth := p.calls
      rounds := p.loops
      branch := true
      unheard := p.traps.filterMap fun t => if t.2 = .ignored then none else some t.1
      state := .busy }
  (m.fresh, { m with others := m.others ++ [child], fresh := m.fresh + 1 })

/-- Whether none of some processes is left. -/
def areOver (m : Machine) (numbers : List Nat) : Bool :=
  numbers.all fun n => ((m.find? n).map fun p => !p.isLive).getD true

/-- The code with which a process has exited, as a script sees it; that of one that is not known is
127. -/
def codeOf (m : Machine) (number : Nat) : Nat :=
  match (m.find? number).bind (·.state.code?) with
  | some code => if code < 0 then 128 + code.natAbs else code.toNat
  | none => 127

/-- Waits until processes have exited, and then does a task. -/
def awaitExit (m : Machine) (numbers : List Nat) (t : Task) : Machine :=
  m.on fun p => { p.push [t] with state := .awaiting numbers }

theorem isLive_fork (m : Machine) (streams : Streams) (tasks : List Task) :
    ∃ p ∈ (m.fork streams tasks).2.others, p.number = (m.fork streams tasks).1 ∧ p.isLive :=
  ⟨_, List.mem_append_right _ (List.mem_singleton.2 rfl), rfl, rfl⟩

end Machine

end ProbeBench.Shell
