import ProbeBench.Shell.Flag
import ProbeBench.Shell.Stream

/-!
# Signals and jobs of a shell script

A script sends signals to processes, says what to do about those that it gets, and waits for the
processes that it has started in the background, which have the numbers of jobs.

* `signalOf?_exit`: a script that ends counts as a signal.
-/

namespace ProbeBench.Shell

/-! ## Names -/

/-- The names of the signals that have a meaning, by their numbers; the first is the end of the
script. -/
def signalWords : List String :=
  ["EXIT", "HUP", "INT", "QUIT", "ILL", "TRAP", "ABRT", "BUS", "FPE", "KILL", "USR1", "SEGV",
    "USR2", "PIPE", "ALRM", "TERM", "16", "CHLD", "CONT", "STOP", "TSTP", "TTIN", "TTOU",
    "URG", "XCPU", "XFSZ", "VTALRM", "PROF", "WINCH", "IO", "PWR", "SYS"]

/-- The names of all signals, by their numbers. -/
def signalNames : List String :=
  signalWords ++ ["32", "33", "RTMIN"] ++
    (List.range 15).map (fun n => "RTMIN+" ++ toString (n + 1)) ++
    (List.range 14).map (fun n => "RTMAX-" ++ toString (14 - n)) ++ ["RTMAX"]

/-- The number of a signal, written as a number or as a name. -/
def signalOf? (cs : List Char) : Option Nat :=
  if isNumeral cs then (some (digitsOf cs)).filter (· < signalNames.length)
  else signalNames.idxOf? (String.ofList (cs.map Char.toUpper))

/-- The name of a signal. -/
def signalName (number : Nat) : String := (signalNames[number]?).getD ""

/-- What is said about a process that a signal has ended; nothing about those that people send from
their keyboard, and those that come where nobody reads. -/
def obituary : Nat → String
  | 1 => "Hangup"
  | 3 => "Quit"
  | 4 => "Illegal instruction"
  | 5 => "Trace/breakpoint trap"
  | 6 => "Aborted"
  | 7 => "Bus error"
  | 8 => "Floating point exception"
  | 9 => "Killed"
  | 10 => "User defined signal 1"
  | 11 => "Segmentation fault"
  | 12 => "User defined signal 2"
  | 14 => "Alarm clock"
  | 15 => "Terminated"
  | 16 => "Stack fault"
  | 24 => "CPU time limit exceeded"
  | 25 => "File size limit exceeded"
  | 26 => "Virtual timer expired"
  | 27 => "Profiling timer expired"
  | 29 => "I/O possible"
  | 30 => "Power failure"
  | 31 => "Bad system call"
  | _ => ""

theorem signalOf?_exit : signalOf? "exit".toList = some 0 := by decide +kernel

/-- A text in quotes, of which at most `fuel` parts are written: quotes inside it stand between
double quotes. -/
def quotedWith : Nat → List Char → List Char
  | 0, _ => []
  | fuel + 1, cs =>
    let (plain, rest) := cs.span (· ≠ '\x27')
    let (quotes, rest) := rest.span (· = '\x27')
    let front := '\x27' :: plain ++ ['\x27']
    if quotes.isEmpty then front
    else front ++ '"' :: quotes ++ '"' :: (if rest.isEmpty then [] else quotedWith fuel rest)

/-- A text in quotes, as a script can write it. -/
def quoted (cs : List Char) : List Char := quotedWith (cs.length + 1) cs

/-! ## Jobs -/

namespace Machine

/-- The process of the job that a word names: by its number, or as the latest or the one before
it. -/
def childNamed (m : Machine) (word : List Char) : Except (List Char) Nat :=
  let absent : List Char := "No such job: ".toList ++ word
  let jobs := m.process.jobs
  match word with
  | '%' :: rest =>
    if rest.isEmpty || rest = ['%'] || rest = ['+'] then
      (jobs[0]?.map (·.2)).elim (.error "No current job".toList) .ok
    else if rest = ['-'] then
      (jobs[1]?.map (·.2)).elim (.error "No previous job".toList) .ok
    else if isNumeral rest then
      ((jobs.find? fun j => j.1 = digitsOf rest).map (·.2)).elim (.error absent) .ok
    else .error absent
  | _ => .error absent

/-- Says that a signal has ended a process, if that is to be said. -/
def mourn (m : Machine) (number : Nat) : Machine :=
  match (m.find? number).bind (·.state.code?) with
  | some code =>
    let text := obituary (-code).toNat
    if text.isEmpty then m else m.complain text.toList
  | none => m

/-- Notes which processes in the background have exited. -/
def noteExits (m : Machine) : Machine :=
  m.on fun p =>
    { p with seen := (p.jobs.map (·.2)).filter fun n => !((m.find? n).map (·.isLive)).getD false }

/-- What is said about the state of a process. -/
def stateWord (m : Machine) (number : Nat) : String :=
  match (m.find? number).bind (·.state.code?) with
  | none => "Running"
  | some 0 => "Done"
  | some code =>
    if code < 0 then obituary (-code).toNat else "Done(" ++ toString code ++ ")"

/-- A line about a job, the one at a place among all. -/
def jobLine (m : Machine) (place : Nat) (job number : Nat) (numbered : Bool) : List Char :=
  let mark := if place = 0 then '+' else if place = 1 then '-' else ' '
  let front := '[' :: decimal job ++ ']' :: ' ' :: mark :: [' ']
  let front := front ++ (if numbered then decimal number ++ [' '] else [])
  let line := front ++ (m.stateWord number).toList
  line ++ List.replicate (max 1 (33 - line.length)) ' ' ++ ['\n']

/-- What is said about jobs that are listed, one after the other, and the jobs that are left. One
that has exited is listed for the last time, unless only the numbers of processes are listed. -/
def listing (m : Machine) (flags : List Flag) (jobs : List (Nat × Nat)) :
    List Nat → List Char × List (Nat × Nat)
  | [] => ([], jobs)
  | number :: numbers =>
    match jobs.zipIdx.find? fun j => j.1.2 = number with
    | none => m.listing flags jobs numbers
    | some ((job, _), place) =>
      let bare := hasFlag flags 'p'
      let line :=
        if bare then decimal number ++ ['\n']
        else m.jobLine place job number (hasFlag flags 'l')
      let stays := bare || ((m.find? number).map (·.isLive)).getD false
      let jobs := if stays then jobs else jobs.filter (·.2 ≠ number)
      let r := m.listing flags jobs numbers
      (line ++ r.1, r.2)

/-- Writes what is known about jobs, and forgets those that have exited. -/
def listJobs (m : Machine) (ends : Bool) (arguments : List (List Char)) : Machine :=
  match takeFlags "lp".toList arguments with
  | .error text => m.mistake ends ("jobs: ".toList ++ text)
  | .ok (flags, words) =>
    match words.mapM m.childNamed with
    | .error text => m.mistake ends ("jobs: ".toList ++ text)
    | .ok numbers =>
      let numbers := if words.isEmpty then m.process.jobs.map (·.2) else numbers
      let (lines, jobs) := m.listing flags m.process.jobs numbers
      (m.write "jobs" lines).on fun p => { p with jobs }

/-- Notes a process that is started in the background. -/
def addJob (m : Machine) (number : Nat) : Machine :=
  let (job, m) := m.freeJob
  m.on fun p => { p with jobs := (job, number) :: p.jobs }

/-- Waits for processes, or for all that this one has started. -/
def wait (m : Machine) (ends : Bool) (arguments : List (List Char)) : Machine :=
  let number (word : List Char) : Except (List Char) Nat :=
    if word.head? = some '%' then m.childNamed word
    else (countOf? word).elim (.error ("Illegal number: ".toList ++ word)) .ok
  match takeFlags [] arguments >>= fun r => r.2.mapM number with
  | .error text => m.mistake ends ("wait: ".toList ++ text)
  | .ok [] => m.push [.wait (m.process.jobs.map (·.2)) true]
  | .ok numbers => m.push [.wait numbers false]

/-! ## Sending signals -/

/-- How signals are sent. -/
def killUsage : List Char :=
  ("Usage: kill [-s sigspec | -signum | -sigspec] [pid | job]... or\n" ++
    "kill -l [exitstatus]").toList

/-- Whether a signal can be sent to a process: it has not exited, or nobody has seen that yet. -/
def isThere (m : Machine) (number : Nat) : Bool :=
  match m.find? number with
  | some p => p.isLive || !m.process.seen.contains number
  | none => false

/-- The number of the signal that a process gets when one that it has started exits. -/
def childSignal : Nat := 17

/-- The process that has started one hears of it if that has exited. Waiting goes on unless it is
for others. -/
def announce (m : Machine) (p : Process) : Machine :=
  if p.isLive then m
  else
    m.onNumber p.parent fun q =>
      match q.tasks with
      | t@(.wait numbers _) :: rest =>
        if m.areOver numbers then
          let q := { q with tasks := rest }.receive childSignal
          { q with tasks := t :: q.tasks }
        else q.receive childSignal
      | _ => q.receive childSignal

/-- Sends a signal to the process with a number. -/
def strike (m : Machine) (number signal : Nat) : Machine :=
  match m.find? number with
  | some p =>
    let m := m.onNumber number (·.receive signal)
    if p.isLive then ((m.find? number).elim m m.announce) else m
  | none => m

/-- Sends a signal to processes, one after the other; without success if one of them is not
there. -/
def sendSignal (m : Machine) (ends : Bool) (signal : Nat) : List (List Char) → Machine
  | [] => m
  | target :: rest =>
    let absent (m : Machine) : Machine :=
      ((m.report "kill: No such process\n".toList).answer false).sendSignal ends signal rest
    if target.head? = some '%' then
      match m.childNamed target with
      | .error text => m.mistake ends ("kill: ".toList ++ text)
      | .ok _ => absent m
    else
      let digits := if target.head? = some '-' then target.drop 1 else target
      match countOf? digits with
      | none => m.mistake ends ("kill: Illegal number: ".toList ++ digits)
      | some n =>
        if m.isThere n && digits = target then (m.strike n signal).sendSignal ends signal rest
        else absent m

/-- Writes the names of all signals, or of the one that a code stands for. -/
def listSignals (m : Machine) (ends : Bool) (codes : List (List Char)) : Machine :=
  match codes with
  | [] => m.write "kill" ('0' :: '\n' :: (signalNames.drop 1).flatMap fun s => s.toList ++ ['\n'])
  | code :: _ =>
    match countOf? code with
    | none => m.mistake ends ("kill: Illegal number: ".toList ++ code)
    | some n =>
      let n := if 128 < n then n - 128 else n
      if n = 0 || (signalName n).isEmpty then
        m.mistake ends ("kill: invalid signal number or exit status: ".toList ++ code)
      else m.write "kill" ((signalName n).toList ++ ['\n'])

/-- Sends the signal that the first arguments name, or else asks to terminate. -/
def kill (m : Machine) (ends : Bool) (arguments : List (List Char)) : Machine :=
  let send (m : Machine) (signal : Nat) (targets : List (List Char)) : Machine :=
    if targets.isEmpty then m.mistake ends ("kill: ".toList ++ killUsage)
    else (m.answer true).sendSignal ends signal targets
  let direct? : Option Nat :=
    match arguments with
    | ('-' :: name) :: _ => (signalOf? name).filter fun n => isNumeral name || 0 < n
    | _ => none
  match direct?, takeFlags "ls:".toList arguments with
  | some signal, _ => send m signal (arguments.drop 1)
  | none, .error text => m.mistake ends ("kill: ".toList ++ text)
  | none, .ok (flags, words) =>
    let named := (flags.filter fun f => f.letter = 's').getLast?
    match named, named.bind fun f => signalOf? f.text with
    | some f, none =>
      m.mistake ends ("kill: invalid signal number or name: ".toList ++ f.text)
    | _, signal =>
      if hasFlag flags 'l' then m.listSignals ends words else send m (signal.getD 15) words

/-! ## Getting signals -/

/-- Sets what to do about signals, up to one that is none. -/
def setEach (m : Machine) (trap : Option Trap) : List (List Char) → Machine
  | [] => m.answer true
  | name :: rest =>
    match signalOf? name with
    | some signal => (m.on (·.setTrap signal trap)).setEach trap rest
    | none => (m.complain ("trap: ".toList ++ name ++ ": bad trap".toList)).answer false

/-- Says what to do about signals, or writes what was said. -/
def setTraps (m : Machine) (ends : Bool) (arguments : List (List Char)) : Machine :=
  match takeFlags [] arguments with
  | .error text => m.mistake ends ("trap: ".toList ++ text)
  | .ok (_, []) =>
    let sorted := m.process.traps.mergeSort fun a b => a.1 ≤ b.1
    let lines := sorted.map fun t =>
      let script := match t.2 with | .ignored => [] | .handler script => script
      "trap -- ".toList ++ quoted script ++ [' '] ++ (signalName t.1).toList ++ ['\n']
    m.write "trap" lines.flatten
  | .ok (_, [name]) => m.setEach none [name]
  | .ok (_, first :: rest) =>
    if isNumeral first then m.setEach none (first :: rest)
    else if first = ['-'] then m.setEach none rest
    else m.setEach (some (if first.isEmpty then .ignored else .handler first)) rest

end Machine

end ProbeBench.Shell
