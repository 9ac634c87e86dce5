import ProbeBench.Shell.Phrase

/-!
# Running scripts

A machine goes on step by step, its processes by turns, until all of them wait for something or have
exited.

* `step` does one thing; `run` goes on as long as there is something to do at once.
* `hear`, `endInput` and `terminate` are what comes from outside; `wakeAt` lets time pass.
* `run_of_idle`: a machine in which no process can go on does nothing by itself.
-/

namespace ProbeBench.Shell

/-- Whether a word fits one of some patterns. -/
def fitsOne (cs : List Char) : List Pieces → Expanding Bool
  | [] => return false
  | pattern :: rest => do
    let gs ← wholeGlyphs pattern
    if (Pattern.ofGlyphs gs).fits cs then return true else fitsOne cs rest

/-- The first command one of whose patterns a word fits. -/
def branchFor (cs : List Char) : List (List Pieces × Command) → Expanding (Option Command)
  | [] => return none
  | (patterns, c) :: rest => do
    if ← fitsOne cs patterns then return some c else branchFor cs rest

namespace Machine

/-! ## Beginning commands -/

/-- Starts a process for each command of a pipe; what one writes the next one reads. -/
def startStages (m : Machine) (source : Option Nat) : List Command → List Nat × Machine
  | [] => ([], m)
  | c :: rest =>
    let streams :=
      match source with
      | some channel => m.process.streams.lead 0 (some (.source channel))
      | none => m.process.streams
    match rest with
    | [] =>
      let (number, m) := m.fork streams [.run c []]
      ([number], m)
    | _ =>
      let (channel, m) := m.channel []
      let (number, m) := m.fork (streams.lead 1 (some (.sink channel))) [.run c []]
      let (numbers, m) := m.startStages (some channel) rest
      (number :: numbers, m)

/-- Runs something while failures do not end the script, and then something else. -/
def leniently (m : Machine) (c : Command) (next : List Task) : Machine :=
  let was := m.process.lenient
  (m.push (.run c [] :: .lenient was :: next)).on fun p => { p with lenient := true }

/-- A command without the line in which it begins, and the machine that is at that line. -/
def goTo (m : Machine) : Command → Machine × Command
  | .located line c => (m.withScope { m.scope with line }, c)
  | c => (m, c)

/-- Begins a command. -/
def begin (m : Machine) (whole : Command) (outputs : List (List Char × Nat)) : Machine :=
  if m.scope.has 'n' then m
  else
  let (m, c) := m.goTo whole
  match c with
  | .nothing => m
  | .located .. => m.push [.run c outputs]
  | .simple settings words rs =>
    let functions := m.process.functions.map (·.1)
    m.expanding whole outputs (phraseWords m.files functions words rs) fun m (fields, rs) =>
      m.beginPhrase (({ fields, settings } : Phrase).noting outputs) rs
  | .join .both first second => m.push [.run first [], .run second []]
  | .join how first second => m.leniently first [.join how second]
  | .negate c => m.leniently c [.negate]
  | .pipe stages =>
    let (numbers, m) := m.startStages none stages
    m.push [.await numbers, .check]
  | .background c =>
    let streams := m.process.streams.lead 0 (some .nowhere)
    let (number, m) := m.fork streams [.run c []]
    let m := (m.onNumber number fun p => { p with lenient := false }).addJob number
    (m.withScope { m.scope with latest := some number }).answer true
  | .apart c =>
    if m.process.isLast then m.push [.run c []]
    else
    let (number, m) := m.fork m.process.streams [.run c []]
    m.push [.await [number], .check]
  | .loop whileDone condition body => m.push [.round whileDone condition body true]
  | .choice condition yes no => m.leniently condition [.choose yes no]
  | .each name words body =>
    let values : Expanding (List (List Char)) :=
      match words with
      | some words => fields m.files words
      | none => return (← Expanding.scope).arguments
    m.expanding whole outputs values fun m values =>
      if values.isEmpty then m.answer true else m.push [.each name values body]
  | .select word branches =>
    let branch : Expanding (Option Command) := do branchFor (← wholeText word) branches
    m.expanding whole outputs branch fun m branch =>
      match branch with
      | none => m.answer true
      | some .nothing => m.answer true
      | some c => m.push [.run c []]
  | .define name body =>
    let functions := (name, body) :: m.process.functions.filter (·.1 ≠ name)
    (m.on fun p => { p with functions }).answer true
  | .redirected inner rs =>
    m.expanding whole outputs (expandedAll rs) fun m rs =>
      let streams := m.process.streams
      match inner with
      | .apart c =>
        if m.process.isLast then m.leadBody c true rs [] []
        else
          let (number, m) := m.fork streams [.resume (.body c true rs []) []]
          m.push [.await [number], .check]
      | c => (m.push [.streams streams]).leadBody c false rs [] []

/-! ## Tasks -/

/-- Runs the next command of a script. -/
def goOn (m : Machine) (s : Script) : Machine :=
  match nextCommand m.process.aliases s.tokens with
  | .error trouble =>
    let m := m.withScope { m.scope with line := trouble.line.getD s.last }
    m.abort ("Syntax error: " ++ trouble.mistake.message).toList
  | .ok (none, _) => m
  | .ok (some c, rest) =>
    let s := s.behind rest
    let m := if s.isFile then m.withScope { m.scope with reached := s.reached } else m
    m.push [.run c [], .script s]

/-- Whether lines are no command yet, but may become one with those that follow. -/
def isUnfinished (a : Aliases) (cs : List Char) : Bool :=
  isOpenEnded cs ||
    match nextCommand a (Script.ofText 1 cs).tokens with
    | .error trouble => trouble.line.isNone
    | .ok _ => false

/-- The lines at the beginning of a text that are a command, behind some that are none yet, and the
text behind them. -/
def takeCommand? (a : Aliases) : Nat → List Char → List Char → Option (List Char × List Char)
  | 0, _, _ => none
  | fuel + 1, front, cs =>
    let line := cs.takeWhile (· ≠ '\n')
    match cs.drop line.length with
    | [] => none
    | _ :: rest =>
      let front := front ++ line ++ ['\n']
      if isUnfinished a front then takeCommand? a fuel front rest else some (front, rest)

/-- The most octets of a script that are read at once. -/
def readingLength : Nat := 8192

/-- Reads the script, and runs what it has read as soon as that is a command. -/
def listen (m : Machine) (pending : List Char) (line : Nat) : Machine :=
  let scriptOf (cs : List Char) : Task := .script { Script.ofText line cs with isFile := true }
  match takeCommand? m.process.aliases (pending.length + 1) [] pending with
  | some (cs, rest) => m.push [scriptOf cs, .input rest (line + cs.count '\n')]
  | none =>
    match m.supply? 0 with
    | none => m.push [scriptOf pending]
    | some supply =>
      let more := supply.content.take readingLength
      if !more.isEmpty then
        let m := m.consume 0 (supply.content.drop more.length)
        m.push [.input (pending ++ more) line]
      else if supply.ended then m.push [scriptOf pending]
      else m.awaitMore 0 0 (.input pending line)

/-- Waits for processes like a command that they are. -/
def await (m : Machine) (numbers : List Nat) : Machine :=
  if m.areOver numbers then
    let code := ((numbers.getLast?).map m.codeOf).getD 0
    let m := numbers.foldl mourn m
    (m.noteExits.forget numbers).tidy.ended code
  else m.awaitExit numbers (.await numbers)

/-- Waits for processes, as far as they are known. -/
def waitFor (m : Machine) (numbers : List Nat) (all : Bool) : Machine :=
  let known := numbers.filter fun n => m.process.jobs.any (·.2 = n)
  if m.areOver known then
    let code := if all then 0 else ((known.getLast?).map m.codeOf).getD 127
    let unseen := if all then [] else known.filter (!m.process.seen.contains ·)
    let m := (unseen.foldl mourn m).noteExits
    (m.on fun p => { p with waited := known ++ p.waited }).ended code
  else m.awaitExit known (.wait numbers all)

/-- Goes on with something when the outputs of scripts inside of it are known. -/
def resume (m : Machine) (next : Pending) (outputs : List (List Char × Nat)) : Machine :=
  match next with
  | .command c => m.begin c outputs
  | .phrase phrase rs led old => m.leadPhrase phrase rs led old outputs
  | .settings phrase left old => makeSettings phrase old outputs left m
  | .body c apart rs led => m.leadBody c apart rs led outputs

/-- Does a task that was in front. -/
def handle (m : Machine) (t : Task) : Machine :=
  let done := m.status = 0
  match t with
  | .run c outputs => m.begin c outputs
  | .script s => m.goOn s
  | .input pending line => m.listen pending line
  | .round whileDone condition body first =>
    m.leniently condition [.test whileDone condition body (if first then 0 else m.status)]
  | .test whileDone condition body last =>
    if done = whileDone then m.push [.run body [], .round whileDone condition body false]
    else m.ended last
  | .choose yes no =>
    if done then m.push [.run yes []]
    else
      match no with
      | .nothing => m.answer true
      | _ => m.push [.run no []]
  | .join .ifFailed second => if done then m else m.push [.run second []]
  | .join _ second => if done then m.push [.run second []] else m
  | .negate => m.answer !done
  | .each name (value :: values) body =>
    match m.scope.refusal? name value with
    | some text => m.abort text
    | none => (m.on (·.set name value)).push [.run body [], .each name values body]
  | .check =>
    if m.scope.has 'e' && !m.process.lenient && !done then m.exit m.status else m
  | .read raw names => m.readLine raw names
  | .copy how names failed => m.copy how names failed
  | .await numbers => m.await numbers
  | .wait numbers all => m.waitFor numbers all
  | .gather channel number text next outputs => m.gather channel number text next outputs
  | .resume next outputs => m.resume next outputs
  | .job job => m.useTool job
  | .become job => (m.on (become job)).tidy
  | .status code => m.ended code
  | .exit => m.exit m.status
  | .finish code => m.on (·.finish (code % 256 : Nat))
  | .streams _ => (m.on (·.tidyUp t)).tidy
  | .leave arguments place values => m.leaveCall arguments place values
  | _ => m.on (·.tidyUp t)

/-- Does one thing. -/
def step (m : Machine) : Machine :=
  let m := m.on Process.handled
  let m :=
    match m.process.tasks with
    | [] => m.exit m.status
    | t :: rest => (m.on fun p => { p with tasks := rest }).handle t
  m.announce m.process

/-! ## Turns -/

/-- Whether a process can go on. -/
def isReady (m : Machine) (p : Process) : Bool :=
  match p.state with
  | .busy => true
  | .reading channel seen => m.holdsOther channel seen || m.isClosed channel
  | .asleep wake => wake ≤ m.now
  | .awaiting numbers => m.areOver numbers
  | .exited _ => false

/-- Gives the turn to the next process that can go on. -/
def turn? (m : Machine) : Option Machine :=
  let queue := m.others ++ [m.process]
  let waiting := queue.takeWhile (!m.isReady ·)
  match queue.drop waiting.length with
  | p :: rest =>
    let p := { p with state := .busy, unheard := [] }
    some { m with process := p, others := rest ++ waiting }
  | [] => none

/-- How many steps a turn has. -/
def turnLength : Nat := 500

/-- The time that passes in a turn that is not cut short, in seconds. -/
def turnTime : Float := 1.0 / 2048.0

/-- Goes on as long as there is something to do at once, for at most `fuel` steps; the turn has
`left` more of them. Says how many steps are left. -/
def runFor : Nat → Nat → Machine → Machine × Nat
  | 0, _, m => (m, 0)
  | fuel + 1, left, m =>
    match m.process.state.isBusy, left with
    | true, left + 1 => runFor fuel left m.step
    | isBusy, _ =>
      match (if isBusy then { m with now := m.now + turnTime } else m).turn? with
      | some m => runFor fuel turnLength m
      | none => (m, fuel + 1)

/-- Goes on as long as there is something to do at once, for so many steps at most. Says how many
steps are left. -/
def run (m : Machine) (steps : Nat) : Machine × Nat := m.runFor steps turnLength

theorem turn?_eq_none (m : Machine) (h : ∀ p ∈ m.processes, m.isReady p = false) :
    m.turn? = none := by
  have all : ∀ p ∈ m.others ++ [m.process], m.isReady p = false := by
    intro p hp
    apply h
    simp only [List.mem_append, List.mem_singleton] at hp
    simp only [processes, List.mem_cons]
    exact hp.symm
  have whole : (m.others ++ [m.process]).takeWhile (!m.isReady ·) = m.others ++ [m.process] := by
    have hp : ∀ p ∈ m.others ++ [m.process], (!m.isReady p) = true := fun p h => by simp [all p h]
    rw [← List.append_nil (m.others ++ [m.process]), List.takeWhile_append_of_pos hp]
    rfl
  unfold turn?
  simp only [whole, List.drop_length]

theorem run_of_idle (m : Machine) (steps : Nat) (h : ∀ p ∈ m.processes, m.isReady p = false) :
    m.run steps = (m, steps) := by
  have rests : m.process.state.isBusy = false := by
    have := h m.process (List.mem_cons_self ..)
    unfold isReady at this
    cases hs : m.process.state <;> simp_all [State.isBusy]
  cases steps with
  | zero => rfl
  | succ n => simp [run, runFor, rests, turn?_eq_none m h]

/-! ## From outside -/

/-- The number of the process that others talk to. -/
def mainNumber : Nat := 4242

/-- A machine whose only process runs a job. -/
def ofJob (files : FileTree) (folder : Path) (job : Job) : Machine :=
  let scope : Scope := { name := [], arguments := [], number := mainNumber, folder }
  let p : Process :=
    { number := mainNumber
      parent := mainNumber - 1
      tasks := []
      scope
      streams := [(0, .source outerInput), (1, .sink outerOutput), (2, .nowhere)] }
  { process := become job p
    channels := [(outerInput, { fed := true })]
    files
    fresh := mainNumber + 1 }

/-- The code with which the main process has exited. -/
def code? (m : Machine) : Option Int := (m.find? mainNumber).bind (·.state.code?)

/-- Text comes in. -/
def hear (m : Machine) (cs : List Char) : Machine := m.put outerInput cs

/-- Nothing more comes in. -/
def endInput (m : Machine) : Machine := m.onChannel outerInput fun c => { c with fed := false }

/-- The main process is asked to terminate. -/
def terminate (m : Machine) : Machine := m.onNumber mainNumber (·.receive 15)

/-- The main process is killed. -/
def destroy (m : Machine) : Machine := m.onNumber mainNumber (·.receive 9)

/-- Whether the main process has exited and nobody is left who has the streams that lead outside. -/
def isSettled (m : Machine) : Bool :=
  m.code?.isSome && m.isClosed outerOutput && (!m.isFed outerInput || m.isDeaf outerInput)

/-- The next time at which a process wakes. -/
def nextWake? (m : Machine) : Option Float :=
  let times := m.processes.filterMap fun p =>
    match p.state with
    | .asleep t => if t.isFinite then some t else none
    | _ => none
  times.foldl (fun least t => match least with | some s => some (min s t) | none => some t) none

/-- Time passes up to a moment. -/
def wakeAt (m : Machine) (t : Float) : Machine := { m with now := max m.now t }

end Machine

end ProbeBench.Shell
