import ProbeBench.Shell.Builtin
import ProbeBench.Shell.Quotation

/-!
# Tools of the system

What the programs of the system do that the shell does not know itself, or knows in another way:
copying files, sleeping, writing lines. A machine can also run any program in a process of its own,
or in place of the script.

* `secondsOf?_nil`: an empty text is no time.
-/

namespace ProbeBench.Shell

/-- A number of seconds, with a unit behind it. -/
def secondsOf? (cs : List Char) : Option Float :=
  let (negative, body) := Decimal.takeSign (cs.dropWhile isSpace)
  match Printing.takeReal? body with
  | none => none
  | some (x, unit) =>
    let seconds? : Option Float :=
      match unit with
      | [] | ['s'] => some x
      | ['m'] => some (x * 60.0)
      | ['h'] => some (x * 3600.0)
      | ['d'] => some (x * 86400.0)
      | _ => none
    seconds?.filter fun s => 0.0 ≤ s && (!negative || s == 0.0)

theorem secondsOf?_nil : secondsOf? [] = none := by rfl

/-- The options in front of the texts of a line: whether the line ends, and whether escapes are
replaced. -/
def lineOptions (ends replaces : Bool) : List (List Char) → Bool × Bool × List (List Char)
  | ('-' :: c :: letters) :: rest =>
    if (c :: letters).all "neE".toList.contains then
      let replaces := (c :: letters).foldl (fun b l => if l = 'e' then true else
        if l = 'E' then false else b) replaces
      lineOptions (ends && !(c :: letters).contains 'n') replaces rest
    else (ends, replaces, ('-' :: c :: letters) :: rest)
  | texts => (ends, replaces, texts)

/-- The line that the tool for it writes. -/
def toolLine (arguments : List (List Char)) : List Char :=
  let (ends, replaces, texts) := lineOptions true false arguments
  let (text, stops) := if replaces then unescape (joined texts) else (joined texts, false)
  if ends && !stops then text ++ ['\n'] else text

namespace Machine

/-- Writes text that a tool copies, and then does a task; ends it if that is not possible. -/
def copyOn (m : Machine) (content : List Char) (next : Task) : Machine :=
  let (m, done) := m.writeTo 1 content
  if done then m.push [next]
  else if !m.process.isLive then m
  else
    let e := (m.process.streams.endpoint? 1).getD .folder
    (m.complain (m.scope.name ++ (": write error: " ++ e.refusal).toList)).answer false

/-- Whether a file that is opened is the one that is written, and has text behind what is read. -/
def isCircular (m : Machine) (number : Nat) : Bool :=
  match m.process.streams.endpoint? 1 with
  | some (.file target) =>
    match m.opening? number, m.opening? target with
    | some a, some b => a.names = b.names && a.place < (m.octetsAt a.names).length
    | _, _ => false
  | _ => false

/-- Writes what a stream supplies, and then does a task. -/
def copyStream (m : Machine) (how : Copying) (stream : Nat) (supply : Supply)
    (next : Copying → Task) (again : Copying → Task) : Machine :=
  let (text, how) := how.shown supply.content
  let m := m.consume stream []
  if supply.ended then m.copyOn text (next how)
  else if supply.content.isEmpty then m.awaitMore stream 0 (again how)
  else m.copyOn text (again how)

/-- The stream on which a tool opens files of its own. -/
def ownStream : Nat := 1000

/-- Writes the contents of files, and of the input where there is a dash, one after the other. -/
def copy (m : Machine) (how : Copying) (names : List (List Char)) (failed : Bool) : Machine :=
  match names with
  | [] =>
    if how.held then m.copyOn ['\r'] (.copy { how with held := false } [] failed)
    else if how.inputClosed then
      let text := ": closing standard input: Bad file descriptor"
      (m.complain (m.scope.name ++ text.toList)).answer false
    else m.answer !failed
  | name :: rest =>
    let inputClosed := name = ['-'] && (m.process.streams.endpoint? 0).isNone
    let skip (m : Machine) (reason : String) : Machine :=
      let text := m.scope.name ++ ": ".toList ++ Quotation.asWritten name ++ ": ".toList ++
        reason.toList
      let how := { how with inputClosed := how.inputClosed || inputClosed }
      (m.complain text).push [.copy how rest true]
    let begun? : Except FileFault (Nat × Machine) :=
      if name = ['-'] then .ok (0, m)
      else if (m.process.streams.endpoint? ownStream).isSome then .ok (ownStream, m)
      else
        (m.openAt { reads := true } name).map fun (e, m) =>
          (ownStream, m.on fun p => { p with streams := p.streams.lead ownStream (some e) })
    match begun? with
    | .error fault => skip m fault.reason
    | .ok (stream, m) =>
      let shut (m : Machine) : Machine :=
        m.on fun p => { p with streams := p.streams.lead ownStream none }
      match m.process.streams.endpoint? stream, m.supply? stream with
      | some (.file number), some supply =>
        if m.isCircular number then skip (shut m) "input file is output file"
        else
          let m := m.copyStream how stream supply (.copy · rest failed) (.copy · names failed)
          if stream = ownStream then shut m else m
      | some .folder, _ => skip (shut m) FileFault.isDirectory.reason
      | _, some supply =>
        let m := m.copyStream how stream supply (.copy · rest failed) (.copy · names failed)
        if stream = ownStream && supply.ended then shut m else m
      | _, none => skip (shut m) "Bad file descriptor"

/-- Sleeps as long as all arguments together say. -/
def sleep (m : Machine) (arguments : List (List Char)) : Machine :=
  let refuse (texts : List (List Char)) : Machine :=
    let called := m.scope.name
    let lines := joinedBy ['\n'] (texts.map fun text => called ++ ": ".toList ++ text)
    (m.complain (lines ++ Surrounding.hint called)).answer false
  let (front, behind) := arguments.span (· ≠ ['-', '-'])
  let words := front ++ behind.drop 1
  let bad := words.filter fun word => (secondsOf? word).isNone
  let isOption (word : List Char) : Bool := word.head? = some '-' && word ≠ ['-']
  match front.find? isOption, words.filterMap secondsOf? with
  | some ('-' :: '-' :: name), _ =>
    refuse ["unrecognized option '--".toList ++ name ++ ['\x27']]
  | some word, _ => refuse ["invalid option -- '".toList ++ (word.drop 1).take 1 ++ ['\x27']]
  | none, seconds =>
    if arguments.isEmpty then refuse ["missing operand".toList]
    else if bad.isEmpty then
      let wake := m.now + seconds.foldl (· + ·) 0.0
      (m.answer true).on fun p => if words.isEmpty then p else { p with state := .asleep wake }
    else refuse (bad.map fun word => "invalid time interval ".toList ++ Quotation.curved word)

/-- Does what a tool does. -/
def useTool (m : Machine) (job : Job) : Machine :=
  let front := job.name ++ ": ".toList
  match job.activity with
  | .fail code message => (m.complain message).ended code
  | .list mark => m.write "env" (job.values.flatMap fun v => v.1 ++ '=' :: v.2 ++ [mark])
  | .tool "cat" =>
    match ({} : Copying).ofWords job.arguments with
    | .error text =>
      (m.complain (front ++ text.toList ++ Surrounding.hint job.name)).answer false
    | .ok (how, names) =>
      if (m.process.streams.endpoint? 1).isNone then
        (m.complain (front ++ "standard output: Bad file descriptor".toList)).answer false
      else m.push [.copy how (if names.isEmpty then [['-']] else names) false]
  | .tool "sleep" => m.sleep job.arguments
  | .tool "echo" => m.write "echo" (toolLine job.arguments)
  | .tool name => (m.perform? true name job.arguments).getD (m.ended 127)
  | _ => m

/-- What a process knows that runs a job. -/
def scopeOf (old : Scope) (job : Job) (number parent : Nat) : Scope :=
  let prompts := [("PS1", "# "), ("PS2", "> "), ("PS4", "+ "), ("PATH", scriptFolders)]
  let folder := job.folder.getD old.folder
  let own := [("PWD".toList, lettersOf folder.text), ("PPID".toList, decimal parent),
    ("IFS".toList, " \t\n".toList), ("OPTIND".toList, ['1'])]
  let s : Scope :=
    { name := job.name
      arguments := job.arguments
      number
      folder
      mask := old.mask }
  let s := prompts.foldl (fun s v => s.set v.1.toList v.2.toList) s
  let given := job.values.filter fun v => isName v.1
  let s := given.foldl (fun s v => (s.set v.1 v.2).exporting v.1) s
  let s := (own.foldl (fun s v => s.set v.1 v.2) s).exporting "PWD".toList
  { s with options := job.options }

/-- What a process does that runs a job. -/
def tasksOf (job : Job) : List Task :=
  let listings := job.lists.map fun table =>
    Task.script (.ofText 1 (if table then "set -o" else "set +o").toList)
  match job.activity with
  | .script text => listings ++ [.script (.ofText 1 text)]
  | .file text => listings ++ [.script { Script.ofText 1 text with isFile := true }]
  | .listen => listings ++ [.input [] 1]
  | _ => [.job job, .exit]

/-- What a process is that runs a job. -/
def become (job : Job) (p : Process) : Process :=
  { p with
    scope := scopeOf p.scope job p.number p.parent
    tasks := tasksOf job
    functions := []
    aliases := []
    jobs := []
    waited := []
    seen := []
    traps := Process.inherited p.traps
    depth := 0
    rounds := 0
    branch := false
    lenient := false }

/-- The variables that programs get, by their places; at one place those come first that every
script has. -/
def exports (s : Scope) : Variables :=
  let given := s.values.reverse.filter fun v => s.exported.contains v.1
  let own := ownNames.reverse.filterMap fun name => given.find? (·.1 = name)
  let others := given.filter (!ownNames.contains ·.1)
  (own ++ others).mergeSort fun a b => slotOf variableSlots a.1 ≤ slotOf variableSlots b.1

/-- Why a program cannot be run, as a script sees it. -/
def missingReason : LaunchFault → String
  | .notPermitted => "Permission denied"
  | .unknownFormat => "Exec format error"
  | .nameTooLong => "File name too long"
  | .tooDeep => "Too many levels of symbolic links"
  | _ => "not found"

/-- Says why a program cannot be run, which is named by a path or without one. -/
def missing (m : Machine) (name : List Char) (isPath : Bool) (fault : LaunchFault) : Machine :=
  let code :=
    match fault with
    | .notPermitted => if isPath then 126 else 127
    | .unknownFormat => 126
    | _ => 127
  (m.accuse (name ++ ": ".toList ++ (missingReason fault).toList)).ended code

/-- The job of a program that a script names. A file that says nothing about its program is a
script. -/
def jobNamed (m : Machine) (standard : Bool) (name : List Char) (arguments : List (List Char)) :
    Except LaunchFault Job := do
  let place := m.place standard
  let values := exports m.scope
  let (path, found) ← (spelled? name).elim (.error .missing) place.locate
  match jobOf place values maxDepth (path, found) name arguments, found with
  | .error .unknownFormat, .file octets =>
    return { name := lettersOf path, arguments, values, activity := .file (letters octets) }
  | r, _ => r

/-- The time that a program takes to start, in seconds. -/
def startup : Float := 1.0 / 1024.0

/-- Runs a job in place of the script. Until the program has started, the process keeps its
streams. -/
def takeOver (m : Machine) (job : Job) : Machine :=
  m.on fun p => { p.push [.become job] with state := .asleep (m.now + startup) }

/-- Runs a job in a process of its own. -/
def start (m : Machine) (job : Job) : Machine :=
  let (number, m) := m.fork m.process.streams [.become job]
  let m := m.onNumber number fun p => { p with state := .asleep (m.now + startup) }
  m.push [.await [number]]

/-- Whether a task undoes what a simple command has changed for itself. -/
def isUndoing : Task → Bool
  | .values _ | .streams _ => true
  | _ => false

/-- Runs a program in a process of its own, or in place of one that was started for it. -/
def runProgram (m : Machine) (standard : Bool) (name : List Char) (arguments : List (List Char)) :
    Machine :=
  match m.jobNamed standard name arguments with
  | .error fault => m.missing name (name.contains '/') fault
  | .ok job =>
    let isNoted := !standard && !name.contains '/'
    let m := if isNoted then m.withScope (m.scope.finding name) else m
    let isLast := { m.process with tasks := m.process.tasks.dropWhile isUndoing }.isLast
    if isLast then m.takeOver job else m.start job

/-- Runs a program in place of the script. -/
def replace (m : Machine) (name : List Char) (arguments : List (List Char)) : Machine :=
  match m.jobNamed false name arguments with
  | .error fault =>
    let m := { m with process.scope.caller := "exec".toList }.missing name true fault
    m.exit m.status
  | .ok job => m.takeOver job

end Machine

end ProbeBench.Shell
