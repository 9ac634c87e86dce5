import ProbeBench.Shell.Condition
import ProbeBench.Shell.Declaration
import ProbeBench.Shell.Format
import ProbeBench.Shell.Line

/-!
# What a process does by name

The commands that the shell itself knows: writing, reading, conditions, variables, loops and
functions that are left, signals. `perform?` does one of them with its arguments.

* `perform?_true`: the command `true` ends with success.
-/

namespace ProbeBench.Shell

/-- The number that stands first, or else another one; none if it is no number. -/
def firstNumber? (arguments : List (List Char)) (otherwise : Nat) : Option Nat :=
  arguments.head?.elim (some otherwise) countOf?

/-- What may be used of what there is: a letter, and the most of it. -/
def limits : List (Char × String) :=
  "tfdcmlpvw".toList.map (fun c => (c, "unlimited")) ++
    [('s', "8192"), ('n', "1048576"), ('r', "0")]

namespace Machine

/-- Does something with the number that stands first, or else with another one. -/
def withNumber (m : Machine) (ends : Bool) (name : String) (arguments : List (List Char))
    (otherwise : Nat) (f : Nat → Machine) : Machine :=
  match firstNumber? arguments otherwise with
  | some n => f n
  | none => m.mistake ends (name.toList ++ ": Illegal number: ".toList ++ arguments.headD [])

/-- Does something with the number of loops that stands first. -/
def withLoops (m : Machine) (ends : Bool) (name : String) (arguments : List (List Char))
    (f : Nat → Machine) : Machine :=
  m.withNumber ends name arguments 1 fun n =>
    if n = 0 then m.mistake ends (name.toList ++ ": Illegal number: ".toList ++ arguments.headD [])
    else f n

/-- Whether a condition holds. -/
def test (m : Machine) (name : String) (arguments : List (List Char)) : Machine :=
  match Condition.judge m.files m.scope arguments with
  | .ok b => m.answer b
  | .error text => (m.report (name.toList ++ ": ".toList ++ text)).ended 2

/-- Writes what a format gives. -/
def printFormat (m : Machine) (ends : Bool) (arguments : List (List Char)) : Machine :=
  match takeFlags [] arguments with
  | .error text => m.mistake ends ("printf: ".toList ++ text)
  | .ok (_, []) => m.mistake ends "printf: usage: printf format [arg ...]".toList
  | .ok (_, template :: rest) =>
    let p := format template rest
    let m := p.complaints.foldl (fun m text => m.report ("printf: ".toList ++ text)) m
    let m := m.write "printf" p.text
    if p.wrong then m.ended 2 else if p.complaints.isEmpty then m else m.answer false

/-! ## Folders -/

/-- Goes to a folder; says where, if that is to be said. Unless the way is taken step by step, a
double dot takes away the name in front of it, whatever that is. -/
def goTo? (m : Machine) (path : List Char) (stepwise tells : Bool) : Option Machine :=
  (spelled? path).bind fun text =>
  let way := Path.ofText text
  let root := (m.scope.folder.under way).root
  let folder := { way.resolve m.scope.folder with root }
  let here := lettersOf folder.text
  match m.entryAt (if stepwise then path else here) with
  | .ok .directory =>
    let s := { m.scope with folder }
    let values := [("OLDPWD".toList, lettersOf m.scope.folder.text), ("PWD".toList, here)]
    match values.findSome? fun v => s.refusal? v.1 v.2 with
    | some reason => some ((m.withScope s).mistake false ("cd: ".toList ++ reason))
    | none =>
      let m := m.withScope (values.foldl (fun s v => (s.set v.1 v.2).exporting v.1) s)
      some (if tells then m.write "cd" (here ++ ['\n']) else m.answer true)
  | _ => none

/-- Goes to a folder that is looked for in others. -/
def goFrom (m : Machine) (path : List Char) (stepwise : Bool) : List (List Char) → Option Machine
  | [] => m.goTo? path stepwise false
  | folder :: rest =>
    let whole := if folder.isEmpty then path else folder ++ '/' :: path
    (m.goTo? whole stepwise !folder.isEmpty).or (m.goFrom path stepwise rest)

/-- Goes to the folder that is named, to the one before for a dash, or else home. -/
def changeFolder (m : Machine) (ends : Bool) (arguments : List (List Char)) : Machine :=
  match takeFlags "LP".toList arguments with
  | .error text => m.mistake ends ("cd: ".toList ++ text)
  | .ok (flags, words) =>
    let stepwise := (flags.getLast?.map (·.letter)) = some 'P'
    let value (name : String) : List Char := (m.scope.value? name.toList).getD []
    let path := words.headD (value "HOME")
    let isBefore := path = ['-'] && !words.isEmpty
    let path := if isBefore then value "OLDPWD" else path
    let isPlain := !path.isEmpty &&
      ["/", "./", "../"].any fun s => s.toList.isPrefixOf (path ++ ['/'])
    let folders := if isPlain || isBefore then [] else ((value "CDPATH").splitOn ':')
    let folders := if folders = [[]] then [] else folders
    let path := if path.isEmpty then ['.'] else path
    let next := if isBefore then m.goTo? path stepwise true else m.goFrom path stepwise folders
    next.getD (m.mistake false ("cd: can't cd to ".toList ++ path))

/-- Writes where the script is. -/
def tellFolder (m : Machine) (ends : Bool) (arguments : List (List Char)) : Machine :=
  match takeFlags "LP".toList arguments with
  | .error text => m.mistake ends ("pwd: ".toList ++ text)
  | .ok _ => m.write "pwd" (lettersOf m.scope.folder.text ++ ['\n'])

/-! ## Programs and scripts -/

/-- The folders in which programs are looked for. -/
def folders (m : Machine) : List String :=
  (((m.scope.value? "PATH".toList).bind spelled?).map foldersOf).getD []

/-- Where programs are looked for; with `standard` in the folders of the system. -/
def place (m : Machine) (standard : Bool) : Place :=
  let folders := if standard then foldersOf standardFolders else m.folders
  ⟨m.files, m.scope.folder, folders⟩

/-- The path of a program: one with a slash leads to anything, and a name is looked for in folders.
-/
def programPath? (m : Machine) (standard : Bool) (name : List Char) : Option (List Char) :=
  if name.contains '/' then (m.entryAt name).toOption.map fun _ => name
  else
    (spelled? name).bind fun text =>
      let place := m.place standard
      let paths := place.folders.map (Place.pathIn · text)
      (paths.find? fun path => (place.look path).toOption.isSome).map lettersOf

/-- Does something that is called by a name until it is done. -/
def calling (m : Machine) (caller : List Char) (tasks : List Task) : Machine :=
  let old := m.scope.caller
  (m.push (tasks ++ [.caller old])).withScope { m.scope with caller }

/-- The path of a script that is read into this one; a name without a slash is looked for in the
folders of programs. -/
def scriptPath? (m : Machine) (path : List Char) : Option (List Char) :=
  if path.contains '/' then some path
  else
    let text := (spelled? path).getD ""
    let paths := m.folders.map fun folder => lettersOf (Place.pathIn folder text)
    paths.find? m.isFileAt

/-- Reads a script into this one. -/
def source (m : Machine) (ends : Bool) (arguments : List (List Char)) : Machine :=
  match takeFlags [] arguments with
  | .error text => m.mistake ends (".: ".toList ++ text)
  | .ok (_, []) => m.answer true
  | .ok (_, path :: _) =>
    match m.scriptPath? path with
    | none => m.mistake ends (".: ".toList ++ path ++ ": not found".toList)
    | some path =>
      match m.entryAt path with
      | .ok .directory => m.answer true
      | .ok e =>
        let text := (e.content.toOption.map letters).getD []
        let m := (m.answer true).calling path []
        m.on (·.strictly [.script (.ofText 1 text), .sourced])
      | .error fault =>
        m.mistake ends (".: ".toList ++ refusal "cannot open " path fault "No such file")

/-- Brings a job to the front or lets it go on behind, which takes a terminal. -/
def moveJob (m : Machine) (ends : Bool) (name : String) (arguments : List (List Char)) : Machine :=
  let wrong (text : List Char) : Machine := m.mistake ends (name.toList ++ ": ".toList ++ text)
  match takeFlags [] arguments with
  | .error text => wrong text
  | .ok (_, words) =>
    match m.childNamed (words.headD ['%']) with
    | .error text => wrong text
    | .ok _ =>
      let word := words.headD "(null)".toList
      wrong ("job ".toList ++ word ++ " not created under job control".toList)

/-- Writes how much may be used of something, or takes a word that limits it, which changes nothing
here. -/
def tellLimit (m : Machine) (ends : Bool) (arguments : List (List Char)) : Machine :=
  match takeFlags ("HSa".toList ++ limits.map (·.1)) arguments with
  | .error text => m.mistake ends ("ulimit: ".toList ++ text)
  | .ok (flags, word :: more) =>
    if hasFlag flags 'a' || !more.isEmpty then m.mistake ends "ulimit: too many arguments".toList
    else if word = "unlimited".toList || word.all Char.isDigit then m.answer true
    else m.mistake ends "ulimit: bad number".toList
  | .ok (flags, []) =>
    let letters := (flags.map (·.letter)).filter fun c => limits.any (·.1 = c)
    let letter := letters.getLast?.getD 'f'
    m.write "ulimit" (((limits.find? (·.1 = letter)).map (·.2)).getD "" ++ "\n").toList

/-! ## By name -/

/-- Does what the shell itself knows by a name. `ends` says whether a mistake ends the script. -/
def perform? (m : Machine) (ends : Bool) (name : String) (arguments : List (List Char)) :
    Option Machine :=
  match name with
  | ":" => m.answer true
  | "true" => m.answer true
  | "false" => m.answer false
  | "echo" => m.write name (lineOf arguments)
  | "printf" => m.printFormat ends arguments
  | "test" => m.test name arguments
  | "[" =>
    if (arguments.getLast?.bind (·.head?)) = some ']' then m.test name arguments.dropLast
    else (m.report "[: missing ]".toList).ended 2
  | "read" => m.read ends arguments
  | "getopts" => m.takeOption ends arguments
  | "exit" => m.withNumber ends name arguments m.status fun n => m.exit n
  | "return" =>
    m.withNumber ends name arguments m.status fun n =>
      if n ≠ 0 && m.scope.has 'e' && !m.process.lenient then m.exit n
      else (m.on (·.leaveFunction)).ended n
  | "continue" =>
    m.withLoops ends name arguments fun n =>
      (m.on fun p => p.leaveLoops (min n p.loops)).answer true
  | "break" =>
    m.withLoops ends name arguments fun n =>
      let m := m.answer true
      if m.process.loops = 0 then m
      else
        let m := m.on fun p => p.leaveLoops (min n p.loops)
        m.on fun p => { p with tasks := p.tasks.drop 1 }
  | "shift" =>
    m.withNumber ends name arguments 1 fun n =>
      if m.scope.arguments.length < n then m.mistake ends "shift: can't shift that many".toList
      else (m.withScope (m.scope.given (m.scope.arguments.drop n))).answer true
  | "set" => m.setOptions ends arguments
  | "unset" => m.unset ends arguments
  | "export" => m.exportNames ends arguments
  | "readonly" => m.fixNames ends arguments
  | "local" => m.declareLocal ends arguments
  | "alias" => m.setAliases arguments
  | "unalias" => m.unsetAliases ends arguments
  | "umask" => m.setMask ends arguments
  | "eval" => (m.answer true).calling name.toList [.script (.ofText 1 (joined arguments))]
  | "." => m.source ends arguments
  | "cd" => m.changeFolder ends arguments
  | "chdir" => m.changeFolder ends arguments
  | "pwd" => m.tellFolder ends arguments
  | "trap" => m.setTraps ends arguments
  | "wait" => m.wait ends arguments
  | "kill" => m.kill ends arguments
  | "jobs" => m.listJobs ends arguments
  | "fg" => m.moveJob ends name arguments
  | "bg" => m.moveJob ends name arguments
  | "ulimit" => m.tellLimit ends arguments
  | "times" =>
    let line := "0m0.000000s 0m0.000000s\n"
    m.write name (line ++ line).toList
  | _ => none

theorem perform?_true (m : Machine) (ends : Bool) (arguments : List (List Char)) :
    m.perform? ends "true" arguments = some (m.answer true) := rfl

end Machine

end ProbeBench.Shell
