import ProbeBench.Decimal.Reading
import ProbeBench.Failure
import ProbeBench.Files.System
import ProbeBench.Shell.Surrounding

/-!
# Finding programs

A name with a slash is the path of a program, and one without is looked for in folders. A program is
one of the system, or a file that is executable and says in its first line which program runs it.
What is found is a `Job`: a script for the shell, or a tool.

* `search_of_missing`: a program that no folder has is missing.
-/

namespace ProbeBench.Shell

/-- What a job does. -/
inductive Activity where
  /-- Runs a script. -/
  | script (text : List Char)
  /-- Runs the script that is the content of a file. -/
  | file (text : List Char)
  /-- Runs the script that it reads from its input. -/
  | listen
  /-- Does what a tool of the system does. -/
  | tool (name : String)
  /-- Writes its variables, each with a mark behind it. -/
  | list (mark : Char)
  /-- Exits with a code and a message. -/
  | fail (code : Nat) (message : List Char)
  deriving DecidableEq, Repr

/-- A program that can be run. -/
structure Job where
  /-- The name by which it is called. -/
  name : List Char
  arguments : List (List Char) := []
  /-- Variables that it gets. -/
  values : Variables := []
  /-- Where it runs, if that is not where it is started. -/
  folder : Option Path := none
  options : List Char := []
  /-- The options are listed at first, each time as a table or as commands. -/
  lists : List Bool := []
  activity : Activity

/-- What the name of a program leads to. -/
inductive Found where
  | system (name : String)
  | file (octets : List UInt8)
  deriving DecidableEq, Repr

/-- What an executable file at a place is. -/
def Found.ofFile (names : List String) (octets : List UInt8) : Found :=
  let name := names.getLast?.getD ""
  if FileTree.programNames.contains name && FileTree.programFolders.contains names.dropLast then
    .system name
  else .file octets

/-- The folders that a text with colons between them lists. -/
def foldersOf (text : String) : List String := text.splitOn ":"

/-- The folders in which programs are looked for unless something else is said. -/
def standardFolders : String := "/usr/local/bin:/usr/bin:/bin"

/-- The folders in which a script looks for programs that gets no others. -/
def scriptFolders : String := "/usr/local/sbin:/usr/local/bin:/usr/sbin:/usr/bin:/sbin:/bin"

/-- Where programs are looked for: files, the directory that relative paths begin at, and the
folders for names without a slash. -/
structure Place where
  files : FileTree
  folder : Path
  folders : List String := foldersOf standardFolders

namespace Place

/-- What is at the end of a path. -/
def look (p : Place) (path : String) : Except LaunchFault Found :=
  if path.isEmpty then .error .missing
  else if FileTree.maxPath < path.utf8ByteSize then .error .nameTooLong
  else
    match p.files.find p.folder (.ofText path) with
    | .ok (.file octets executable _) =>
      if Path.meansFolder path then .error .notDirectory
      else if executable then .ok (.ofFile (Path.resolve (.ofText path) p.folder).names octets)
      else .error .notPermitted
    | .ok .directory => .error .notPermitted
    | .ok (.device _) => .error (if Path.meansFolder path then .notDirectory else .notPermitted)
    | .error .notDirectory => .error .notDirectory
    | .error .nameTooLong => .error .nameTooLong
    | .error _ => .error .missing

/-- The path of a name in a folder; the folder without a name is the one that paths begin at. -/
def pathIn (folder name : String) : String :=
  if folder.isEmpty then name else folder ++ "/" ++ name

/-- The program with a name in the first of some folders that has it, and its path. -/
def search (p : Place) (program : String) : List String → Except LaunchFault (String × Found)
  | [] => .error .missing
  | folder :: rest =>
    match p.look (pathIn folder program), p.search program rest with
    | .ok found, _ => .ok (pathIn folder program, found)
    | .error _, .ok found => .ok found
    | .error .missing, r => r
    | .error .notDirectory, r => r
    | .error fault, _ => .error fault

/-- The program that a command begins with: at a path, or in one of the folders. -/
def locate (p : Place) (program : String) : Except LaunchFault (String × Found) :=
  if program.contains '/' then (p.look program).map (program, ·)
  else p.search program p.folders

/-- The content of a file, by its name in octets. -/
def content? (p : Place) (name : List Char) : Option (List Char) :=
  match (spelled? name).map fun text => p.files.find p.folder (.ofText text) with
  | some (.ok .directory) => some []
  | some (.ok e) => e.content.toOption.map letters
  | _ => none

theorem search_of_missing (p : Place) {program : String} {folders : List String}
    (h : ∀ folder ∈ folders, p.look (pathIn folder program) = .error .missing) :
    p.search program folders = .error .missing := by
  induction folders with
  | nil => rfl
  | cons folder rest ih =>
    have first := h folder (List.mem_cons_self ..)
    have others := ih fun f hf => h f (List.mem_cons_of_mem _ hf)
    simp [search, first, others]

end Place

/-! ## The words of the shell -/

/-- The options of the shell that have names. -/
def optionNames : List (String × Char) :=
  [("errexit", 'e'), ("noglob", 'f'), ("ignoreeof", 'I'), ("interactive", 'i'), ("monitor", 'm'),
    ("noexec", 'n'), ("stdin", 's'), ("xtrace", 'x'), ("verbose", 'v'), ("vi", 'V'),
    ("emacs", 'E'), ("noclobber", 'C'), ("allexport", 'a'), ("notify", 'b'), ("nounset", 'u'),
    ("privileged", 'p'), ("nolog", '0'), ("debug", '1')]

/-- The letter of a named option. -/
def optionOf? (name : List Char) : Option Char :=
  (optionNames.find? fun o => o.1 = String.ofList name).map (·.2)

/-- Whether a letter is that of an option; the shell itself takes more of them than a script. -/
def isOption (more : Bool) (c : Char) : Bool :=
  "aCefnuvxbmEIispV".toList.contains c || (more && "cl".toList.contains c)

/-- What is chosen by options. -/
inductive Choice where
  /-- An option is set or taken away. -/
  | option (letter : Char) (on : Bool)
  /-- The options are to be listed, as a table or as commands. -/
  | list (table : Bool)

/-- What options choose, up to the first that is none, and the words behind them, unless there is
one that is none. -/
abbrev Choices := List Choice × Except (List Char) (List (List Char))

/-- More choices in front of others. -/
def Choices.after (r : Choices) (front : List Choice) : Choices := (front ++ r.1, r.2)

/-- What the letters of a word choose; a name that one of them asks for is the next word. -/
def chooseLetters (more on : Bool) : List Char → List (List Char) → Choices
  | [], words => ([], .ok words)
  | 'o' :: letters, [] => (chooseLetters more on letters []).after [.list on]
  | 'o' :: letters, name :: words =>
    match optionOf? name with
    | some letter => (chooseLetters more on letters words).after [.option letter on]
    | none => ([], .error ("Illegal option -o ".toList ++ name))
  | c :: letters, words =>
    if isOption more c then (chooseLetters more on letters words).after [.option c on]
    else ([], .error ("Illegal option -".toList ++ [c]))

/-- What the words of options choose, of which there are at most `fuel`. -/
def takeOptions (more : Bool) : Nat → List (List Char) → Choices
  | 0, words => ([], .ok words)
  | fuel + 1, words =>
    match words with
    | ['-', '-'] :: rest => ([], .ok rest)
    | ['-'] :: rest => (if more then [] else [.option 'x' false, .option 'v' false], .ok rest)
    | ['+'] :: rest => takeOptions more fuel rest
    | (sign :: c :: letters) :: rest =>
      if sign ≠ '-' && sign ≠ '+' then ([], .ok words)
      else
        match chooseLetters more (sign = '-') (c :: letters) rest with
        | (chosen, .error text) => (chosen, .error text)
        | (chosen, .ok rest) => (takeOptions more fuel rest).after chosen
    | _ => ([], .ok words)

/-- The letters of options that are set. -/
def lettersOn (chosen : List Choice) : List Char :=
  chosen.filterMap fun | .option letter true => some letter | _ => none

/-- The job of the shell with its words: a script that is one of the words, a file, or the input. -/
def shellJob (p : Place) (shell : List Char) (words : List (List Char)) : Job :=
  let refused (text : List Char) : Job :=
    { name := shell, activity := .fail 2 (shell ++ ": 0: ".toList ++ text) }
  match takeOptions true (words.length + 1) words with
  | (_, .error text) => refused text
  | (chosen, .ok rest) =>
    let letters := lettersOn chosen
    let lists := chosen.filterMap fun | .list table => some table | _ => none
    let options := letters.filter fun c => c ≠ 'c' && c ≠ 's'
    if letters.contains 'c' then
      match rest with
      | text :: name :: arguments => { name, arguments, options, lists, activity := .script text }
      | [text] => { name := shell, options, lists, activity := .script text }
      | [] => refused "-c requires an argument".toList
    else if letters.contains 's' then
      { name := shell, arguments := rest, options := 's' :: options, lists, activity := .listen }
    else
      match rest with
      | [] => { name := shell, options := 's' :: options, lists, activity := .listen }
      | file :: arguments =>
        match p.content? file with
        | some text => { name := file, arguments, options, lists, activity := .file text }
        | none => refused ("cannot open ".toList ++ file ++ ": No such file".toList)

/-! ## Jobs -/

/-- How many octets of a file say how it is run. -/
def frontLength : Nat := 256

/-- Whether a character is a blank in the first line of a file. -/
def isGap (c : Char) : Bool := c = ' ' || c = '\t'

/-- The line behind the mark of a script, without blanks around it, from the octets at the beginning
of the file; a line without an end reaches as far as these. None if the name of a program could be
cut off. -/
def firstLine? (front : List Char) : Option (List Char) :=
  let line := front.takeWhile fun c => c ≠ '\n' && c ≠ '\x00'
  if front[line.length]? = some '\n' then some (Decimal.trimBy isGap line)
  else if (front.dropWhile isGap).any fun c => isGap c || c = '\x00' then
    some (Decimal.trimBy isGap front.dropLast)
  else none

/-- The program and its argument that the first line of a file names. -/
def interpreter? (octets : List UInt8) : Option (List Char × List (List Char)) :=
  let front := (letters octets).take frontLength
  match front ++ List.replicate (frontLength - front.length) '\x00' with
  | '#' :: '!' :: rest => do
    let line ← firstLine? rest
    if line.isEmpty then failure
    let program := line.takeWhile fun c => !isGap c && c ≠ '\x00'
    let argument := (line.drop program.length).dropWhile isGap
    let isNamed := ((line.drop program.length).head?.map isGap).getD false && !argument.isEmpty
    return (program, if isNamed then [argument.takeWhile (· ≠ '\x00')] else [])
  | _ => none

/-- How many files may name each other as their program, and the program itself. -/
def maxDepth : Nat := 6

/-- Why a program cannot be run in other surroundings, and the code that says so. -/
def launchReason (fault : LaunchFault) : String × Nat :=
  match fault with
  | .notPermitted => ("Permission denied", 126)
  | .notDirectory => ("Not a directory", 126)
  | .nameTooLong => ("File name too long", 126)
  | .tooDeep => ("Too many levels of symbolic links", 126)
  | _ => ("No such file or directory", 127)

/-- The job that says why a program cannot be run in other surroundings. -/
def missingJob (called program : List Char) (fault : LaunchFault) : Job :=
  let (reason, code) := launchReason fault
  let front := called ++ ": ".toList
  let more : List Char :=
    if code = 127 && program.any isSpace then
      '\n' :: front ++ "use -[v]S to pass options in shebang lines".toList
    else []
  { name := called
    activity := .fail code
      (front ++ Quotation.curved program ++ ": ".toList ++ reason.toList ++ more) }

/-- The folders for programs unless a variable says something else. -/
def plainFolders : List String := ["/bin", "/usr/bin"]

/-- The surroundings that words ask for, the variables in them, and the words of the program. None
may be named where the variables are to be written with other ends than line breaks, and one has to
be where another folder is wanted. -/
def Surrounding.ofWords (values : Variables) (called : List Char) (arguments : List (List Char)) :
    Except (List Char) (Surrounding × Variables × List (List Char)) := do
  let fuel := arguments.flatten.length + arguments.length + 1000
  let (e, words) ← Surrounding.take values called fuel {} arguments
  let (e, words) := if words.head? = some ['-'] then ({ e with alone := true }, words.drop 1)
    else (e, words)
  let (settings, words) := takeSettings words
  match e.alone, e.lost.find? fun name => name.isEmpty || name.contains '=' with
  | false, some name =>
    throw ("cannot unset ".toList ++ Quotation.curved name ++ ": Invalid argument".toList)
  | _, _ =>
    let base := if e.alone then [] else values.filter (!e.lost.contains ·.1)
    if e.mark = '\x00' && !words.isEmpty then
      throw ("cannot specify --null (-0) with command".toList ++ Surrounding.hint called)
    else if e.folder.isSome && words.isEmpty then
      throw ("must specify command with --chdir (-C)".toList ++ Surrounding.hint called)
    else return (e, settings.foldl withValue base, words)

/-- The place that surroundings lead to. -/
def Place.inside (p : Place) (e : Surrounding) : Except (List Char) Place :=
  match e.folder with
  | none => .ok p
  | some name =>
    let refuse (reason : String) : Except (List Char) Place :=
      .error ("cannot change directory to ".toList ++ Quotation.quoted name ++
        ": ".toList ++ reason.toList)
    let path? := (spelled? name).map Path.ofText
    match path?.map fun path => (path, p.files.find p.folder path) with
    | some (path, .ok .directory) => .ok { p with folder := path.resolve p.folder }
    | some (_, .ok _) => refuse FileFault.notDirectory.reason
    | some (_, .error fault) => refuse fault.reason
    | none => refuse FileFault.missing.reason

/-- The job of a program that was found at a path, with the variables that it gets. A file names its
program by a path; where one is run in other surroundings, it may also be a script. -/
def jobOf (p : Place) (values : Variables) : Nat → String × Found → List Char → List (List Char) →
    Except LaunchFault Job
  | 0, _, _, _ => .error .tooDeep
  | depth + 1, (path, found), name, arguments =>
    match found with
    | .system "sh" => .ok { shellJob p name arguments with values }
    | .system "dash" => .ok { shellJob p name arguments with values }
    | .system "env" =>
      let failing (text : List Char) : Job :=
        { name, values, activity := .fail 125 (name ++ ": ".toList ++ text) }
      match Surrounding.ofWords values name arguments with
      | .error text => .ok (failing text)
      | .ok (e, values, []) => .ok { name, values, activity := .list e.mark }
      | .ok (e, values, program :: rest) =>
        match p.inside e with
        | .error text => .ok (failing text)
        | .ok p =>
          let folders := ((valueIn? values "PATH".toList).bind spelled?).elim plainFolders foldersOf
          let found? : Except LaunchFault (String × Found) :=
            if program.isEmpty then .error .missing
            else (spelled? program).elim (.error .missing) (Place.locate { p with folders })
          match found? with
          | .error fault => .ok (missingJob name program fault)
          | .ok (path, found) =>
            match jobOf p values depth (path, found) program rest, found with
            | .ok job, _ => .ok { job with folder := some (job.folder.getD p.folder) }
            | .error .unknownFormat, .file octets =>
              .ok
                { name := lettersOf path
                  arguments := rest
                  values
                  folder := some p.folder
                  activity := .file (letters octets) }
            | .error fault, _ => .ok (missingJob name program fault)
    | .system tool => .ok { name, arguments, values, activity := .tool tool }
    | .file octets =>
      match interpreter? octets with
      | none => .error .unknownFormat
      | some (program, argument) =>
        match spelled? program with
        | none => .error .missing
        | some text =>
          match p.look text with
          | .error fault => .error fault
          | .ok found =>
            jobOf p values depth (text, found) program (argument ++ lettersOf path :: arguments)

end ProbeBench.Shell
