import ProbeBench.Config.Check
import ProbeBench.Config.File

/-!
# Options

The words of a command line before the double dash: options, each with its value behind it or after
an equals sign, and files, in any order. Of an option given more than once the last value counts,
but folders add up. `Options.read` reads the words; `Options.resolve` puts what they say over the
configuration file and checks the result.
-/

namespace ProbeBench.CommandLine

/-- What the words before the double dash say. -/
structure Options where
  files : List Path := []
  language : Option String := none
  workspace : List Path := []
  /-- Whether definitions are asked for. -/
  jump : Option Bool := none
  format : Option String := none
  /-- Seconds. -/
  timeout : Option Float := none
  onError : Option String := none
  verbose : Option Bool := none
  config : Option Path := none

/-- An option. -/
inductive Name where
  | language
  | workspace
  | jump (on : Bool)
  | format
  | timeout
  | onError
  | verbose (on : Bool)
  | config
  | help
  deriving DecidableEq, Repr

/-- The options by their words. -/
def names : List (String × Name) :=
  [("--language", .language), ("--workspace", .workspace), ("--jump", .jump true),
    ("--no-jump", .jump false), ("--format", .format), ("--timeout", .timeout),
    ("--on-error", .onError), ("--verbose", .verbose true), ("--quiet", .verbose false),
    ("--config", .config), ("--help", .help)]

/-- Whether an option takes a value. -/
def Name.takesValue : Name → Bool
  | .jump _ => false
  | .verbose _ => false
  | .help => false
  | _ => true

/-- What one word of the command line is. -/
inductive Word where
  | file (text : String)
  /-- An option that takes no value. -/
  | switch (name : Name)
  | valued (name : Name) (value : String)
  /-- An option whose value is the next word. -/
  | pending (name : Name)
  /-- No option is written like this. -/
  | wrong
  deriving DecidableEq, Repr

/-- The text before the first equals sign and the one behind it, if there is one. -/
def splitEquals (cs : List Char) : List Char × Option (List Char) :=
  let before := cs.takeWhile (· ≠ '=')
  match cs.drop before.length with
  | [] => (before, none)
  | _ :: value => (before, some value)

/-- An option with what stands behind its equals sign. -/
def Word.ofName (name : Name) (value : Option String) : Word :=
  match name.takesValue, value with
  | true, some v => .valued name v
  | true, none => .pending name
  | false, some _ => .wrong
  | false, none => .switch name

/-- What a word is. A dash alone, like a word without one, is a file; the short option for help may
be repeated behind one dash. -/
def Word.ofText (text : String) : Word :=
  match text.toList with
  | '-' :: '-' :: rest =>
    let (name, value) := splitEquals rest
    match names.find? fun n => n.1 = "--" ++ String.ofList name with
    | some (_, name) => .ofName name (value.map String.ofList)
    | none => .wrong
  | '-' :: c :: rest => if (c :: rest).all (· = 'h') then .switch .help else .wrong
  | _ => .file text

/-- The words in order, each value with its option; none if a word is wrong or a value is
missing. -/
def group? : List String → Option (List Word)
  | [] => some []
  | [text] =>
    match Word.ofText text with
    | .wrong => none
    | .pending _ => none
    | word => some [word]
  | text :: next :: rest =>
    match Word.ofText text with
    | .wrong => none
    | .pending name => (group? rest).map (Word.valued name next :: ·)
    | word => (group? (next :: rest)).map (word :: ·)

/-- The values of an option, in order. -/
def valuesOf (words : List Word) (name : Name) : List String :=
  words.filterMap fun
    | .valued other value => if other = name then some value else none
    | _ => none

/-- The last value of an option. -/
def lastOf? (words : List Word) (name : Name) : Option String :=
  (valuesOf words name).getLast?

/-- What the words before the double dash ask for. -/
inductive Reading where
  | options (o : Options)
  | help
  /-- The words cannot be read. -/
  | wrong

/-- The last time limit that is given; the outer option is none if that is no number. -/
def timeoutOf? (words : List Word) : Option (Option Float) :=
  match lastOf? words .timeout with
  | none => some none
  | some text => (Decimal.readLoose? text.toList).map some

/-- The options that words give, with a time limit. -/
def Options.ofWords (words : List Word) (timeout : Option Float) : Options where
  files := words.filterMap fun | .file text => some (Path.ofText text) | _ => none
  language := lastOf? words .language
  workspace := (valuesOf words .workspace).map Path.ofText
  jump := (words.filterMap fun | .switch (.jump on) => some on | _ => none).getLast?
  format := lastOf? words .format
  timeout := timeout
  onError := lastOf? words .onError
  verbose := (words.filterMap fun | .switch (.verbose on) => some on | _ => none).getLast?
  config := (lastOf? words .config).map Path.ofText

/-- The paths that options name. -/
def Options.paths (o : Options) : List Path := o.files ++ o.workspace ++ o.config.toList

/-- Reads the words before the double dash. Help goes before a value that cannot be read, but not
before a word that is wrong; no path can be read that holds a null character. -/
def Options.read (words : List String) : Reading :=
  match group? words with
  | none => .wrong
  | some words =>
    if words.contains (.switch .help) then .help
    else
      match timeoutOf? words with
      | none => .wrong
      | some timeout =>
        let o := Options.ofWords words timeout
        if o.paths.any Path.holdsNull then .wrong else .options o

/-- A setting that may be missing. -/
def given {α : Type} (setting : α → Config.Setting) (value : Option α) : Config.Setting :=
  (value.map setting).getD .null

/-- Paths as a setting. -/
def pathList (paths : List Path) : Config.Setting :=
  .list (paths.map fun p => .text p.text)

/-- What options and a command say, by the names of the fields. -/
def Options.values (o : Options) (command : List String) : Config.Table :=
  [("files", pathList o.files),
    ("command", .list (command.map .text)),
    ("language", given .text o.language),
    ("workspace_folders", if o.workspace.isEmpty then .null else pathList o.workspace),
    ("mode", given Config.modeOfJump o.jump),
    ("format", given .text o.format),
    ("request_timeout", given .float o.timeout),
    ("on_error", given .text o.onError),
    ("verbose", given .bool o.verbose)]

/-- Where the configuration file is. -/
def Options.source (o : Options) (cwd : Path) : Config.Source :=
  match o.config with
  | some path => .named path
  | none => .directory cwd

/-- The configuration that options and a command make with the configuration file. -/
def Options.resolve (o : Options) (tree : FileTree) (cwd : Path) (command : List String) :
    Except Failure Config := do
  let defaults ← Config.defaults (← Config.loadSettings tree cwd (o.source cwd))
  Config.check tree cwd (Config.merge (o.values command) defaults)

/-- The words before the first double dash and those behind it. -/
def splitCommand (words : List String) : Except Failure (List String × List String) :=
  if words.contains "--" then
    let before := words.takeWhile (· ≠ "--")
    .ok (before, words.drop (before.length + 1))
  else .error (.config .noSeparator)

theorem takeWhile_ne_append (before command : List String) (h : "--" ∉ before) :
    (before ++ "--" :: command).takeWhile (· ≠ "--") = before := by
  induction before with
  | nil => simp
  | cons w rest ih =>
    simp only [List.mem_cons, not_or] at h
    have hw : ¬ w = "--" := fun e => h.1 e.symm
    simp only [List.cons_append, List.takeWhile, ne_eq, hw, not_false_eq_true, decide_true]
    rw [ih h.2]

theorem splitCommand_append (before command : List String) (h : "--" ∉ before) :
    splitCommand (before ++ "--" :: command) = .ok (before, command) := by
  unfold splitCommand
  rw [takeWhile_ne_append before command h]
  simp

end ProbeBench.CommandLine
