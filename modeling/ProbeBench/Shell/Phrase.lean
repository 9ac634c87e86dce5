import ProbeBench.Shell.Meaning

/-!
# Simple commands

A simple command is done in an order: its words become fields, its streams are led elsewhere, its
settings are made, it is shown if that is wanted, and at last it is called. A word, a document or a
value can hold what a script writes; then a process for that script is started, and what was being
done goes on when its output is known. `Machine.lead` leads streams, `Machine.makeSettings` sets
variables.

* `asWord_newlines`: of line breaks alone nothing is put in.
-/

namespace ProbeBench.Shell

/-! ## Words of commands -/

/-- The words of a redirection as texts. The text of a document stays as it is, as it is read only
when it gets its turn. -/
def Target.expanded : Target Pieces → Expanding (Target (List Char))
  | .read word => return .read (← wholeText word)
  | .write word => return .write (← wholeText word)
  | .overwrite word => return .overwrite (← wholeText word)
  | .append word => return .append (← wholeText word)
  | .both word => return .both (← wholeText word)
  | .stream word => do
    let cs ← wholeText word
    if cs ≠ ['-'] && !(isNumeral cs && cs.length = 1) then
      Expanding.halt .misled
    return .stream cs
  | .document text => return .document text

/-- The words of redirections as texts. -/
def expandedAll (rs : List (Redirect Pieces)) : Expanding (List (Redirect (List Char))) :=
  rs.mapM fun r => return ⟨r.stream, ← r.target.expanded⟩

/-- The commands that declare what is set by their arguments. -/
def declaring : List String := ["alias", "export", "local", "readonly"]

/-- Whether the fields at the beginning of a command say that it declares what is set by its
arguments. Words that ask for what the shell itself knows by a name may stand in front of it. -/
def declares (functions : List (List Char)) : (asked : Bool) → List (List Char) → Bool
  | _, [] => false
  | asked, field :: rest =>
    let name := String.ofList field
    let isOwn := asked || isSpecialName name || !functions.contains field
    let isFlag := match field with | '-' :: c :: cs => (c :: cs).all (· = 'p') | _ => false
    if asked && (isFlag || name = "--") then declares functions true rest
    else if isOwn && name = "command" then declares functions true rest
    else isOwn && declaring.contains name

/-- The fields that the words of a command make. What it declares does not fall apart. -/
def commandFields (t : FileTree) (functions : List (List Char)) (words : List Pieces) :
    Expanding (List (List Char)) :=
  words.foldlM
    (fun front word => do
      match if declares functions false front then setting? word else none with
      | some (name, value) => return front ++ [name ++ '=' :: (← valueText value)]
      | none => return front ++ (← fields t [word]))
    []

/-- The fields and the redirections of a simple command. -/
def phraseWords (t : FileTree) (functions : List (List Char)) (words : List Pieces)
    (rs : List (Redirect Pieces)) :
    Expanding (List (List Char) × List (Redirect (List Char))) := do
  let fields ← commandFields t functions words
  return (fields, ← expandedAll rs)

/-- A simple command as it is shown when it is run. -/
def Phrase.shown (phrase : Phrase) : List Char :=
  joined (phrase.made.map (fun v => v.1 ++ '=' :: v.2) ++ phrase.fields)

/-- The command takes the code of the last script inside of it. -/
def Phrase.noting (phrase : Phrase) (outputs : List (List Char × Nat)) : Phrase :=
  { phrase with code := ((outputs.getLast?).map (·.2)).getD phrase.code }

/-- Variables of the command that is being run are kept, to come back at its end. -/
def keepVariable (v : Kept) : List Task → List Task
  | [] => []
  | .values old :: rest => .values (v :: old) :: rest
  | t :: rest => t :: keepVariable v rest

namespace Machine

/-! ## Scripts inside words -/

/-- The task that goes on with something when the outputs of scripts inside of it are known. -/
def resuming (next : Pending) (outputs : List (List Char × Nat)) : Task :=
  match next with
  | .command c => .run c outputs
  | next => .resume next outputs

/-- Starts a process for a script inside of something that is to go on when the output of the script
is known. One without commands has no output. -/
def ask (m : Machine) (script : Inset) (s : Scope) (next : Pending)
    (outputs : List (List Char × Nat)) : Machine :=
  match script.command m.process.aliases with
  | .error trouble => m.abort ("Syntax error: " ++ trouble.mistake.message).toList
  | .ok .nothing => m.push [resuming next (outputs ++ [([], 0)])]
  | .ok inner =>
    let (channel, m) := m.channel []
    let streams := m.process.streams.lead 1 (some (.sink channel))
    let (number, m) := m.fork streams [.run inner []]
    let m := m.onNumber number fun p => { p with scope := s, lenient := false }
    m.push [.gather channel number [] next outputs]

/-- The line up to which the script has been read that is being run; a process that was started for
a part of it knows only about files. -/
def reached (m : Machine) : Nat :=
  (m.process.tasks.findSome? fun | .script s => some s.reached | _ => none).getD m.scope.reached

/-- Says that a stream was to be led to one that has no number. -/
def mislead (m : Machine) : Machine :=
  (m.withScope { m.scope with line := m.reached }).abort "Syntax error: Bad fd number".toList

/-- Goes on with what is made of words, which may have to ask for outputs of scripts. -/
def expandingFor {α : Type} (m : Machine) (pending : Pending) (outputs : List (List Char × Nat))
    (x : Expanding α) (next : Machine → α → Machine) : Machine :=
  match x.run ⟨m.scope, outputs.map (·.1)⟩ with
  | .ok (a, e) => next (m.withScope e.scope) a
  | .error (.asks script s) => m.ask script s pending outputs
  | .error (.failed text) => m.abort text
  | .error .misled => m.mislead

/-- Goes on with what the words of a command make. -/
def expanding {α : Type} (m : Machine) (c : Command) (outputs : List (List Char × Nat))
    (x : Expanding α) (next : Machine → α → Machine) : Machine :=
  m.expandingFor (.command c) outputs x next

/-- The output of a script as it is put into a word. -/
def asWord (cs : List Char) : List Char :=
  ((cs.filter (· ≠ '\x00')).reverse.dropWhile (· = '\n')).reverse

/-- Takes what a script inside of something has written. -/
def gather (m : Machine) (channel number : Nat) (text : List Char) (next : Pending)
    (outputs : List (List Char × Nat)) : Machine :=
  let text := text ++ m.content channel
  let m := m.leave channel []
  let again : Task := .gather channel number text next outputs
  if !m.isClosed channel then m.awaitChannel channel 0 again
  else if !m.areOver [number] then m.awaitExit [number] again
  else
    let code := m.codeOf number
    let m := ((m.mourn number).noteExits.forget [number]).tidy
    m.push [resuming next (outputs ++ [(asWord text, code)])]

/-! ## Streams -/

/-- What comes of leading streams. -/
inductive Led where
  | done (m : Machine)
  | failed (m : Machine) (reason : List Char)
  /-- It has to be known what a script in a document writes, which is the first of those that are
  left. -/
  | asks (m : Machine) (script : Inset) (scope : Scope) (left : List (Redirect (List Char)))
    (led : List Nat) (outputs : List (List Char × Nat))

/-- Leads streams elsewhere, one after the other, up to the first for which that is not possible.
Where streams are kept in order to lead where they led before, each of them is closed then, and
stays so if it cannot be led to another stream; those in `led` are kept already. The outputs are of
scripts in the first document. -/
def lead (m : Machine) (keeps : Bool) (led : List Nat) (outputs : List (List Char × Nat)) :
    List (Redirect (List Char)) → Led
  | [] => .done m
  | r :: rest =>
    let leading (m : Machine) (target : Option Endpoint) : Machine :=
      m.on fun p => { p with streams := p.streams.lead r.stream target }
    if staysPut r then m.lead keeps led [] rest
    else
      match r.target with
      | .document pieces =>
        match (wholeText pieces).run ⟨m.scope, outputs.map (·.1)⟩ with
        | .ok (text, e) =>
          let (channel, m) := (m.withScope e.scope).channel text
          (leading m (some (.source channel))).lead keeps (r.stream :: led) [] rest
        | .error (.asks script s) => .asks m script s (r :: rest) led outputs
        | .error (.failed text) => .failed m text
        | .error .misled => .failed m []
      | target =>
        match target, m.opened target with
        | .stream _, .error text =>
          .failed (if keeps && !led.contains r.stream then leading m none else m) text
        | _, .error text => .failed m text
        | _, .ok (endpoint, m) => (leading m endpoint).lead keeps (r.stream :: led) [] rest

/-- Begins a command whose streams lead elsewhere, with those that are left to be led. What is
`apart` gives none of them back. -/
def leadBody (m : Machine) (inner : Command) (apart : Bool) (rs : List (Redirect (List Char)))
    (led : List Nat) (outputs : List (List Char × Nat)) : Machine :=
  match m.lead (!apart) led outputs rs with
  | .done m => m.push [.run inner []]
  | .failed m text => ((m.accuse text).ended 2).push [.check]
  | .asks m script s left led outputs => m.ask script s (.body inner apart left led) outputs

/-! ## Simple commands -/

/-- What stands in front of commands that are shown: the text of a variable with values put in, or
as it is where that fails or takes a script. -/
def sign (m : Machine) : Machine × List Char :=
  let text := (m.scope.value? "PS4".toList).getD []
  match wholeText (documentPieces m.scope.line text) ⟨m.scope, []⟩ with
  | .ok (text, e) => (m.withScope e.scope, text)
  | .error (.failed reason) => (m.accuse reason, text)
  | .error _ => (m, text)

/-- Shows a command if the option for that is set, where messages went before its streams were led
elsewhere. -/
def showing (m : Machine) (phrase : Phrase) (old : Streams) : Machine :=
  if m.scope.has 'x' && !(phrase.fields.isEmpty && phrase.made.isEmpty) then
    let streams := m.process.streams
    let (m, front) := (m.on fun p => { p with streams := old }).sign
    (m.complain (front ++ phrase.shown)).on fun p => { p with streams }
  else m

/-- Calls what a simple command names, or ends it with the code of what was put in. -/
def callPhrase (m : Machine) (phrase : Phrase) (old : Streams) : Machine :=
  let m := m.showing phrase old
  match phrase.fields with
  | [] => m.ended phrase.code
  | ['e', 'x', 'e', 'c'] :: [] => (m.answer true).push [.check]
  | ['e', 'x', 'e', 'c'] :: name :: arguments => m.replace name arguments
  | name :: arguments => m.call name arguments

/-- Sets a variable for a simple command. What a special one sets stays set; else it is given to
programs and comes back at the end, which also holds of what takes the place of the script. -/
def setFor (m : Machine) (phrase : Phrase) (name value : List Char) : Machine :=
  let s := m.scope
  match phrase.fields with
  | [] => m.withScope (s.set name value)
  | word :: arguments =>
    let given := (s.set name value).exporting name
    if word = "exec".toList && !arguments.isEmpty then m.withScope given
    else if isSpecialName (String.ofList word) then m.withScope (s.set name value)
    else
      (m.on fun p => { p with tasks := keepVariable (s.kept name) p.tasks }).withScope
        (given.lending name)

/-- Makes settings for a simple command, one after the other, and calls what it names. The outputs
are of scripts in the first of them. -/
def makeSettings (phrase : Phrase) (old : Streams) (outputs : List (List Char × Nat)) :
    List (List Char × Pieces) → Machine → Machine
  | [], m => m.callPhrase phrase old
  | (name, value) :: rest, m =>
    let pending : Pending := .settings phrase ((name, value) :: rest) old
    m.expandingFor pending outputs (valueText value) fun m cs =>
      match m.scope.refusal? name cs with
      | some text => m.abort text
      | none =>
        let phrase := { phrase.noting outputs with made := phrase.made ++ [(name, cs)] }
        makeSettings phrase old [] rest (m.setFor phrase name cs)

/-- Leads the streams of a simple command that are left to be led, and goes on with its settings.
Where that is not possible, a special command ends the script. -/
def leadPhrase (m : Machine) (phrase : Phrase) (rs : List (Redirect (List Char)))
    (led : List Nat) (old : Streams) (outputs : List (List Char × Nat)) : Machine :=
  match m.lead true led outputs rs with
  | .done m => makeSettings (phrase.noting outputs) old [] phrase.settings m
  | .asks m script s left led more =>
    let phrase := if more.isEmpty then phrase.noting outputs else phrase
    m.ask script s (.phrase phrase left led old) more
  | .failed m text =>
    let word := String.ofList (phrase.fields.headD [])
    if word = "exec" then (m.push [.streams old]).abort text
    else if isSpecialName word then m.abort text
    else (m.accuse text).ended 2

/-- Begins a simple command whose words are known. -/
def beginPhrase (m : Machine) (phrase : Phrase) (rs : List (Redirect (List Char))) : Machine :=
  let old := m.process.streams
  let streams : List Task := if rs.isEmpty then [] else [.streams old]
  let word := String.ofList (phrase.fields.headD [])
  let lasts := phrase.fields.isEmpty || phrase.settings.isEmpty || isSpecialName word
  let values : List Task := if lasts then [] else [.values []]
  let undoing : List Task := if word = "exec" then [] else values ++ streams ++ [.check]
  (m.push undoing).leadPhrase phrase rs [] old []

end Machine

theorem asWord_newlines (n : Nat) : Machine.asWord (List.replicate n '\n') = [] := by
  simp [Machine.asWord]

end ProbeBench.Shell
