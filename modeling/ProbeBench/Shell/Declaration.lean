import ProbeBench.Shell.Lookup
import ProbeBench.Shell.Signal

/-!
# What a script declares

Variables that are given to programs, that stay as they are or that belong to a function; words that
stand for texts; options and arguments; the permissions of new files. Each command that declares
something also writes what is declared, in a form that a script can read.

* `listed_nil`: where nothing is declared nothing is written.
-/

namespace ProbeBench.Shell

/-- A name and the value behind an equals sign, if there is one. -/
def splitSetting (cs : List Char) : List Char × Option (List Char) :=
  let name := cs.takeWhile (· ≠ '=')
  (name, if name.length < cs.length then some (cs.drop (name.length + 1)) else none)

/-- Variables in the order of their names, each with the words in front of it that set it. -/
def listed (front : String) (values : List (List Char × Option (List Char))) : List Char :=
  let sorted := values.mergeSort fun a b => !decide (b.1 < a.1)
  sorted.flatMap fun v =>
    let value := match v.2 with | some cs => '=' :: quoted cs | none => []
    front.toList ++ v.1 ++ value ++ ['\n']

theorem listed_nil (front : String) : listed front [] = [] := by simp [listed]

/-- A name or a name with a value, as a script can write it. -/
def settingLine (setting : List Char × List Char) : List Char :=
  setting.1 ++ '=' :: quoted setting.2 ++ ['\n']

/-- The place of a name among `count` others in which it is listed. -/
def slotOf (count : Nat) (name : List Char) : Nat :=
  (name.foldl (fun n c => n + c.toNat) ((name.headD '\x00').toNat * 16)) % count

/-- How many places there are for words that stand for texts. -/
def aliasSlots : Nat := 39

/-- How many places there are for variables that programs get. -/
def variableSlots : Nat := 39

/-- How many places there are for programs that were found. -/
def programSlots : Nat := 31

/-! ## Permissions -/

/-- A number in at least four octal digits. -/
def octalText (n : Nat) : List Char :=
  let ds := Nat.toDigits 8 n
  List.replicate (4 - ds.length) '0' ++ ds

/-- The permissions that are left by a mask, for each kind of user. -/
def permissionText (mask : Nat) : List Char :=
  let kind (letter : Char) (shift : Nat) : List Char :=
    let left := 7 - mask / shift % 8
    let bit (n : Nat) (c : Char) : List Char := if left / n % 2 = 1 then [c] else []
    letter :: '=' :: bit 4 'r' ++ bit 2 'w' ++ bit 1 'x'
  joinedBy [','] [kind 'u' 64, kind 'g' 8, kind 'o' 1]

/-- What permissions are changed to: those of some kinds of users get others, lose them, or have no
others. -/
def changedPermissions (old new : Nat) (kinds : List Char) (op : Char) (letters : List Char) :
    Nat :=
  let shifts := [('u', 64), ('g', 8), ('o', 1)]
  let bits (n shift : Nat) : List Nat := [n / shift / 4 % 2, n / shift / 2 % 2, n / shift % 2]
  let given (k : Nat) : Bool :=
    letters.any fun c =>
      match c, k with
      | 'r', 0 | 'w', 1 | 'x', 2 => true
      | 'X', 2 => decide (old % 2 = 1 ∨ old / 8 % 2 = 1 ∨ old / 64 % 2 = 1)
      | _, _ =>
        match shifts.find? fun s => s.1 = c with
        | some s => (bits old s.2)[k]? = some 1
        | none => false
  let bit (changes : Bool) (shift k : Nat) : Nat :=
    let was := ((bits new shift)[k]?).getD 0
    if !changes then was
    else if op = '=' then if given k then 1 else 0
    else if given k then (if op = '+' then 1 else 0)
    else was
  shifts.foldl
    (fun n s =>
      let changes := kinds.isEmpty || kinds.contains 'a' || kinds.contains s.1
      n + s.2 * (4 * bit changes s.2 0 + 2 * bit changes s.2 1 + bit changes s.2 2))
    0

/-- The permissions that changes written in letters give: kinds of users, a sign and letters, with
commas between them. None if they are not written like that. -/
def permissions? (old : Nat) : Nat → List Char → Nat → List Char → Option Nat
  | 0, _, _, _ => none
  | _ + 1, _, new, [] => some new
  | fuel + 1, before, new, cs =>
    let (front, rest) := cs.span fun c => "augo".toList.contains c
    let kinds := before ++ front
    match rest with
    | [] => if front.isEmpty then some new else none
    | op :: rest =>
      if !("=+-".toList.contains op) then none
      else
        let (letters, rest) := rest.span fun c => "rwxugoXs".toList.contains c
        let new := changedPermissions old new kinds op letters
        match rest with
        | [] => some new
        | ',' :: rest => permissions? old fuel [] new rest
        | _ => permissions? old fuel (if kinds.isEmpty then ['a'] else kinds) new rest

namespace Machine

/-! ## Variables -/

/-- Declares variables, some with values, up to one that cannot be declared. What is no name may get
a value where that is not looked at before the end of a function. -/
def declareEach (m : Machine) (ends : Bool) (command : String) (mark : Scope → List Char → Scope) :
    List (List Char) → Machine
  | [] => m.answer true
  | a :: rest =>
    let (name, value) := splitSetting a
    let wrong (text : List Char) : Machine := m.mistake ends (command.toList ++ ": ".toList ++ text)
    if !isName name && (value.isNone || command ≠ "local") then
      wrong (name ++ ": bad variable name".toList)
    else
      match value.bind (m.scope.refusal? name) with
      | some text => wrong text
      | none =>
        let s := match value with | some cs => m.scope.set name cs | none => m.scope
        (m.withScope (mark s name)).declareEach ends command mark rest

/-- Declares variables, some with values, or writes those that are declared. -/
def declare (m : Machine) (ends : Bool) (command : String) (names : List (List Char))
    (mark : Scope → List Char → Scope) (arguments : List (List Char)) : Machine :=
  match takeFlags ['p'] arguments with
  | .error text => m.mistake ends (command.toList ++ ": ".toList ++ text)
  | .ok (flags, words) =>
    if words.isEmpty || hasFlag flags 'p' then
      m.write command (listed (command ++ " ") (names.map fun name => (name, m.scope.value? name)))
    else m.declareEach ends command mark words

/-- Declares variables that programs get. -/
def exportNames (m : Machine) (ends : Bool) (arguments : List (List Char)) : Machine :=
  m.declare ends "export" m.scope.exported Scope.exporting arguments

/-- Declares variables that stay as they are. -/
def fixNames (m : Machine) (ends : Bool) (arguments : List (List Char)) : Machine :=
  m.declare ends "readonly" m.scope.fixed Scope.fixing arguments

/-- Tasks of which the end of the function gives back more variables. -/
def keepValues (old : List Kept) : List Task → List Task
  | [] => []
  | .leave arguments place values :: rest => .leave arguments place (old ++ values) :: rest
  | t :: rest => t :: keepValues old rest

/-- Declares variables that lose their values when the function ends; so do the options, for which a
dash stands. -/
def declareLocal (m : Machine) (ends : Bool) (arguments : List (List Char)) : Machine :=
  let s := m.scope
  let old := arguments.map fun a =>
    if a = ['-'] then { s.kept a with value := some s.options } else s.kept (splitSetting a).1
  if m.process.tasks.any Task.isLeave then
    let m := m.on fun p => { p with tasks := keepValues old p.tasks }
    m.declareEach ends "local" Scope.lending (arguments.filter (· ≠ ['-']))
  else m.mistake ends "local: not in a function".toList

/-- Leaves a function: arguments and variables are again what they were. What got a value and is no
name has none that it could have again. -/
def leaveCall (m : Machine) (arguments : List (List Char)) (place : OptionPlace)
    (values : List Kept) : Machine :=
  let m := m.on (·.tidyUp (.leave arguments place values))
  match values.find? fun v => v.value.isNone && !isName v.name with
  | some v => m.abort (v.name ++ ": bad variable name".toList)
  | none => m

/-- Takes variables away, up to one that stays. The name of one ends at an equals sign. -/
def unsetEach (m : Machine) (ends : Bool) : List (List Char) → Machine
  | [] => m.answer true
  | word :: rest =>
    let name := (splitSetting word).1
    if !isName name then m.mistake ends ("unset: ".toList ++ name ++ ": bad variable name".toList)
    else
      match m.scope.refusal? name [] with
      | some text => m.mistake ends ("unset: ".toList ++ text)
      | none => (m.withScope (m.scope.unset name)).unsetEach ends rest

/-- Takes variables or functions away. -/
def unset (m : Machine) (ends : Bool) (arguments : List (List Char)) : Machine :=
  match takeFlags "vf".toList arguments with
  | .error text => m.mistake ends ("unset: ".toList ++ text)
  | .ok (flags, names) =>
    if (flags.getLast?.map (·.letter)) = some 'f' then
      let functions := m.process.functions.filter fun f => !names.contains f.1
      (m.on fun p => { p with functions }).answer true
    else m.unsetEach ends names

/-! ## Words that stand for texts -/

/-- The words that stand for texts, in the order in which they are listed. -/
def sortedAliases (m : Machine) : List (List Char × List Char) :=
  m.process.aliases.mergeSort fun a b => slotOf aliasSlots a.1 ≤ slotOf aliasSlots b.1

/-- Lets words stand for texts, or writes what they stand for. -/
def setAliases (m : Machine) (arguments : List (List Char)) : Machine :=
  if arguments.isEmpty then m.write "alias" (m.sortedAliases.flatMap settingLine)
  else
    arguments.foldl
      (fun m word =>
        match word, splitSetting (word.drop 1) with
        | c :: _, (rest, some value) =>
          let name := c :: rest
          m.on fun p =>
            let isOld := p.aliases.any (·.1 = name)
            { p with
              aliases :=
                if isOld then p.aliases.map fun a => if a.1 = name then (name, value) else a
                else p.aliases ++ [(name, value)] }
        | _, _ =>
          match m.process.aliases.find? fun a => a.1 = word with
          | some a => (m.writeTo 1 (settingLine a)).1
          | none =>
            (m.complain ("alias: ".toList ++ word ++ " not found".toList)).answer false)
      (m.answer true)

/-- Lets words stand for themselves again. -/
def unsetAliases (m : Machine) (ends : Bool) (arguments : List (List Char)) : Machine :=
  match arguments, takeFlags [] arguments with
  | ('-' :: 'a' :: _) :: _, _ => (m.on fun p => { p with aliases := [] }).answer true
  | _, .error text => m.mistake ends ("unalias: ".toList ++ text)
  | _, .ok (_, words) =>
    words.foldl
      (fun m word =>
        if m.process.aliases.any (·.1 = word) then
          m.on fun p => { p with aliases := p.aliases.filter (·.1 ≠ word) }
        else (m.complain ("unalias: ".toList ++ word ++ " not found".toList)).answer false)
      (m.answer true)

/-! ## Options and arguments -/

/-- The options, as a table or as commands that set them. -/
def optionLines (s : Scope) (table : Bool) : List Char :=
  let lines := optionNames.flatMap fun o =>
    let name := o.1.toList
    if table then
      name ++ List.replicate (16 - name.length) ' ' ++
        (if s.has o.2 then "on\n" else "off\n").toList
    else (if s.has o.2 then "set -o " else "set +o ").toList ++ name ++ ['\n']
  if table then "Current option settings\n".toList ++ lines else lines

/-- Does what is chosen by an option. -/
def choose (m : Machine) : Choice → Machine
  | .option letter on => m.withScope (m.scope.choose letter on)
  | .list table => m.write "set" (optionLines m.scope table)

/-- Sets options and arguments, or writes variables or options. -/
def setOptions (m : Machine) (ends : Bool) (arguments : List (List Char)) : Machine :=
  match arguments with
  | [] => m.write "set" (listed "" (m.scope.values.map fun v => (v.1, some v.2)))
  | _ =>
    let (chosen, rest?) := takeOptions false (arguments.length + 1) arguments
    match rest? with
    | .error text =>
      let m := chosen.foldl choose (m.report ("set: ".toList ++ text))
      if ends then m.exit 2 else m.ended 2
    | .ok rest =>
      let m := chosen.foldl choose (m.answer true)
      let front := arguments.take (arguments.length - rest.length)
      let keeps := rest.isEmpty && front.getLast? ≠ some ['-', '-']
      if keeps then m else m.withScope (m.scope.given rest)

/-- Reads the next option of the arguments, or of words. -/
def takeOption (m : Machine) (ends : Bool) (arguments : List (List Char)) : Machine :=
  match arguments with
  | known :: word :: words =>
    let s := m.scope
    let name := (splitSetting word).1
    let found := s.optionPlace.next known (if words.isEmpty then s.arguments else words)
    let m := match found.complaint with | some text => m.complain text | none => m
    let values : List (List Char × Option (List Char)) :=
      (if found.keepsText then [] else [("OPTARG".toList, found.text)]) ++
        [("OPTIND".toList, some (decimal found.place.word)), (name, some [found.letter])]
    let reason? (v : List Char × Option (List Char)) : Option (List Char) :=
      if isName v.1 then s.refusal? v.1 (v.2.getD [])
      else some (v.1 ++ ": bad variable name".toList)
    let free := values.takeWhile fun v => (reason? v).isNone
    let s := free.foldl (fun s v => s.put v.1 v.2) s
    match (values.drop free.length).head?.bind reason? with
    | some text =>
      (m.withScope { s with optionPlace := {} }).mistake ends ("getopts: ".toList ++ text)
    | none => (m.withScope { s with optionPlace := found.place }).answer !found.isLast
  | _ => m.mistake ends "getopts: Usage: getopts optstring var [arg...]".toList

/-! ## Permissions of new files -/

/-- Sets the permissions that new files do not get, or writes them. -/
def setMask (m : Machine) (ends : Bool) (arguments : List (List Char)) : Machine :=
  match takeFlags ['S'] arguments with
  | .error text => m.mistake ends ("umask: ".toList ++ text)
  | .ok (flags, []) =>
    let mask := m.scope.mask
    m.write "umask" ((if hasFlag flags 'S' then permissionText mask else octalText mask) ++ ['\n'])
  | .ok (_, word :: _) =>
    let set (mask : Nat) : Machine := (m.withScope { m.scope with mask }).answer true
    if (word.head?.map Char.isDigit).getD false then
      if word.all fun c => '0' ≤ c && c ≤ '7' then
        set (word.foldl (fun n c => n * 8 + (c.toNat - 48)) 0 % 512)
      else m.mistake ends ("umask: Illegal number: ".toList ++ word)
    else
      let old := 511 - m.scope.mask
      match permissions? old (word.length + 1) [] old word with
      | some new => set (511 - new)
      | none => m.mistake ends ("umask: Illegal mode: ".toList ++ word)

end Machine

end ProbeBench.Shell
