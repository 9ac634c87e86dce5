import ProbeBench.Shell.Copying
import ProbeBench.Shell.Quotation

/-!
# Running a program in other surroundings

Every program gets variables, in an order. A tool of the system runs another program with others of
them, or writes those that there are; its options say which are left and where the program runs.
One of them is a line that is taken apart into words, with values of variables put in.

* `withValue_value`: a variable has the value that it was given last.
* `withValue_fresh`: a new variable comes behind all others.
-/

namespace ProbeBench.Shell

/-- The variables that a program gets, in their order. -/
abbrev Variables := List (List Char × List Char)

/-- Variables with another value for one of them, or with one more. -/
def withValue (values : Variables) (v : List Char × List Char) : Variables :=
  if values.any (·.1 = v.1) then values.map fun w => if w.1 = v.1 then v else w
  else values ++ [v]

/-- The value of a variable. -/
def valueIn? (values : Variables) (name : List Char) : Option (List Char) :=
  (values.find? fun v => v.1 = name).map (·.2)

theorem withValue_fresh (values : Variables) (v : List Char × List Char)
    (h : ∀ w ∈ values, w.1 ≠ v.1) : withValue values v = values ++ [v] := by
  simp [withValue, List.any_eq_true, show ¬ ∃ w ∈ values, w.1 = v.1 from fun ⟨w, hw, e⟩ => h w hw e]

theorem valueIn?_map (values : Variables) (v : List Char × List Char)
    (h : values.any (·.1 = v.1) = true) :
    valueIn? (values.map fun w => if w.1 = v.1 then v else w) v.1 = some v.2 := by
  induction values with
  | nil => simp at h
  | cons w rest ih =>
    by_cases e : w.1 = v.1
    · simp [valueIn?, e]
    · have later : rest.any (·.1 = v.1) = true := by simpa [e] using h
      simpa [valueIn?, e] using ih later

theorem withValue_value (values : Variables) (v : List Char × List Char) :
    valueIn? (withValue values v) v.1 = some v.2 := by
  by_cases h : values.any (·.1 = v.1) = true
  · rw [withValue, if_pos h]
    exact valueIn?_map values v h
  · rw [withValue, if_neg h]
    have none : values.find? (fun w => w.1 = v.1) = none := by
      rw [List.find?_eq_none]
      exact fun w hw e => h (List.any_eq_true.2 ⟨w, hw, e⟩)
    simp [valueIn?, none]

/-- The settings in front of a command, and the words from its program on. -/
def takeSettings : List (List Char) → Variables × List (List Char)
  | [] => ([], [])
  | word :: rest =>
    let name := word.takeWhile (· ≠ '=')
    if name.length < word.length then
      let more := takeSettings rest
      ((name, word.drop (name.length + 1)) :: more.1, more.2)
    else ([], word :: rest)

/-! ## A line of words -/

/-- Words with more text, which begins another word or belongs to the last one. -/
def withText (words : List (List Char)) (begins : Bool) (text : List Char) : List (List Char) :=
  if begins then words ++ [text] else words.dropLast ++ [words.getLastD [] ++ text]

/-- The name of a variable in braces at the beginning of a text, and the text behind it. -/
def bracedName? : List Char → Option (List Char × List Char)
  | '\x7b' :: rest =>
    let name := rest.takeWhile fun c => c.isAlphanum || c = '_'
    match rest.drop name.length with
    | '\x7d' :: behind => if isName name then some (name, behind) else none
    | _ => none
  | _ => none

/-- What an escape stands for between quotes or outside of them. -/
inductive Escape where
  | text (c : Char)
  /-- Another word begins. -/
  | gap
  /-- The line ends. -/
  | stop
  | wrong (reason : String)

/-- What a character behind a backslash makes of it. -/
def Escape.of (isDouble : Bool) (c : Char) : Escape :=
  match c with
  | 'f' => .text '\x0c'
  | 'n' => .text '\n'
  | 'r' => .text '\r'
  | 't' => .text '\t'
  | 'v' => .text '\x0b'
  | '_' => if isDouble then .text ' ' else .gap
  | 'c' =>
    if isDouble then .wrong "'\\c' must not appear in double-quoted -S string" else .stop
  | c =>
    if "\"#$'\\".toList.contains c then .text c
    else .wrong ("invalid sequence '\\" ++ String.ofList [c] ++ "' in -S")

/-- The words of a line of at most `fuel` characters, behind those that are there already. A quote
may be open, and the next text may begin another word. -/
def lineWords (values : Variables) : (fuel : Nat) → (quote : Option Char) → (begins : Bool) →
    (words : List (List Char)) → List Char → Except (List Char) (List (List Char))
  | 0, _, _, words, _ => .ok words
  | _ + 1, quote, _, words, [] =>
    if quote.isSome then .error "no terminating quote in -S string".toList else .ok words
  | fuel + 1, quote, begins, words, c :: rest =>
    let with' (text : List Char) (rest : List Char) : Except (List Char) (List (List Char)) :=
      lineWords values fuel quote false (withText words begins text) rest
    let isSingle := quote = some '\x27'
    let isDouble := quote = some '"'
    let isEscaped := !isSingle || rest.head? = some '\\' || rest.head? = some '\x27'
    if (c = '\x27' && !isDouble) || (c = '"' && !isSingle) then
      lineWords values fuel (if quote.isSome then none else some c) false
        (withText words begins []) rest
    else if isSpace c && quote.isNone then lineWords values fuel quote true words rest
    else if c = '#' && begins && quote.isNone then .ok words
    else if c = '\\' && isEscaped then
      match rest with
      | [] => .error "invalid backslash at end of string in -S".toList
      | c :: rest =>
        match Escape.of isDouble c with
        | .text c => with' [c] rest
        | .gap => lineWords values fuel quote true words rest
        | .stop => .ok words
        | .wrong reason => .error reason.toList
    else if c = '$' && !isSingle then
      match bracedName? rest with
      | none =>
        let text := "only $\x7bVARNAME\x7d expansion is supported, error at: "
        .error (text.toList ++ c :: rest)
      | some (name, rest) =>
        match valueIn? values name with
        | some value => with' value rest
        | none => lineWords values fuel quote begins words rest
    else with' [c] rest

/-! ## Options -/

/-- In what surroundings a program runs. -/
structure Surrounding where
  /-- No variables are given on. -/
  alone : Bool := false
  /-- The names of variables that are not given on. -/
  lost : List (List Char) := []
  /-- The folder in which it runs. -/
  folder : Option (List Char) := none
  /-- What ends each variable that is written. -/
  mark : Char := '\n'

namespace Surrounding

/-- The names of the options, each with its letter and whether it takes a text. -/
def optionNames : List (String × Char × Bool) :=
  [("ignore-environment", 'i', false), ("null", '0', false), ("unset", 'u', true),
    ("chdir", 'C', true), ("debug", 'v', false), ("split-string", 'S', true)]

/-- An option of a word: its letter, whether it takes a text, the text in the word, and what it is
called in messages. -/
structure Item where
  letter : Char
  takes : Bool
  text : Option (List Char)
  shown : List Char

/-- The option at the beginning of a word. Behind a letter that takes no text another one stands. -/
def Item.first? (word : List Char) : Except (List Char) (Option Item) :=
  match word with
  | '-' :: '-' :: text => do
    let names := optionNames.map fun o => (o.1, o.2.2)
    let (name, value) ← (namedOption names text).mapError (·.toList)
    let shown := "option '--".toList ++ name.toList ++ "' requires an argument".toList
    return (optionNames.find? (·.1 = name)).map fun o => ⟨o.2.1, o.2.2, value, shown⟩
  | '-' :: letter :: letters =>
    match optionNames.find? (·.2.1 = letter) with
    | none => throw ("invalid option -- '".toList ++ [letter, '\x27'])
    | some (_, _, takes) =>
      let shown := "option requires an argument -- '".toList ++ [letter, '\x27']
      return some ⟨letter, takes, if letters.isEmpty then none else some letters, shown⟩
  | _ => return none

/-- What an option with its text makes of the surroundings. -/
def choose (e : Surrounding) (letter : Char) (text : List Char) : Surrounding :=
  match letter with
  | 'i' => { e with alone := true }
  | '0' => { e with mark := '\x00' }
  | 'u' => { e with lost := e.lost ++ [text] }
  | 'C' => { e with folder := some text }
  | _ => e

/-- What tells how to ask for help. -/
def hint (name : List Char) : List Char :=
  "\nTry '".toList ++ name ++ " --help' for more information.".toList

/-- What an option with a text makes of the surroundings and of the words behind it. -/
def withText (values : Variables) (e : Surrounding) (letter : Char) (text : List Char)
    (rest : List (List Char)) : Except (List Char) (Surrounding × List (List Char)) :=
  if letter = 'S' then do
    let words ← lineWords values (text.length + 1) none true [] text
    return (e, words ++ rest)
  else .ok (e.choose letter text, rest)

/-- Reads the options in front of words, in at most `fuel` steps. The tool was called by a name. -/
def take (values : Variables) (called : List Char) :
    Nat → Surrounding → List (List Char) → Except (List Char) (Surrounding × List (List Char))
  | 0, e, words => .ok (e, words)
  | _ + 1, e, [] => .ok (e, [])
  | fuel + 1, e, word :: rest =>
    if word = ['-', '-'] then .ok (e, rest)
    else do
      match ← (Item.first? word).mapError (· ++ hint called) with
      | none => .ok (e, word :: rest)
      | some item =>
        match item.takes, item.text, rest with
        | true, none, [] => throw (item.shown ++ hint called)
        | true, none, text :: rest =>
          let (e, rest) ← withText values e item.letter text rest
          take values called fuel e rest
        | true, some text, rest =>
          let (e, rest) ← withText values e item.letter text rest
          take values called fuel e rest
        | false, none, rest => take values called fuel (e.choose item.letter []) rest
        | false, some ('-' :: _), _ => throw ("invalid option -- '-'".toList ++ hint called)
        | false, some letters, rest =>
          take values called fuel (e.choose item.letter []) (('-' :: letters) :: rest)

end Surrounding

end ProbeBench.Shell
