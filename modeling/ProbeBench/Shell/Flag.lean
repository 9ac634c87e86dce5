import ProbeBench.Shell.Scope

/-!
# Options in front of arguments

A word that begins with a dash holds letters of options; two dashes end them, or stand in front of
the name of an option. `takeFlags` reads the options of a command, all at once. A script reads its
own one by one: `OptionPlace.next` finds the next one and where to go on.

* `takeFlags_nil`: where there are no words there are no options.
-/

namespace ProbeBench.Shell

/-- An option: its letter, and the text that belongs to it. -/
structure Flag where
  letter : Char
  text : List Char := []

/-- Whether a letter is an option of those that a text lists, and whether it takes a text: it does
if a colon follows it there. -/
def kindOf? : List Char → Char → Option Bool
  | [], _ => none
  | c :: ':' :: rest, letter => if c = letter then some true else kindOf? rest letter
  | c :: rest, letter => if c = letter then some false else kindOf? rest letter

/-- The options that the letters of a word are, and the letter whose text is the next word. -/
def flagsOf (known : List Char) : List Char → Except (List Char) (List Flag × Option Char)
  | [] => .ok ([], none)
  | c :: rest =>
    match kindOf? known c with
    | none => .error ("Illegal option -".toList ++ [c])
    | some false => do
      let (flags, open?) ← flagsOf known rest
      return (⟨c, []⟩ :: flags, open?)
    | some true => if rest.isEmpty then .ok ([], some c) else .ok ([⟨c, rest⟩], none)

/-- The letters of options in a word; two dashes hold none. -/
def optionLetters? : List Char → Option (List Char)
  | ['-', '-'] => some []
  | '-' :: c :: cs => some (c :: cs)
  | _ => none

/-- The options in front of words, and the words behind them. -/
def takeFlags (known : List Char) :
    List (List Char) → Except (List Char) (List Flag × List (List Char))
  | [] => .ok ([], [])
  | [word] =>
    match optionLetters? word with
    | none => .ok ([], [word])
    | some letters => do
      let (flags, open?) ← flagsOf known letters
      match open? with
      | none => return (flags, [])
      | some letter => throw ("No arg for -".toList ++ letter :: " option".toList)
  | word :: next :: rest =>
    match optionLetters? word with
    | none => .ok ([], word :: next :: rest)
    | some [] => .ok ([], next :: rest)
    | some letters => do
      let (flags, open?) ← flagsOf known letters
      match open? with
      | none => do
        let (more, rest) ← takeFlags known (next :: rest)
        return (flags ++ more, rest)
      | some letter => do
        let (more, rest) ← takeFlags known rest
        return (flags ++ ⟨letter, next⟩ :: more, rest)

/-- Whether options hold a letter. -/
def hasFlag (flags : List Flag) (letter : Char) : Bool := flags.any (·.letter = letter)

/-- The option that a text behind two dashes names, by its name or the beginning of one, and the
value behind an equals sign. The names come with whether they take a value. -/
def namedOption (known : List (String × Bool)) (text : List Char) :
    Except String (String × Option (List Char)) :=
  let name := String.ofList (text.takeWhile (· ≠ '='))
  let value := text.drop name.length
  let word := "option '--" ++ String.ofList text ++ "'"
  let chosen (o : String × Bool) : Except String (String × Option (List Char)) :=
    if value.isEmpty then .ok (o.1, none)
    else if o.2 then .ok (o.1, some (value.drop 1))
    else .error ("option '--" ++ o.1 ++ "' doesn't allow an argument")
  match known.find? (·.1 = name), known.filter (·.1.startsWith name) with
  | some o, _ => chosen o
  | none, [o] => chosen o
  | none, [] => .error ("unrecognized " ++ word)
  | none, several =>
    let names := String.join (several.map fun o => " '--" ++ o.1 ++ "'")
    .error (word ++ " is ambiguous; possibilities:" ++ names)

theorem takeFlags_nil (known : List Char) : takeFlags known [] = .ok ([], []) := rfl

/-! ## One by one -/

/-- What reading one more option gives. -/
structure OptionFound where
  /-- The letter; a question mark for what is none, and where there are no more. -/
  letter : Char := '?'
  /-- The text that belongs to it; none if there is no such text any more. -/
  text : Option (List Char) := none
  /-- The text that belonged to the option before is kept. -/
  keepsText : Bool := false
  complaint : Option (List Char) := none
  /-- There are no more options. -/
  isLast : Bool := false
  place : OptionPlace

/-- Reads an option at the beginning of letters; the word behind them has an index. Where the known
letters begin with a colon, what is wrong is told by the answer alone. -/
def OptionFound.ofLetters (known : List Char) (words : List (List Char)) (index : Nat) (c : Char)
    (rest : List Char) : OptionFound :=
  let silent := decide (known.head? = some ':')
  let wrong (text : String) (place : OptionPlace) : OptionFound :=
    if silent then { text := some [c], place }
    else { complaint := some (text.toList ++ c :: []), place }
  let behind : OptionPlace :=
    { word := index + 1
      letter := some (((words[index - 1]?).getD []).length - rest.length) }
  match kindOf? known c with
  | none => wrong "Illegal option -" behind
  | some false => { letter := c, text := some [], place := behind }
  | some true =>
    if !rest.isEmpty then { letter := c, text := some rest, place := { word := index + 1 } }
    else
      match words[index]? with
      | some text => { letter := c, text := some text, place := { word := index + 2 } }
      | none =>
        let place : OptionPlace := { word := index + 1 }
        if silent then { letter := ':', text := some [c], place }
        else { complaint := some ("No arg for -".toList ++ c :: " option".toList), place }

/-- Reads the next option of words. -/
def OptionPlace.next (p : OptionPlace) (known : List Char) (words : List (List Char)) :
    OptionFound :=
  let p : OptionPlace := if words.length + 1 < p.word then {} else p
  let letters : List Char :=
    match p.letter with
    | some n => if p.word ≤ 1 then [] else ((words[p.word - 2]?).getD []).drop n
    | none => []
  match letters, words[p.word - 1]? with
  | c :: rest, _ => .ofLetters known words (p.word - 1) c rest
  | [], some ['-', '-'] => { keepsText := true, isLast := true, place := { word := p.word + 1 } }
  | [], some ('-' :: c :: rest) => .ofLetters known words p.word c rest
  | [], _ => { keepsText := true, isLast := true, place := { word := p.word } }

end ProbeBench.Shell
