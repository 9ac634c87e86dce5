import ProbeBench.Shell.Flag

/-!
# Text that is shown

A text can be copied as it is, or shown: with numbers in front of its lines, marks at their ends,
and marks for characters that cannot be seen. `Copying` says how, and where in the lines the copy
stands, as the texts of several files are shown as one. `Copying.ofWords` reads that from the words
of a command.

* `shown_plain`: a text that is copied as it is stays.
-/

namespace ProbeBench.Shell

/-- How text is copied, and how far that is. -/
structure Copying where
  /-- Lines get numbers. -/
  numbers : Bool := false
  /-- Empty lines get none. -/
  onlyFull : Bool := false
  /-- The end of a line gets a mark. -/
  ends : Bool := false
  /-- A tabulator is shown by a mark. -/
  tabs : Bool := false
  /-- Characters that cannot be seen are shown by marks. -/
  marks : Bool := false
  /-- Of empty lines that follow each other only one stays. -/
  squeezes : Bool := false
  /-- The number of the last line that got one. -/
  line : Nat := 0
  /-- How many ends of lines were just read, the one of a line with text not counted; none inside a
  line. -/
  gap : Option Nat := some 0
  /-- The end of a line may belong to the character before it. -/
  held : Bool := false
  /-- The input was to be copied, and is closed. -/
  inputClosed : Bool := false

namespace Copying

/-- Whether text stays as it is. -/
def isPlain (c : Copying) : Bool :=
  !(c.numbers || c.ends || c.tabs || c.marks || c.squeezes)

/-- The next number, in front of a line. -/
def numbered (c : Copying) : List Char × Copying :=
  let ds := Nat.toDigits 10 (c.line + 1)
  (List.replicate (6 - ds.length) ' ' ++ ds ++ ['\t'], { c with line := c.line + 1 })

/-- The mark for a character of an octet's number that cannot be seen, or the character. -/
def mark (n : Nat) : List Char :=
  let low (n : Nat) : List Char :=
    if n < 32 then ['^', Char.ofNat (n + 64)] else if n = 127 then ['^', '?'] else [Char.ofNat n]
  if n < 128 then low n else 'M' :: '-' :: low (n - 128)

/-- Shows the end of a line. -/
def endLine (c : Copying) : List Char × Copying :=
  let n := match c.gap with | some n => n + 1 | none => 0
  let c := { c with gap := some (min n 2) }
  if 2 ≤ n && c.squeezes then ([], c)
  else
    let (number, c) := if c.numbers && !c.onlyFull && 0 < n then c.numbered else ([], c)
    let carriage := if c.held then (if c.ends then ['^', 'M'] else ['\r']) else []
    (number ++ carriage ++ (if c.ends then ['$', '\n'] else ['\n']), { c with held := false })

/-- Shows a character inside a line. -/
def inLine (c : Copying) (x : Char) : List Char × Copying :=
  let (number, c) := if c.numbers && c.gap.isSome then c.numbered else ([], c)
  let before := if c.held then ['\r'] else []
  let c := { c with gap := none, held := false }
  if x = '\r' && c.ends && !c.marks then (before ++ number, { c with held := true })
  else if x = '\t' then (before ++ number ++ (if c.tabs then ['^', 'I'] else [x]), c)
  else (before ++ number ++ (if c.marks then mark x.toNat else [x]), c)

/-- Shows text. -/
def shown (c : Copying) (cs : List Char) : List Char × Copying :=
  if c.isPlain then (cs, c)
  else
    let r := cs.foldl
      (fun r x =>
        let s := if x = '\n' then r.2.endLine else r.2.inLine x
        (s.1.reverse ++ r.1, s.2))
      ([], c)
    (r.1.reverse, r.2)

theorem shown_plain (c : Copying) (cs : List Char) (h : c.isPlain = true) :
    c.shown cs = (cs, c) := by
  simp [shown, h]

/-! ## Options -/

/-- The options, each with a letter and a name. -/
def optionNames : List (Char × String) :=
  [('b', "number-nonblank"), ('e', ""), ('n', "number"), ('s', "squeeze-blank"), ('t', ""),
    ('u', ""), ('v', "show-nonprinting"), ('E', "show-ends"), ('T', "show-tabs"),
    ('A', "show-all")]

/-- Sets an option; none if it is not known. -/
def option? (c : Copying) (letter : Char) : Option Copying :=
  match letter with
  | 'b' => some { c with numbers := true, onlyFull := true }
  | 'n' => some { c with numbers := true }
  | 's' => some { c with squeezes := true }
  | 'E' => some { c with ends := true }
  | 'T' => some { c with tabs := true }
  | 'v' => some { c with marks := true }
  | 'e' => some { c with ends := true, marks := true }
  | 't' => some { c with tabs := true, marks := true }
  | 'A' => some { c with ends := true, tabs := true, marks := true }
  | 'u' => some c
  | _ => none

/-- The letter of the option that a name means. -/
def letterOf (text : List Char) : Except String Char := do
  let named := optionNames.filter (!·.2.isEmpty)
  let (name, _) ← namedOption (named.map fun o => (o.2, false)) text
  return ((named.find? (·.2 = name)).map (·.1)).getD 'u'

/-- Sets options by their letters; the letter that is none. -/
def options (c : Copying) : List Char → Except String Copying
  | [] => .ok c
  | letter :: rest =>
    match c.option? letter with
    | some c => c.options rest
    | none => .error ("invalid option -- '" ++ String.ofList [letter] ++ "'")

/-- Reads the options among words; the words that are left are the names of files. -/
def ofWords (c : Copying) : List (List Char) → Except String (Copying × List (List Char))
  | [] => .ok (c, [])
  | word :: rest =>
    match word with
    | ['-', '-'] => .ok (c, rest)
    | '-' :: '-' :: name => do
      let letter ← letterOf name
      (← c.options [letter]).ofWords rest
    | '-' :: letter :: letters => do (← c.options (letter :: letters)).ofWords rest
    | _ => do
      let (c, names) ← c.ofWords rest
      return (c, word :: names)

end Copying

end ProbeBench.Shell
