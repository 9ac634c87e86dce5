import ProbeBench.Shell.Token

/-!
# Words that stand for texts

A word at the beginning of a command can stand for a text, whose tokens take its place. If the text
ends with a blank, the word behind it can stand for a text, too. No word stands for a text inside
the text that it stands for.

* `unaliased?_nil`: where no word stands for a text nothing changes.
-/

namespace ProbeBench.Shell

/-- Words with the texts that they stand for. -/
abbrev Aliases := List (List Char × List Char)

/-- The words of the language itself. -/
def keywords : List String :=
  ["!", "case", "do", "done", "elif", "else", "esac", "fi", "for", "if", "in", "then", "until",
    "while", "\x7b", "\x7d"]

/-- The text that a word stands for, with the word. -/
def Aliases.find? (a : Aliases) (word : Pieces) : Option (List Char × List Char) :=
  (plain? word).bind fun cs =>
    if keywords.contains (String.ofList cs) then none else List.find? (fun d => d.1 = cs) a

/-- A word that is one of some names stands for itself, as if it were in quotes. -/
def Token.holding (names : List (List Char)) (t : Token) : Token :=
  match t.sign with
  | .word pieces =>
    match (plain? pieces).filter names.contains with
    | some cs => { t with sign := .word [.text cs true] }
    | none => t
  | _ => t

/-- Whether a text ends with a blank. -/
def endsWithBlank (cs : List Char) : Bool :=
  match cs.getLast? with
  | some c => c = ' ' || c = '\t'
  | none => false

/-- Tokens of which the first one is replaced by what it stands for; `used` are the words whose
texts are being read. None if it stands for itself. -/
def unaliasedWith (a : Aliases) : Nat → List (List Char) → List Token → Option (List Token)
  | 0, _, _ => none
  | _, _, [] => none
  | fuel + 1, used, t :: rest =>
    match t.sign with
    | .word pieces =>
      (a.find? pieces).map fun (name, text) =>
        let inner := (Script.ofText t.line text).tokens.map (Token.holding (name :: used))
        let behind := if endsWithBlank text then unaliasedWith a fuel used rest else none
        let rest := behind.getD rest
        if inner.isEmpty then (unaliasedWith a fuel used rest).getD rest
        else (unaliasedWith a fuel (name :: used) inner).getD inner ++ rest
    | _ => none

/-- Tokens of which the first one is replaced by what it stands for; none if that is itself. -/
def unaliased? (a : Aliases) (ts : List Token) : Option (List Token) :=
  unaliasedWith a (a.length + ts.length + 1) [] ts

theorem unaliased?_nil (ts : List Token) : unaliased? [] ts = none := by
  cases ts with
  | nil => rfl
  | cons t rest =>
    unfold unaliased? unaliasedWith
    split <;> simp [Aliases.find?]

end ProbeBench.Shell
