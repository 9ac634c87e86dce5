import ProbeBench.Shell.Alias

/-!
# Why a script cannot be read

A reader stops at a token that cannot stand where it stands, at the end of a script that cannot end
there, or where a name is none. A `Trouble` says what is wrong and where; `Mistake.message` puts it
into words.

* `unexpected_nil`: what is missing at the end of a script shows at its end.
-/

namespace ProbeBench.Shell

/-- What is wrong with a script. -/
inductive Mistake where
  /-- Something cannot stand where it stands; something else may have to. -/
  | unexpected (found : String) (wanted : Option String)
  | loopName
  | functionName
  | unclosed (gap : Gap)

/-- The mistake in words. -/
def Mistake.message : Mistake → String
  | .unexpected found none => found ++ " unexpected"
  | .unexpected found (some wanted) => found ++ " unexpected (expecting " ++ wanted ++ ")"
  | .loopName => "Bad for loop variable"
  | .functionName => "Bad function name"
  | .unclosed .quote => "Unterminated quoted string"
  | .unclosed .brace => "Missing '\x7d'"
  | .unclosed .accent => "EOF in backquote substitution"
  | .unclosed .sum => "Missing '))'"
  | .unclosed (.script _) => "end of file unexpected (expecting \")\")"

/-- Why a script cannot be read. -/
structure Trouble where
  mistake : Mistake
  /-- The line in which it shows; none at the end of the script. -/
  line : Option Nat
  /-- How many tokens stand behind it. -/
  left : Nat

/-- A text between double quotes. -/
def inQuotes (text : String) : String := "\"" ++ text ++ "\""

/-- What a token is called; a word of the language has a name only where it counts as one. -/
def Token.title (t : Token) (counts : Bool) : String :=
  match t.sign with
  | .word pieces =>
    let word := String.ofList ((plain? pieces).getD [])
    if counts && keywords.contains word then inQuotes word else "word"
  | .op ['\n'] => "newline"
  | .op symbol => inQuotes (String.ofList symbol)
  | _ => "redirection"

/-- The trouble with the first of some tokens, or with the end of the script. -/
def troubleAt (ts : List Token) (counts : Bool) (wanted : Option String) : Trouble :=
  match ts with
  | t :: rest => ⟨.unexpected (t.title counts) wanted, some t.line, rest.length⟩
  | [] => ⟨.unexpected "end of file" wanted, none, 0⟩

/-- The trouble with tokens of which the first one cannot stand there. -/
def unexpected (ts : List Token) : Trouble := troubleAt ts true none

/-- The trouble with a name that the first of some tokens should be. -/
def badName (mistake : Mistake) (ts : List Token) : Trouble :=
  ⟨mistake, ts.head?.map (·.line), ts.length - 1⟩

theorem unexpected_nil : (unexpected []).line = none := rfl

end ProbeBench.Shell
