import ProbeBench.Shell.Command
import ProbeBench.Shell.Trouble

/-!
# Grammar of a shell script

Tokens become commands. A script is read line by line, so that what stands in front of a mistake is
run; `nextCommand` reads the commands of one line, or of as many as belong together. The scripts
inside the words of a command are read with it, and it cannot be read if one of them cannot. Of what
is wrong the first thing counts.

* `nextCommand_nil`: a script that is read to its end has no next command.
-/

namespace ProbeBench.Shell

/-- A part of a script with the tokens behind it. -/
abbrev Parsed (α : Type) := α × List Token

/-- The commands that keep what is set in front of them, and end the script when they go wrong. -/
def specialNames : List String :=
  [":", ".", "break", "continue", "eval", "exec", "exit", "export", "readonly", "return", "set",
    "local", "shift", "times", "trap", "unset"]

/-- Whether a command is one of these. -/
def isSpecialName (name : String) : Bool := specialNames.contains name

/-- The keywords that end a list of commands. -/
def closers : List String := ["do", "done", "then", "elif", "else", "fi", "esac", "\x7d"]

/-- Whether a list of commands ends before a token. -/
def Token.closes (t : Token) : Bool :=
  closers.any t.isKeyword || t.isOp ")" || t.isOp ";;"

/-- The tokens behind ends of lines. -/
def skipLines (ts : List Token) : List Token := ts.dropWhile (·.isOp "\n")

/-- The tokens behind a keyword, which has to be there. -/
def expect (keyword : String) (ts : List Token) : Except Trouble (List Token) :=
  match ts.head?.filter (·.isKeyword keyword) with
  | some _ => .ok (ts.drop 1)
  | none => .error (troubleAt ts true (some (inQuotes keyword)))

/-- The tokens behind an operator, which has to be there. `counts` says whether words of the
language count as such there. -/
def expectOp (symbol : String) (counts : Bool) (ts : List Token) : Except Trouble (List Token) :=
  match ts.head?.filter (·.isOp symbol) with
  | some _ => .ok (ts.drop 1)
  | none => .error (troubleAt ts counts (some (inQuotes symbol)))

/-- The characters at the beginning of a word that are plain, and the pieces behind them. -/
def plainFront : Pieces → List Char × Pieces
  | .text [c] false :: rest =>
    if c = '=' then ([], .text [c] false :: rest)
    else
      let r := plainFront rest
      (c :: r.1, r.2)
  | rest => ([], rest)

/-- A name and a value that are set, as one word writes them. -/
def setting? (word : Pieces) : Option (List Char × Pieces) :=
  match plainFront word with
  | (name, .text ['='] false :: value) => if isName name then some (name, value) else none
  | _ => none

/-- The redirection of a stream that a symbol and a word write. -/
def Redirect.ofSymbol (stream : Nat) (symbol : List Char) (word : Pieces) :
    Redirect Pieces :=
  let target : Target Pieces :=
    match symbol with
    | ['<'] => .read word
    | ['>', '>'] => .append word
    | ['<', '&'] => .stream word
    | ['>', '&'] => .stream word
    | ['<', '>'] => .both word
    | ['>', '|'] => .overwrite word
    | _ => .write word
  ⟨stream, target⟩

/-- The redirection at the beginning of tokens, and the tokens behind it. -/
def redirect? : List Token → Except Trouble (Option (Redirect Pieces × List Token))
  | ⟨.redirect stream symbol, _⟩ :: rest =>
    match rest with
    | ⟨.word word, _⟩ :: rest => .ok (some (.ofSymbol stream symbol word, rest))
    | _ => .error (unexpected rest)
  | ⟨.document stream text _, _⟩ :: rest => .ok (some (⟨stream, .document text⟩, rest))
  | _ => .ok none

/-- The redirections at the beginning of tokens. -/
def redirects : Nat → List Token → Except Trouble (Parsed (List (Redirect Pieces)))
  | 0, ts => .ok ([], ts)
  | fuel + 1, ts => do
    match ← redirect? ts with
    | some (r, rest) =>
      let (more, rest) ← redirects fuel rest
      return (r :: more, rest)
    | none => return ([], ts)

/-- A command with the redirections behind it. -/
def withRedirects (c : Command) (ts : List Token) : Except Trouble (Parsed Command) := do
  match ← redirects (ts.length + 1) ts with
  | ([], rest) => return (c, rest)
  | (rs, rest) => return (.redirected c rs, rest)

/-- The settings, words and redirections of a simple command. -/
def simpleWith (a : Aliases) (settings : List (List Char × Pieces)) (words : List Pieces)
    (rs : List (Redirect Pieces)) : Nat → List Token → Except Trouble (Parsed Command)
  | 0, ts => .ok (.simple settings words rs, ts)
  | fuel + 1, ts => do
    match ← redirect? ts, ts with
    | some (r, rest), _ => simpleWith a settings words (rs ++ [r]) fuel rest
    | none, ⟨.word word, _⟩ :: rest =>
      match words, setting? word, unaliased? a ts with
      | [], some s, _ => simpleWith a (settings ++ [s]) [] rs fuel rest
      | [], none, some ts => simpleWith a settings [] rs fuel ts
      | _, _, _ => simpleWith a settings (words ++ [word]) rs fuel rest
    | none, _ => return (.simple settings words rs, ts)

/-- The name of a function that is defined, and the tokens behind the brackets behind it; none if it
is something else. -/
def functionName? : List Token → Except Trouble (Option (List Char × List Token))
  | ⟨.word word, _⟩ :: t :: rest =>
    if t.isOp "(" && (setting? word).isNone then do
      let behind ← expectOp ")" false rest
      match (plain? word).filter fun cs => isName cs && !isSpecialName (String.ofList cs) with
      | some name => return some (name, behind)
      | none => throw (badName .functionName rest)
    else .ok none
  | _ => .ok none

/-- Words up to the next operator. -/
def plainWords : List Token → List Pieces × List Token
  | ⟨.word word, _⟩ :: rest =>
    let r := plainWords rest
    (word :: r.1, r.2)
  | ts => ([], ts)

/-- The patterns of a branch up to the bracket behind them. Something else than a word is a pattern
that nothing fits. -/
def patternsWith : Nat → List Token → Except Trouble (Parsed (List Pieces))
  | 0, ts => .error (unexpected ts)
  | fuel + 1, ts => do
    let patterns :=
      match ts with
      | ⟨.word word, _⟩ :: _ => [word]
      | _ => []
    let rest := ts.drop 1
    if (rest.head?.map (·.isOp "|")).getD false then
      let (more, rest) ← patternsWith fuel (rest.drop 1)
      return (patterns ++ more, rest)
    else return (patterns, ← expectOp ")" false rest)

/-- The end of a command in a list, by its operator: whether it runs in the background, and whether
another one may follow. -/
def separator (ts : List Token) : Bool × Bool × List Token :=
  match ts with
  | t :: rest =>
    if t.isOp "&" then (true, true, rest)
    else if t.isOp ";" || t.isOp "\n" then (false, true, rest)
    else (false, false, ts)
  | [] => (false, false, [])

mutual

/-- A list of commands up to a token that ends it; `canBeEmpty` says whether that may come first. -/
def listWith (a : Aliases) : Nat → Bool → List Token → Except Trouble (Parsed Command)
  | 0, _, ts => .error (unexpected ts)
  | fuel + 1, canBeEmpty, ts => do
    let ts := skipLines ts
    let ts := (unaliased? a ts).getD ts
    match ts with
    | [] => return (.nothing, [])
    | t :: _ =>
      if canBeEmpty && t.closes then return (.nothing, ts)
      else
        let (first, rest) ← joinedWith a fuel ts
        let (behind, more, rest) := separator rest
        let first := if behind then .background first else first
        if more then
          match ← listWith a fuel true rest with
          | (.nothing, rest) => return (first, rest)
          | (second, rest) => return (.join .both first second, rest)
        else return (first, rest)

/-- Commands joined by what they end with. -/
def joinedWith (a : Aliases) : Nat → List Token → Except Trouble (Parsed Command)
  | 0, ts => .error (unexpected ts)
  | fuel + 1, ts => do
    let (first, rest) ← pipeWith a fuel ts
    moreWith a fuel first rest

/-- What is joined to a command. -/
def moreWith (a : Aliases) : Nat → Command → List Token → Except Trouble (Parsed Command)
  | 0, _, ts => .error (unexpected ts)
  | fuel + 1, first, ts =>
    match ts with
    | t :: rest =>
      if t.isOp "&&" then do
        let (second, rest) ← pipeWith a fuel (skipLines rest)
        moreWith a fuel (.join .ifDone first second) rest
      else if t.isOp "||" then do
        let (second, rest) ← pipeWith a fuel (skipLines rest)
        moreWith a fuel (.join .ifFailed first second) rest
      else .ok (first, ts)
    | [] => .ok (first, [])

/-- Commands joined by what they write, perhaps negated. -/
def pipeWith (a : Aliases) : Nat → List Token → Except Trouble (Parsed Command)
  | 0, ts => .error (unexpected ts)
  | fuel + 1, ts => do
    let negated := (ts.head?.map (·.isKeyword "!")).getD false
    let (stages, rest) ← stagesWith a fuel (if negated then ts.drop 1 else ts)
    let c : Command :=
      match stages with
      | [c] => c
      | _ => .pipe stages
    return (if negated then .negate c else c, rest)

/-- The commands of a pipe. -/
def stagesWith (a : Aliases) : Nat → List Token → Except Trouble (Parsed (List Command))
  | 0, ts => .error (unexpected ts)
  | fuel + 1, ts => do
    let (first, rest) ← commandWith a fuel ts
    match rest with
    | t :: more =>
      if t.isOp "|" then
        let (stages, rest) ← stagesWith a fuel (skipLines more)
        return (first :: stages, rest)
      else return ([first], rest)
    | [] => return ([first], [])

/-- One command with its redirections. -/
def commandWith (a : Aliases) : Nat → List Token → Except Trouble (Parsed Command)
  | 0, ts => .error (unexpected ts)
  | fuel + 1, ts => do
    let ts := (unaliased? a ts).getD ts
    match ts with
    | [] => throw (unexpected [])
    | t :: rest =>
      let located (r : Command × List Token) : Command × List Token := (.located t.line r.1, r.2)
      if t.isOp "(" then
        let (c, rest) ← listWith a fuel false rest
        return located (← withRedirects (.apart c) (← expectOp ")" true rest))
      else if t.isKeyword "\x7b" then
        let (c, rest) ← listWith a fuel false rest
        return located (← withRedirects c (← expect "\x7d" rest))
      else if t.isKeyword "while" || t.isKeyword "until" then
        let (condition, rest) ← listWith a fuel false rest
        let (body, rest) ← listWith a fuel false (← expect "do" rest)
        let c : Command := .loop (t.isKeyword "while") condition body
        return located (← withRedirects c (← expect "done" rest))
      else if t.isKeyword "if" then
        let (c, rest) ← choiceWith a fuel rest
        return located (← withRedirects c rest)
      else if t.isKeyword "for" then return located (← eachWith a fuel rest)
      else if t.isKeyword "case" then return located (← selectWith a fuel rest)
      else if t.closes || t.isKeyword "!" || t.isKeyword "in" then throw (unexpected ts)
      else
        match t.sign with
        | .op _ => throw (unexpected ts)
        | _ =>
          match ← functionName? ts with
          | some (name, rest) =>
            let (body, rest) ← commandWith a fuel (skipLines rest)
            return (.define name body, rest)
          | none => return located (← simpleWith a [] [] [] (ts.length + 1) ts)

/-- A choice behind its first keyword. -/
def choiceWith (a : Aliases) : Nat → List Token → Except Trouble (Parsed Command)
  | 0, ts => .error (unexpected ts)
  | fuel + 1, ts => do
    let (condition, rest) ← listWith a fuel false ts
    let (yes, rest) ← listWith a fuel false (← expect "then" rest)
    let isNext (keyword : String) : Bool := (rest.head?.map (·.isKeyword keyword)).getD false
    if isNext "elif" then
      let (no, rest) ← choiceWith a fuel (rest.drop 1)
      return (.choice condition yes no, rest)
    else if isNext "else" then
      let (no, rest) ← listWith a fuel false (rest.drop 1)
      return (.choice condition yes no, ← expect "fi" rest)
    else return (.choice condition yes .nothing, ← expect "fi" rest)

/-- A loop over words behind its first keyword. -/
def eachWith (a : Aliases) : Nat → List Token → Except Trouble (Parsed Command)
  | 0, ts => .error (unexpected ts)
  | fuel + 1, ts =>
    match ts with
    | ⟨.word word, _⟩ :: rest =>
      match (plain? word).filter isName with
      | none => .error (badName .loopName ts)
      | some name => do
        let behind := skipLines rest
        let isNext (test : Token → Bool) (ts : List Token) : Bool := (ts.head?.map test).getD false
        let (words, rest) ←
          if isNext (·.isKeyword "in") behind then
            let (words, rest) := plainWords (behind.drop 1)
            if isNext (fun t => t.isOp ";" || t.isOp "\n") rest then pure (some words, rest.drop 1)
            else throw (unexpected rest)
          else pure (none, if isNext (·.isOp ";") behind then behind.drop 1 else behind)
        let (body, rest) ← listWith a fuel false (← expect "do" (skipLines rest))
        withRedirects (.each name words body) (← expect "done" rest)
    | _ => .error (badName .loopName ts)

/-- A choice by patterns behind its first keyword. -/
def selectWith (a : Aliases) : Nat → List Token → Except Trouble (Parsed Command)
  | 0, ts => .error (unexpected ts)
  | fuel + 1, ts =>
    match ts with
    | ⟨.word word, _⟩ :: rest => do
      let (branches, rest) ← branchesWith a fuel (← expect "in" (skipLines rest))
      withRedirects (.select word branches) rest
    | _ => .error (troubleAt ts false (some "word"))

/-- The branches of a choice by patterns. -/
def branchesWith (a : Aliases) : Nat → List Token →
    Except Trouble (Parsed (List (List Pieces × Command)))
  | 0, ts => .error (unexpected ts)
  | fuel + 1, ts => do
    let ts := skipLines ts
    let isNext (test : Token → Bool) (ts : List Token) : Bool := (ts.head?.map test).getD false
    if isNext (·.isKeyword "esac") ts then return ([], ts.drop 1)
    else
      let behind := if isNext (·.isOp "(") ts then ts.drop 1 else ts
      let (patterns, rest) ← patternsWith (ts.length + 1) behind
      let (body, rest) ← listWith a fuel true rest
      let rest := skipLines rest
      if isNext (·.isKeyword "esac") rest then return ([(patterns, body)], rest.drop 1)
      else
        let (branches, rest) ← branchesWith a fuel (← expectOp ";;" true rest)
        return ((patterns, body) :: branches, rest)

end

/-- How long the texts are that words stand for. -/
def Aliases.size (a : Aliases) : Nat := a.foldl (fun n d => n + d.2.length + 1) 0

/-- How many steps at most reading tokens takes. -/
def readingSteps (a : Aliases) (ts : List Token) : Nat := 16 * (ts.length + 1) * (a.size + 1)

/-- The commands of a line, up to its end. -/
def lineWith (a : Aliases) : Nat → List Token → Except Trouble (Parsed Command)
  | 0, ts => .error (unexpected ts)
  | fuel + 1, ts => do
    let (first, rest) ← joinedWith a (readingSteps a ts) ts
    match rest with
    | [] => return (first, [])
    | t :: more =>
      if t.isOp "\n" then return (first, more)
      else if t.isOp ";" || t.isOp "&" then
        let first := if t.isOp "&" then .background first else first
        match more with
        | [] => return (first, [])
        | n :: _ =>
          if n.isOp "\n" then return (first, more)
          else
            let (second, rest) ← lineWith a fuel more
            return (.join .both first second, rest)
      else throw (unexpected rest)

/-! ## Scripts inside words -/

mutual

/-- The scripts inside a piece, and what is not closed in it. -/
def Piece.insets : Piece → List Piece
  | .value _ _ _ word _ => insetsIn word
  | .sum expression _ => insetsIn expression
  | .output script quoted => [.output script quoted]
  | .unclosed gap => [.unclosed gap]
  | _ => []

/-- The scripts inside pieces, and what is not closed in them. -/
def insetsIn : List Piece → List Piece
  | [] => []
  | p :: rest => p.insets ++ insetsIn rest

end

/-- The scripts inside the words of tokens, and what is not closed there, each with the line in
which the text ends that it stands in; none for the end of the script. A text that is given to a
command comes behind the words, if the end of their line has been read, and quotes mean nothing in
it. -/
def insetsOf (ts : List Token) (whole : Bool) : List (Piece × Option Nat) :=
  let words := ts.flatMap fun t =>
    match t.sign with
    | .word pieces => (insetsIn pieces).map fun p => (p, none)
    | _ => []
  let inText (p : Piece) : Piece :=
    match p with
    | .unclosed .quote => .unclosed .brace
    | _ => p
  let lines := if whole then ts else (ts.reverse.dropWhile fun t => !t.isOp "\n").reverse
  let texts := lines.flatMap fun t =>
    match t.sign with
    | .document _ text last => (insetsIn text).map fun p => (inText p, some last)
    | _ => []
  words ++ texts

/-- The tokens of a script inside a word, and the line in which it ends. The bracket that closes it
is one of them. -/
def Inset.script (s : Inset) (closed : Bool) : Script :=
  let script := Script.ofText s.line s.text
  if closed && !s.accented then
    { script with tokens := script.tokens ++ [⟨.op [')'], script.last⟩] }
  else script

/-- The scripts inside the tokens that have been read, and what is not closed there. -/
def insetsRead {α : Type} (ts : List Token) (read : Except Trouble (Parsed α)) :
    List (Piece × Option Nat) :=
  let left :=
    match read with
    | .ok (_, rest) => rest.length
    | .error trouble => trouble.left
  insetsOf (ts.take (ts.length - left)) (left = 0)

mutual

/-- The trouble with the first of some pieces that cannot be read. -/
def firstTrouble? (a : Aliases) : Nat → List (Piece × Option Nat) → Option Trouble
  | 0, _ => none
  | _, [] => none
  | fuel + 1, (p, last) :: rest =>
    let trouble? : Option Trouble :=
      match p with
      | .output s _ =>
        match insetWith a fuel s true with
        | .error trouble =>
          some { trouble with line := trouble.line.or (some (s.line + s.text.count '\n')) }
        | .ok _ => none
      | .unclosed (.script s) =>
        match insetWith a fuel s false with
        | .error trouble => some trouble
        | .ok _ => none
      | .unclosed gap => some ⟨.unclosed gap, last, 0⟩
      | _ => none
    match trouble? with
    | some trouble => some trouble
    | none => firstTrouble? a fuel rest

/-- The commands of a script inside a word. What stands behind them between accents does not
matter. -/
def insetWith (a : Aliases) : Nat → Inset → Bool → Except Trouble Command
  | 0, _, _ => .error (unexpected [])
  | fuel + 1, s, closed =>
    let ts := (s.script closed).tokens
    let read : Except Trouble (Parsed Command) := do
      let (c, rest) ← listWith a (readingSteps a ts) true ts
      return (c, ← if s.accented then pure rest else expectOp ")" true rest)
    match firstTrouble? a fuel (insetsRead ts read), read with
    | some trouble, _ => .error trouble
    | none, .error trouble => .error trouble
    | none, .ok (c, _) => .ok c

end

/-- The most commands and scripts inside each other that are read together. -/
def maxReading : Nat := 1000

/-- The next command of a script and the tokens behind it; none at its end. -/
def nextCommand (a : Aliases) (ts : List Token) : Except Trouble (Option Command × List Token) :=
  match skipLines ts with
  | [] => .ok (none, [])
  | t :: more =>
    let ts := t :: more
    let read := lineWith a (ts.length + 1) ts
    match firstTrouble? a maxReading (insetsRead ts read), read with
    | some trouble, _ => .error trouble
    | none, .error trouble => .error trouble
    | none, .ok (c, rest) => .ok (some c, rest)

/-- The commands of a script inside a word. -/
def Inset.command (a : Aliases) (s : Inset) : Except Trouble Command :=
  insetWith a maxReading s true

theorem nextCommand_nil (a : Aliases) : nextCommand a [] = .ok (none, []) := rfl

end ProbeBench.Shell
