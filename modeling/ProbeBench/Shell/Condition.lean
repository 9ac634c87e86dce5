import ProbeBench.Shell.Expansion

/-!
# Conditions of a shell script

A condition is a list of texts: one text, an operator and a text, or an operator between two texts.
Conditions can be negated, joined and put in brackets. `Condition.ofTexts` reads one, `holds` says
whether it is true; a number may be asked for where there is none.

* `ofTexts_nil`: no text at all is the condition that never holds.
-/

namespace ProbeBench.Shell

/-- A condition. -/
inductive Condition where
  | never
  /-- A text is not empty. -/
  | present (text : List Char)
  /-- An operator with its letter holds for a text. -/
  | check (letter : Char) (text : List Char)
  | compare (op : String) (first second : List Char)
  | negate (c : Condition)
  | both (first second : Condition)
  | either (first second : Condition)

namespace Condition

/-- The operators between two texts. -/
def comparisons : List String :=
  ["=", "!=", "<", ">", "-eq", "-ne", "-lt", "-le", "-gt", "-ge", "-ef", "-nt", "-ot"]

/-- Whether a text is an operator between two texts. -/
def isComparison (cs : List Char) : Bool := comparisons.contains (String.ofList cs)

/-- The letter of an operator in front of a text. -/
def letter? : List Char → Option Char
  | ['-', c] => if "rwxefdcbpugkstznhOGLS".toList.contains c then some c else none
  | _ => none

/-- Whether a text that could be an operator stands for itself, because of what follows it. -/
def standsAlone (rest : List (List Char)) : Bool :=
  match rest with
  | [] => true
  | [_] => false
  | next :: _ => isComparison next

/-- What is wrong with a text in a condition. -/
abbrev Fault := List Char

/-- Why texts are no condition. -/
structure Misreading where
  fault : Fault
  /-- The conditions that were read before, in order. -/
  before : List Condition := []

/-- What was read of texts, and the texts behind it. -/
abbrev Reading := Except Misreading (Condition × List (List Char))

/-- What was read behind a condition. -/
def Reading.behind (c : Condition) (r : Reading) : Reading :=
  r.mapError fun e => { e with before := c :: e.before }

mutual

/-- Conditions joined so that one of them has to hold. -/
def eitherWith : Nat → List (List Char) → Reading
  | 0, _ => .error ⟨[], []⟩
  | fuel + 1, texts => do
    let (first, rest) ← bothWith fuel texts
    match rest with
    | ['-', 'o'] :: rest => do
      let (second, rest) ← (eitherWith fuel rest).behind first
      return (.either first second, rest)
    | _ => return (first, rest)

/-- Conditions joined so that all of them have to hold. -/
def bothWith : Nat → List (List Char) → Reading
  | 0, _ => .error ⟨[], []⟩
  | fuel + 1, texts => do
    let (first, rest) ← oneWith fuel texts
    match rest with
    | ['-', 'a'] :: rest => do
      let (second, rest) ← (bothWith fuel rest).behind first
      return (.both first second, rest)
    | _ => return (first, rest)

/-- One condition. -/
def oneWith : Nat → List (List Char) → Reading
  | 0, _ => .error ⟨[], []⟩
  | _ + 1, [] => .ok (.never, [])
  | fuel + 1, text :: rest =>
    match text, rest with
    | ['!'], _ :: _ => do
      let (c, rest) ← oneWith fuel rest
      return (.negate c, rest)
    | ['('], [')'] :: rest => .ok (.never, rest)
    | ['('], _ :: _ => do
      let (c, rest) ← eitherWith fuel rest
      match rest with
      | [')'] :: rest => return (c, rest)
      | _ => .error ⟨"closing paren expected".toList, [c]⟩
    | _, _ =>
      match letter? text, standsAlone rest, rest with
      | some letter, false, operand :: rest => .ok (.check letter operand, rest)
      | _, _, op :: second :: rest =>
        if isComparison op then .ok (.compare (String.ofList op) text second, rest)
        else .ok (.present text, op :: second :: rest)
      | _, _, [op] =>
        if isComparison op then .error ⟨op ++ ": argument expected".toList, []⟩
        else .ok (.present text, [op])
      | _, _, [] => .ok (.present text, [])

end

/-- Three texts without a sign of negation in front of them, or without brackets around the second
one, unless that compares the others; says whether there was a sign. -/
def bareThree (first second third : List Char) : Bool × List (List Char) :=
  if isComparison second then (false, [first, second, third])
  else if first = ['('] && third = [')'] then (false, [second])
  else if first = ['!'] then (true, [second, third])
  else (false, [first, second, third])

/-- Texts without a sign of negation or brackets that belong to three or four of them as a whole;
says whether there was a sign. -/
def bare : List (List Char) → Bool × List (List Char)
  | [a, b, c] => bareThree a b c
  | [a, b, c, d] =>
    if a = ['('] && d = [')'] then (false, [b, c])
    else if a = ['!'] then (true, (bareThree b c d).2)
    else (false, [a, b, c, d])
  | texts => (false, texts)

/-- The condition that texts write, of which as many count as make one. -/
def general (texts : List (List Char)) : Except Misreading Condition := do
  let (c, rest) ← eitherWith (4 * texts.length + 4) texts
  match rest with
  | [] => return c
  | _ =>
    let text := (texts.take (texts.length - rest.length)).getLast?.getD []
    let front := if text.isEmpty then [] else text ++ ": ".toList
    .error ⟨front ++ "unexpected operator".toList, [c]⟩

/-- The condition that texts write. Three texts with an operator in the middle are compared. -/
def ofTexts (texts : List (List Char)) : Except Misreading Condition := do
  let (negated, texts) := bare texts
  let c ←
    match texts with
    | [first, op, second] =>
      if isComparison op then .ok (.compare (String.ofList op) first second) else general texts
    | _ => general texts
  return if negated then .negate c else c

theorem ofTexts_nil : ofTexts [] = .ok .never := rfl

/-- What is at a path that a text writes. -/
def entryAt (t : FileTree) (s : Scope) (path : List Char) : Option FileEntry :=
  match spelled? path with
  | none => none
  | some text => if text.isEmpty then none else (t.find s.folder (.ofText text)).toOption

/-- The whole number that a text writes. -/
def number (cs : List Char) : Except Fault Int :=
  (wholeOf? cs).elim (.error ("Illegal number: ".toList ++ cs)) .ok

/-- Whether an operator with its letter holds for a text. No stream leads to a terminal. -/
def holdsFor (t : FileTree) (s : Scope) (letter : Char) (text : List Char) : Except Fault Bool :=
  match letter with
  | 'n' => .ok !text.isEmpty
  | 'z' => .ok text.isEmpty
  | 't' => (number text).map fun _ => false
  | _ =>
    match entryAt t s text with
    | none => .ok false
    | some (.file octets executable _) =>
      .ok ("ferwOG".toList.contains letter || (letter = 's' && !octets.isEmpty) ||
        (letter = 'x' && executable))
    | some .directory => .ok ("derwxsOG".toList.contains letter)
    | some (.device _) => .ok ("cerwOG".toList.contains letter)

/-- Where a path leads to. -/
def placeOf (s : Scope) (path : List Char) : List String :=
  (Path.resolve (.ofText ((spelled? path).getD "")) s.folder).names

/-- Whether an operator holds between what is at two paths; both have to be there. -/
def relatesAt (t : FileTree) (s : Scope) (op : String) (first second : List Char) : Bool :=
  match entryAt t s first, entryAt t s second with
  | some a, some b =>
    match op with
    | "-ef" => placeOf s first = placeOf s second
    | "-nt" => b.tick < a.tick
    | _ => a.tick < b.tick
  | _, _ => false

/-- Whether an operator holds between two texts. -/
def relates (t : FileTree) (s : Scope) (op : String) (first second : List Char) :
    Except Fault Bool :=
  match op with
  | "=" => .ok (first = second)
  | "!=" => .ok (first ≠ second)
  | "<" => .ok (first < second)
  | ">" => .ok (second < first)
  | "-ef" | "-nt" | "-ot" => .ok (relatesAt t s op first second)
  | _ => do
    let a ← number first
    let b ← number second
    match op with
    | "-eq" => return a = b
    | "-ne" => return a ≠ b
    | "-lt" => return a < b
    | "-le" => return a ≤ b
    | "-gt" => return b < a
    | _ => return b ≤ a

/-- Whether a condition holds. Both parts of a joined one are looked at. -/
def holds (t : FileTree) (s : Scope) : Condition → Except Fault Bool
  | .never => .ok false
  | .present text => .ok !text.isEmpty
  | .check letter text => holdsFor t s letter text
  | .compare op first second => relates t s op first second
  | .negate c => (c.holds t s).map (!·)
  | .both a b => do
    let x ← a.holds t s
    let y ← b.holds t s
    return x && y
  | .either a b => do
    let x ← a.holds t s
    let y ← b.holds t s
    return x || y

/-- Whether the condition that texts write holds. What is wrong with one that was read comes before
why the others cannot be read. -/
def judge (t : FileTree) (s : Scope) (texts : List (List Char)) : Except Fault Bool :=
  match ofTexts texts with
  | .ok c => c.holds t s
  | .error e => do
    for c in e.before do
      let _ ← c.holds t s
    .error e.fault

end Condition

end ProbeBench.Shell
