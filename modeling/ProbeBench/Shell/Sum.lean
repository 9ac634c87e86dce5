import ProbeBench.Shell.Piece
import ProbeBench.Shell.Scope

/-!
# Arithmetic of a shell script

Expressions over whole numbers of 64 bits, with variables that can be set in them. `Sum.ofText`
reads an expression, `Sum.value` gives its value and what it sets. An operand that does not matter
for the value is left alone. Where a text does not go on like an expression, the expression is
stuck: what stands in front of that place is evaluated all the same, and may go wrong before.

* `wrap_small`: a number in the range of 64 bits stays.
* `rank_pos`: every operation binds.
-/

namespace ProbeBench.Shell

/-- What joins two operands. -/
inductive Operation where
  | or
  | and
  | bitOr
  | bitXor
  | bitAnd
  | equal
  | unequal
  | less
  | atMost
  | greater
  | atLeast
  | shiftLeft
  | shiftRight
  | plus
  | minus
  | times
  | quotient
  | remainder
  deriving DecidableEq, Repr

/-- How tightly an operation binds. -/
def Operation.rank : Operation → Nat
  | .or => 1
  | .and => 2
  | .bitOr => 3
  | .bitXor => 4
  | .bitAnd => 5
  | .equal | .unequal => 6
  | .less | .atMost | .greater | .atLeast => 7
  | .shiftLeft | .shiftRight => 8
  | .plus | .minus => 9
  | .times | .quotient | .remainder => 10

/-- The operation that a symbol writes. -/
def operation? (symbol : List Char) : Option Operation :=
  match String.ofList symbol with
  | "||" => some .or
  | "&&" => some .and
  | "|" => some .bitOr
  | "^" => some .bitXor
  | "&" => some .bitAnd
  | "==" => some .equal
  | "!=" => some .unequal
  | "<" => some .less
  | "<=" => some .atMost
  | ">" => some .greater
  | ">=" => some .atLeast
  | "<<" => some .shiftLeft
  | ">>" => some .shiftRight
  | "+" => some .plus
  | "-" => some .minus
  | "*" => some .times
  | "/" => some .quotient
  | "%" => some .remainder
  | _ => none

/-- The operations that can be done to a variable while setting it. -/
def Operation.isSetting : Operation → Bool
  | .bitOr | .bitXor | .bitAnd | .shiftLeft | .shiftRight => true
  | .plus | .minus | .times | .quotient | .remainder => true
  | _ => false

/-- What is missing in the text of an expression. -/
inductive Wanted where
  | operand
  | bracket
  | colon
  | ending
  deriving DecidableEq, Repr

/-- An arithmetic expression. -/
inductive Sum where
  | number (n : Int)
  /-- The number that a variable holds. -/
  | held (name : List Char)
  | minus (e : Sum)
  /-- Whether an expression is zero. -/
  | isZero (e : Sum)
  /-- All bits the other way. -/
  | flipped (e : Sum)
  | join (op : Operation) (first second : Sum)
  | choice (condition yes no : Sum)
  /-- Sets a variable, perhaps to what an operation makes of it. -/
  | set (name : List Char) (op : Option Operation) (e : Sum)
  /-- Something is missing behind an expression. -/
  | stuck (e : Sum) (wanted : Wanted)

/-- Why an expression has no value. -/
inductive SumFault where
  | malformed (wanted : Wanted)
  | zeroDivision
  /-- A text that should be a number. -/
  | notNumber (cs : List Char)
  /-- A variable that cannot get its value, and why. -/
  | refused (text : List Char)
  deriving DecidableEq, Repr

/-! ## Numbers of 64 bits -/

/-- The number of different numbers. -/
def span : Nat := 18446744073709551616

/-- A number brought into the range of 64 bits. -/
def wrap (n : Int) : Int := Int.bmod n span

/-- The nearest number in the range. -/
def clamp (n : Int) : Int :=
  let half : Int := (span / 2 : Nat)
  if n < -half then -half else if half ≤ n then half - 1 else n

/-- The bits of a number. -/
def bits (n : Int) : Nat := (n.emod span).toNat

theorem wrap_small {n : Int} (low : -9223372036854775808 ≤ n) (high : n < 9223372036854775808) :
    wrap n = n := by
  unfold wrap
  exact Int.bmod_eq_of_le (by simpa [span] using low) (by simpa [span] using high)

theorem rank_pos (op : Operation) : 0 < op.rank := by
  cases op <;> decide

/-- The digit that a character is, also beyond nine. -/
def digitValue (c : Char) : Nat :=
  if c.isDigit then c.toNat - 48
  else if 'a' ≤ c && c ≤ 'f' then c.toNat - 87
  else c.toNat - 55

/-- Whether `c` is a digit of a base up to sixteen. -/
def isDigitOf (base : Nat) (c : Char) : Bool :=
  (c.isDigit || ('a' ≤ c && c ≤ 'f') || ('A' ≤ c && c ≤ 'F')) && decide (digitValue c < base)

/-- The base of the number at the beginning of a text, and the text from its digits on. -/
def takeBase : List Char → Nat × List Char
  | '0' :: x :: d :: rest =>
    if (x = 'x' || x = 'X') && isDigitOf 16 d then (16, d :: rest) else (8, '0' :: x :: d :: rest)
  | '0' :: rest => (8, '0' :: rest)
  | cs => (10, cs)

/-- The number at the beginning of a text, and the text behind it. -/
def takeNumber (cs : List Char) : Nat × List Char :=
  let (base, cs) := takeBase cs
  let (ds, rest) := cs.span (isDigitOf base)
  (ds.foldl (fun n c => n * base + digitValue c) 0, rest)

/-- The number that a text writes, with blanks around it; an empty text is zero. -/
def readNumber? (cs : List Char) : Option Int :=
  let body := cs.dropWhile isSpace
  let (negative, digits) :=
    match body with
    | '-' :: rest => (true, rest)
    | '+' :: rest => (false, rest)
    | _ => (false, body)
  if body.isEmpty then some 0
  else if !(digits.head?.map Char.isDigit).getD false then none
  else
    let (n, rest) := takeNumber digits
    let value : Int := if negative then -n else n
    if clamp value = value && rest.all isSpace then some value else none

/-! ## Reading expressions -/

/-- A part of the text of an expression. -/
inductive Lexeme where
  | number (n : Int)
  | name (cs : List Char)
  | symbol (cs : List Char)
  deriving DecidableEq, Repr

/-- The symbols of more than one character, the longest first. -/
def longSymbols : List (List Char) :=
  ["<<=", ">>=", "<=", ">=", "==", "!=", "&&", "||", "<<", ">>", "+=", "-=", "*=", "/=", "%=", "&=",
    "|=", "^="].map String.toList

/-- The parts of an expression. -/
def lexemesWith : Nat → List Char → List Lexeme
  | 0, _ => []
  | _ + 1, [] => []
  | fuel + 1, c :: rest =>
    if isSpace c then lexemesWith fuel rest
    else if c.isDigit then
      let (n, rest) := takeNumber (c :: rest)
      .number (clamp n) :: lexemesWith fuel rest
    else if isNameStart c then
      let (name, rest) := (c :: rest).span isNameChar
      .name name :: lexemesWith fuel rest
    else
      let symbol := (longSymbols.find? (·.isPrefixOf (c :: rest))).getD [c]
      .symbol symbol :: lexemesWith fuel ((c :: rest).drop symbol.length)

/-- What is done to a variable by the symbol that sets it; none if the symbol does not. -/
def settingOf? (symbol : List Char) : Option (Option Operation) :=
  if symbol = ['='] then some none
  else if symbol.getLast? = some '=' then
    ((operation? symbol.dropLast).filter Operation.isSetting).map some
  else none

/-- An operand is missing. -/
def Sum.missing : Sum := .stuck (.number 0) .operand

mutual

/-- An expression, which may set a variable. -/
def assignmentWith : Nat → List Lexeme → Sum × List Lexeme
  | 0, _ => (.missing, [])
  | fuel + 1, ts =>
    match ts with
    | .name name :: .symbol symbol :: rest =>
      match settingOf? symbol with
      | some op =>
        let (e, rest) := assignmentWith fuel rest
        (.set name op e, rest)
      | none => alternativeWith fuel ts
    | _ => alternativeWith fuel ts

/-- An expression, which may choose between two. -/
def alternativeWith : Nat → List Lexeme → Sum × List Lexeme
  | 0, _ => (.missing, [])
  | fuel + 1, ts =>
    match operationWith fuel 1 ts with
    | (condition, .symbol ['?'] :: rest) =>
      match assignmentWith fuel rest with
      | (yes, .symbol [':'] :: rest) =>
        let (no, rest) := alternativeWith fuel rest
        (.choice condition yes no, rest)
      | (yes, _) => (.choice condition (.stuck yes .colon) (.number 0), [])
    | r => r

/-- Operands joined by operations of at least a rank. -/
def operationWith : Nat → Nat → List Lexeme → Sum × List Lexeme
  | 0, _, _ => (.missing, [])
  | fuel + 1, rank, ts =>
    let (first, rest) := operandWith fuel ts
    operationsWith fuel rank first rest

/-- What is joined to an operand. -/
def operationsWith : Nat → Nat → Sum → List Lexeme → Sum × List Lexeme
  | 0, _, _, _ => (.missing, [])
  | fuel + 1, rank, first, ts =>
    match ts with
    | .symbol symbol :: rest =>
      match operation? symbol with
      | some op =>
        if op.rank < rank then (first, ts)
        else
          let (second, rest) := operationWith fuel (op.rank + 1) rest
          operationsWith fuel rank (.join op first second) rest
      | none => (first, ts)
    | _ => (first, ts)

/-- One operand. -/
def operandWith : Nat → List Lexeme → Sum × List Lexeme
  | 0, _ => (.missing, [])
  | fuel + 1, ts =>
    let changed (change : Sum → Sum) (rest : List Lexeme) : Sum × List Lexeme :=
      let (e, rest) := operandWith fuel rest
      (change e, rest)
    match ts with
    | .number n :: rest => (.number n, rest)
    | .name name :: rest => (.held name, rest)
    | .symbol ['-'] :: rest => changed .minus rest
    | .symbol ['+'] :: rest => operandWith fuel rest
    | .symbol ['!'] :: rest => changed .isZero rest
    | .symbol ['~'] :: rest => changed .flipped rest
    | .symbol ['('] :: rest =>
      match assignmentWith fuel rest with
      | (e, .symbol [')'] :: rest) => (e, rest)
      | (e, _) => (.stuck e .bracket, [])
    | _ => (.missing, [])

end

/-- The expression that a text writes. -/
def Sum.ofText (cs : List Char) : Sum :=
  let ts := lexemesWith (cs.length + 1) cs
  match assignmentWith (8 * ts.length + 8) ts with
  | (e, []) => e
  | (e, _) => .stuck e .ending

/-! ## Values -/

/-- One for what holds, zero for what does not. -/
def truth (b : Bool) : Int := if b then 1 else 0

/-- What an operation makes of two numbers. -/
def Operation.apply (op : Operation) (a b : Int) : Except SumFault Int :=
  match op with
  | .or => .ok (truth (a ≠ 0 || b ≠ 0))
  | .and => .ok (truth (a ≠ 0 && b ≠ 0))
  | .bitOr => .ok (wrap ((bits a).lor (bits b) : Nat))
  | .bitXor => .ok (wrap ((bits a).xor (bits b) : Nat))
  | .bitAnd => .ok (wrap ((bits a).land (bits b) : Nat))
  | .equal => .ok (truth (a = b))
  | .unequal => .ok (truth (a ≠ b))
  | .less => .ok (truth (a < b))
  | .atMost => .ok (truth (a ≤ b))
  | .greater => .ok (truth (b < a))
  | .atLeast => .ok (truth (b ≤ a))
  | .shiftLeft => .ok (wrap (a * (Nat.pow 2 (b.emod 64).toNat : Nat)))
  | .shiftRight => .ok (a.fdiv (Nat.pow 2 (b.emod 64).toNat : Nat))
  | .plus => .ok (wrap (a + b))
  | .minus => .ok (wrap (a - b))
  | .times => .ok (wrap (a * b))
  | .quotient => if b = 0 then .error .zeroDivision else .ok (wrap (a.tdiv b))
  | .remainder => if b = 0 then .error .zeroDivision else .ok (wrap (a.tmod b))

/-- The number that a variable holds; one without a value holds zero. -/
def Scope.number? (s : Scope) (name : List Char) : Except SumFault Int :=
  match s.value? name with
  | none => .ok 0
  | some cs =>
    match readNumber? cs with
    | some n => .ok n
    | none => .error (.notNumber cs)

/-- The first thing that is missing in an expression. -/
def Sum.wanted? : Sum → Option Wanted
  | .number _ => none
  | .held _ => none
  | .minus e => e.wanted?
  | .isZero e => e.wanted?
  | .flipped e => e.wanted?
  | .join _ a b => a.wanted?.or b.wanted?
  | .choice c a b => c.wanted?.or (a.wanted?.or b.wanted?)
  | .set _ _ e => e.wanted?
  | .stuck e wanted => e.wanted?.or (some wanted)

/-- What is known stays, unless something is missing in an expression that does not matter. -/
def Sum.passed (e : Sum) (n : Int) (s : Scope) : Except SumFault (Int × Scope) :=
  match e.wanted? with
  | some wanted => .error (.malformed wanted)
  | none => .ok (n, s)

/-- The value of an expression, and what is known after it. -/
def Sum.value : Sum → Scope → Except SumFault (Int × Scope)
  | .number n, s => .ok (n, s)
  | .held name, s => (s.number? name).map (·, s)
  | .minus e, s => (e.value s).map fun (n, s) => (wrap (-n), s)
  | .isZero e, s => (e.value s).map fun (n, s) => (truth (n = 0), s)
  | .flipped e, s => (e.value s).map fun (n, s) => (-n - 1, s)
  | .join op a b, s =>
    match a.value s with
    | .error fault => .error fault
    | .ok (n, s) =>
      if op = .and && n = 0 then b.passed 0 s
      else if op = .or && n ≠ 0 then b.passed 1 s
      else
        match b.value s with
        | .error fault => .error fault
        | .ok (m, s) => (op.apply n m).map (·, s)
  | .choice c a b, s =>
    match c.value s with
    | .error fault => .error fault
    | .ok (n, s) =>
      if n ≠ 0 then
        match a.value s with
        | .error fault => .error fault
        | .ok (n, s) => b.passed n s
      else
        match a.passed 0 s with
        | .error fault => .error fault
        | .ok (_, s) => b.value s
  | .set name op e, s =>
    match e.value s with
    | .error fault => .error fault
    | .ok (n, s) =>
      let result : Except SumFault Int :=
        match op with
        | none => .ok n
        | some op =>
          match s.number? name with
          | .error fault => .error fault
          | .ok old => op.apply old n
      match result with
      | .error fault => .error fault
      | .ok n =>
        match s.refusal? name (decimal n) with
        | some text => .error (.refused text)
        | none => .ok (n, s.set name (decimal n))
  | .stuck e wanted, s =>
    match e.value s with
    | .error fault => .error fault
    | .ok _ => .error (.malformed wanted)

/-- The value of an expression that is a text. -/
def Scope.sum (s : Scope) (cs : List Char) : Except SumFault (Int × Scope) :=
  (Sum.ofText cs).value s

end ProbeBench.Shell
