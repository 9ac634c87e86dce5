import ProbeBench.Decimal.Reading
import ProbeBench.Json.Basic
import ProbeBench.Text.Digit

/-!
# Reading JSON

`Json.parse` reads one value and says where and why a text is none. Scanners take the rest of the
text and return what they read with what is left; a fault is placed by the number of characters
left, which `Fault.locate` turns into an offset, a line and a column. Of two members of one name the
last one counts. Numbers may also be `NaN`, `Infinity` and `-Infinity`; whole numbers have at most
`Decimal.maxDigits` digits.
-/

namespace ProbeBench.Json

/-- Why a text is no JSON value. -/
inductive Reason where
  | value
  | extra
  | name
  | colon
  | comma
  | unterminated
  | control
  | escape
  | unicodeEscape
  | byteOrderMark
  deriving DecidableEq, Repr

/-- The reason in words. -/
def Reason.message : Reason → String
  | .value => "Expecting value"
  | .extra => "Extra data"
  | .name => "Expecting property name enclosed in double quotes"
  | .colon => "Expecting ':' delimiter"
  | .comma => "Expecting ',' delimiter"
  | .unterminated => "Unterminated string starting at"
  | .control => "Invalid control character at"
  | .escape => "Invalid \\escape"
  | .unicodeEscape => "Invalid \\uXXXX escape"
  | .byteOrderMark => "Unexpected UTF-8 BOM (decode using utf-8-sig)"

/-- What stops a scanner: a reason with the number of characters left, or a number that is too
long. -/
inductive Stop where
  | at (reason : Reason) (left : Nat)
  | digits (count : Nat)
  deriving DecidableEq, Repr

/-- What is wrong with a text. -/
inductive Fault where
  | at (reason : Reason) (line column offset : Nat)
  | digits (count : Nat)
  deriving DecidableEq, Repr

/-- The fault in words. -/
def Fault.message : Fault → String
  | .at reason line column offset =>
    reason.message ++ ": line " ++ toString line ++ " column " ++ toString column ++ " (char " ++
      toString offset ++ ")"
  | .digits count => Decimal.tooManyDigits count

/-- The fault of a stop in `text`. -/
def Fault.locate (text : List Char) : Stop → Fault
  | .at reason left =>
    let before := text.take (text.length - left)
    let lastLine := before.reverse.takeWhile (· ≠ '\n')
    .at reason (before.count '\n' + 1) (lastLine.length + 1) before.length
  | .digits count => .digits count

/-- Whether `c` may stand between tokens. -/
def isSpace (c : Char) : Bool :=
  c = ' ' || c = '\t' || c = '\n' || c = '\r'

/-- The text from its first token on. -/
def skipSpace (cs : List Char) : List Char :=
  cs.dropWhile isSpace

/-- The character that an escape letter stands for. -/
def escaped? (c : Char) : Option Char :=
  if c = '"' ∨ c = '\\' ∨ c = '/' then some c
  else if c = 'b' then some '\x08'
  else if c = 'f' then some '\x0c'
  else if c = 'n' then some '\n'
  else if c = 'r' then some '\r'
  else if c = 't' then some '\t'
  else none

/-- The character of two 16-bit units, if the first is a leading and the second a trailing one. -/
def pair? (high low : Nat) : Option Char :=
  if 0xd800 ≤ high ∧ high < 0xdc00 ∧ 0xdc00 ≤ low ∧ low < 0xe000 then
    some (Char.ofNat (0x10000 + (high - 0xd800) * 0x400 + (low - 0xdc00)))
  else none

/-- The character of one 16-bit unit; half a pair stands for no character and is replaced. -/
def single (unit : Nat) : Char :=
  if 0xd800 ≤ unit ∧ unit < 0xe000 then '\ufffd' else Char.ofNat unit

/-- The content of a string after its opening quote; `opened` is the text from that quote on. -/
def scanString (opened : List Char) : List Char → Except Stop (List Char × List Char)
  | [] => .error (.at .unterminated opened.length)
  | '"' :: rest => .ok ([], rest)
  | ['\\'] => .error (.at .unterminated opened.length)
  | '\\' :: 'u' :: a :: b :: c :: d :: '\\' :: 'u' :: e :: f :: g :: h :: i :: rest =>
    match Text.hexValueOf? [a, b, c, d] with
    | none => .error (.at .unicodeEscape (rest.length + 12))
    | some unit =>
      if 0xd800 ≤ unit ∧ unit < 0xdc00 then
        match Text.hexValueOf? [e, f, g, h] with
        | none => .error (.at .unicodeEscape (rest.length + 6))
        | some next =>
          match pair? unit next with
          | some ch => (scanString opened (i :: rest)).map fun r => (ch :: r.1, r.2)
          | none =>
            (scanString opened ('\\' :: 'u' :: e :: f :: g :: h :: i :: rest)).map
              fun r => (single unit :: r.1, r.2)
      else
        (scanString opened ('\\' :: 'u' :: e :: f :: g :: h :: i :: rest)).map
          fun r => (single unit :: r.1, r.2)
  | '\\' :: 'u' :: a :: b :: c :: d :: e :: rest =>
    match Text.hexValueOf? [a, b, c, d] with
    | none => .error (.at .unicodeEscape (rest.length + 6))
    | some unit => (scanString opened (e :: rest)).map fun r => (single unit :: r.1, r.2)
  | '\\' :: 'u' :: rest => .error (.at .unicodeEscape (rest.length + 1))
  | '\\' :: c :: rest =>
    match escaped? c with
    | none => .error (.at .escape (rest.length + 2))
    | some ch => (scanString opened rest).map fun r => (ch :: r.1, r.2)
  | c :: rest =>
    if c.toNat < 0x20 then .error (.at .control (rest.length + 1))
    else (scanString opened rest).map fun r => (c :: r.1, r.2)

/-- The digits of a whole number without a sign: no digit follows a leading zero. -/
def scanWhole : List Char → Option (List Char × List Char)
  | '0' :: rest => some (['0'], rest)
  | c :: rest =>
    if Decimal.isDigit c then
      some (c :: rest.takeWhile Decimal.isDigit, rest.dropWhile Decimal.isDigit)
    else none
  | [] => none

/-- The digits after a point, if a point and a digit come next. -/
def scanFraction : List Char → Option (List Char × List Char)
  | '.' :: rest =>
    let ds := rest.takeWhile Decimal.isDigit
    if ds.isEmpty then none else some (ds, rest.dropWhile Decimal.isDigit)
  | _ => none

/-- The exponent, if its letter and a digit, perhaps with a sign between them, come next. -/
def scanExponent : List Char → Option (Int × List Char)
  | c :: rest =>
    if c = 'e' ∨ c = 'E' then
      let (negative, body) := Decimal.takeSign rest
      let ds := body.takeWhile Decimal.isDigit
      if ds.isEmpty then none
      else
        let n : Int := Decimal.digitsValue ds
        some (if negative then -n else n, body.dropWhile Decimal.isDigit)
    else none
  | [] => none

/-- A number; none if no number comes next. -/
def scanNumber (cs : List Char) : Except Stop (Option (Json × List Char)) :=
  let (negative, body) :=
    match cs with
    | '-' :: rest => (true, rest)
    | _ => (false, cs)
  match scanWhole body with
  | none => .ok none
  | some (whole, rest) =>
    let fraction := scanFraction rest
    let afterFraction := (fraction.map (·.2)).getD rest
    let exponent := scanExponent afterFraction
    if fraction.isNone ∧ exponent.isNone then
      if Decimal.maxDigits < whole.length then .error (.digits whole.length)
      else
        let n : Int := Decimal.digitsValue whole
        .ok (some (.int (if negative then -n else n), rest))
    else
      let places := (fraction.map (·.1)).getD []
      let numeral : Decimal.Numeral :=
        ⟨negative, Decimal.digitsValue (whole ++ places),
          (exponent.map (·.1)).getD 0 - places.length⟩
      .ok (some (.float numeral.toFloat, (exponent.map (·.2)).getD afterFraction))

/-- What is left after `word`, if the text begins with it. -/
def after? (word : String) (cs : List Char) : Option (List Char) :=
  if word.toList.isPrefixOf cs then some (cs.drop word.toList.length) else none

/-- A constant or a number. -/
def scanScalar (cs : List Char) : Except Stop (Json × List Char) :=
  let constants : List (String × Json) :=
    [("null", .null), ("true", .bool true), ("false", .bool false), ("NaN", .float (0.0 / 0.0)),
      ("Infinity", .float (1.0 / 0.0)), ("-Infinity", .float (-(1.0 / 0.0)))]
  match constants.findSome? fun c => (after? c.1 cs).map fun rest => (c.2, rest) with
  | some r => .ok r
  | none =>
    match scanNumber cs with
    | .error stop => .error stop
    | .ok (some r) => .ok r
    | .ok none => .error (.at .value cs.length)

mutual

/-- A value, of which `fuel` bounds the nesting. -/
def scanValue (fuel : Nat) (cs : List Char) : Except Stop (Json × List Char) :=
  match fuel with
  | 0 => .error (.at .value cs.length)
  | fuel + 1 =>
    match cs with
    | [] => .error (.at .value 0)
    | '"' :: rest => (scanString cs rest).map fun r => (.str (String.ofList r.1), r.2)
    | '[' :: rest =>
      match skipSpace rest with
      | ']' :: rest => .ok (.arr [], rest)
      | rest => (scanItems fuel rest).map fun r => (.arr r.1, r.2)
    | '\x7b' :: rest =>
      match skipSpace rest with
      | '\x7d' :: rest => .ok (.obj [], rest)
      | rest => (scanMembers fuel rest).map fun r => (.obj (Members.ofPairs r.1), r.2)
    | _ => scanScalar cs

/-- The items of an array up to its closing bracket; at least one. -/
def scanItems (fuel : Nat) (cs : List Char) : Except Stop (List Json × List Char) :=
  match fuel with
  | 0 => .error (.at .value cs.length)
  | fuel + 1 =>
    match scanValue fuel cs with
    | .error stop => .error stop
    | .ok (v, rest) =>
      match skipSpace rest with
      | ']' :: rest => .ok ([v], rest)
      | ',' :: rest => (scanItems fuel (skipSpace rest)).map fun r => (v :: r.1, r.2)
      | rest => .error (.at .comma rest.length)

/-- The members of an object up to its closing brace; at least one. -/
def scanMembers (fuel : Nat) (cs : List Char) : Except Stop (List (String × Json) × List Char) :=
  match fuel with
  | 0 => .error (.at .name cs.length)
  | fuel + 1 =>
    match cs with
    | '"' :: rest =>
      match scanString cs rest with
      | .error stop => .error stop
      | .ok (key, rest) =>
        match skipSpace rest with
        | ':' :: rest =>
          match scanValue fuel (skipSpace rest) with
          | .error stop => .error stop
          | .ok (v, rest) =>
            let m := (String.ofList key, v)
            match skipSpace rest with
            | '\x7d' :: rest => .ok ([m], rest)
            | ',' :: rest => (scanMembers fuel (skipSpace rest)).map fun r => (m :: r.1, r.2)
            | rest => .error (.at .comma rest.length)
        | rest => .error (.at .colon rest.length)
    | _ => .error (.at .name cs.length)

end

/-- One value with nothing but space around it. -/
def scanDocument (cs : List Char) : Except Stop Json :=
  if cs.head? = some '\ufeff' then .error (.at .byteOrderMark cs.length)
  else
    match scanValue (2 * cs.length + 2) (skipSpace cs) with
    | .error stop => .error stop
    | .ok (v, rest) =>
      match skipSpace rest with
      | [] => .ok v
      | rest => .error (.at .extra rest.length)

/-- The value that a text writes. -/
def parse (cs : List Char) : Except Fault Json :=
  match scanDocument cs with
  | .ok v => .ok v
  | .error stop => .error (Fault.locate cs stop)

end ProbeBench.Json
