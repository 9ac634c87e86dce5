import ProbeBench.Text.Blank
import ProbeBench.Text.Digit

/-!
# Reading numbers

Texts as numbers. `Numeral` is a decimal that was read: digits, a power of ten and a sign; its
`toFloat` is the nearest double, infinite when it is too large. `readFloat?` accepts a sign,
single underscores between digits, a fraction, an exponent, and the words for infinity and for no
number; `readNumber?` also digits of other scripts and blanks around the number. `readInt?`
accepts whole numbers with a sign and underscores, of at most `maxDigits` digits. `readLoose?` is
freer than these about underscores, and takes no other digits.
-/

namespace ProbeBench.Decimal

/-- The most digits that a whole number may have. -/
def maxDigits : Nat := 4300

/-- The message for a whole number of too many digits. -/
def tooManyDigits (count : Nat) : String :=
  "Exceeds the limit (" ++ toString maxDigits ++
    " digits) for integer string conversion: value has " ++ toString count ++
    " digits; use sys.set_int_max_str_digits() to increase the limit"

/-- The message for a whole number that would be written with too many digits. -/
def unwritable : String :=
  "Exceeds the limit (" ++ toString maxDigits ++
    " digits) for integer string conversion; use sys.set_int_max_str_digits() to increase the limit"

/-- Whether a whole number has at most as many digits as may be written. -/
def isWritable (n : Int) : Bool := decide (n.natAbs < Nat.pow 10 maxDigits)

/-- Whether `c` is a decimal digit. -/
def isDigit (c : Char) : Bool := '0' ≤ c && c ≤ '9'

/-- The number that decimal digits spell. -/
def digitsValue (cs : List Char) : Nat :=
  cs.foldl (fun n c => n * 10 + (c.toNat - 48)) 0

/-- The decimal `digits * 10 ^ exponent` with a sign. -/
structure Numeral where
  negative : Bool
  digits : Nat
  exponent : Int
  deriving DecidableEq, Repr

/-- The number of decimal digits before the point. -/
def Numeral.magnitude (n : Numeral) : Int :=
  (Nat.toDigits 10 n.digits).length + n.exponent

/-- The nearest double. -/
def Numeral.toFloat (n : Numeral) : Float :=
  let x : Float :=
    if n.digits = 0 ∨ n.magnitude < -400 then 0.0
    else if 400 < n.magnitude then 1.0 / 0.0
    else Float.ofScientific n.digits (n.exponent < 0) n.exponent.natAbs
  if n.negative then -x else x

/-- The nearest double to a whole number; none if it is beyond all doubles. -/
def double? (n : Int) : Option Float :=
  let x := Numeral.toFloat ⟨n < 0, n.natAbs, 0⟩
  if x.isInf then none else some x

/-- The digits of a run in which single underscores may stand between two digits. -/
def grouped? : List Char → Option (List Char)
  | [] => none
  | [c] => if isDigit c then some [c] else none
  | c :: '_' :: rest => if isDigit c then (grouped? rest).map (c :: ·) else none
  | c :: rest => if isDigit c then (grouped? rest).map (c :: ·) else none

/-- Takes a sign off the front: whether it is a minus, and the rest. -/
def takeSign : List Char → Bool × List Char
  | '-' :: rest => (true, rest)
  | '+' :: rest => (false, rest)
  | cs => (false, cs)

/-- A whole number without blanks around it: a sign and digits, grouped or not. -/
def readInt? (cs : List Char) : Option Int :=
  let (negative, body) := takeSign cs
  (grouped? body).bind fun ds =>
    if maxDigits < ds.length then none
    else some (if negative then -(digitsValue ds : Int) else digitsValue ds)

/-- Whether `c` belongs to a run of digits with underscores. -/
def isGroupChar (c : Char) : Bool := isDigit c || c = '_'

/-- An exponent after its letter. -/
def readExponent? (cs : List Char) : Option Int :=
  let (negative, body) := takeSign cs
  (grouped? body).map fun ds => if negative then -(digitsValue ds : Int) else digitsValue ds

/-- The fraction and the exponent after the whole part `whole`, which may be empty if there is a
fraction. -/
def readFraction? (negative : Bool) (whole : List Char) (rest : List Char) : Option Numeral :=
  let finish (ds : List Char) (places : Nat) : List Char → Option Numeral
    | [] => some ⟨negative, digitsValue ds, -(places : Int)⟩
    | c :: more =>
      if c = 'e' ∨ c = 'E' then
        (readExponent? more).map fun e => ⟨negative, digitsValue ds, e - places⟩
      else none
  match rest with
  | '.' :: more =>
    let run := more.takeWhile isGroupChar
    if run.isEmpty then
      if whole.isEmpty then none else finish whole 0 (more.drop run.length)
    else (grouped? run).bind fun ds => finish (whole ++ ds) ds.length (more.drop run.length)
  | _ => if whole.isEmpty then none else finish whole 0 rest

/-- A decimal without sign and blanks. -/
def readUnsigned? (negative : Bool) (cs : List Char) : Option Numeral :=
  let run := cs.takeWhile isGroupChar
  if run.isEmpty then readFraction? negative [] cs
  else (grouped? run).bind fun ds => readFraction? negative ds (cs.drop run.length)

/-- A number without blanks around it. -/
def readFloat? (cs : List Char) : Option Float :=
  let (negative, body) := takeSign cs
  let word := String.ofList (body.map Char.toLower)
  let signed (x : Float) : Float := if negative then -x else x
  if word = "inf" ∨ word = "infinity" then some (signed (1.0 / 0.0))
  else if word = "nan" then some (signed (0.0 / 0.0))
  else (readUnsigned? negative body).map Numeral.toFloat

/-- A text without characters of a kind at its ends. -/
def trimBy (isGap : Char → Bool) (cs : List Char) : List Char :=
  ((cs.dropWhile isGap).reverse.dropWhile isGap).reverse

/-- A text without the blanks at its ends. -/
def trim (cs : List Char) : List Char := trimBy Text.isBlank cs

/-- A number without blanks and underscores. -/
def readPlain? (cs : List Char) : Option Float :=
  if cs.contains '_' then none else readFloat? cs

/-- Whether all underscores stand alone, and inside a text. -/
def hasInnerUnderscores : List Char → Bool
  | [] => true
  | ['_'] => false
  | '_' :: '_' :: _ => false
  | _ :: rest => hasInnerUnderscores rest

/-- A number in plain digits with white space around it; or else one that is left of the text
without its underscores, which may stand anywhere inside it but not side by side. -/
def readLoose? (cs : List Char) : Option Float :=
  match readPlain? (trimBy Text.isWhiteSpace cs) with
  | some x => some x
  | none =>
    if cs.head? ≠ some '_' && hasInnerUnderscores cs then readPlain? (cs.filter (· ≠ '_'))
    else none

/-- A number as people write it, with digits of any script and blanks around it. -/
def readNumber? (cs : List Char) : Option Float :=
  readFloat? ((trim cs).map Text.plainDigit)

end ProbeBench.Decimal
