import ProbeBench.Config.Setting
import ProbeBench.Toml.Fault

/-!
# Numbers, dates and times

The values of a TOML document that are written without quotes and brackets. A date may be followed,
after a `T` or a blank, by a time, and that by a distance from universal time. Digits of a number
may have single underscores between them; whole numbers may be hexadecimal, octal or binary. What
reads as a date is a date, even where it also begins like a number.
-/

namespace ProbeBench.Toml

open ProbeBench.Config

/-! ## Dates and times -/

/-- The number in the next `width` digits. -/
def fixed? (width : Nat) (cs : List Char) : Option (Nat × List Char) :=
  let ds := cs.take width
  if ds.length = width && ds.all Decimal.isDigit then
    some (Decimal.digitsValue ds, cs.drop width)
  else none

/-- The number in the next two digits, from `low` to `high`. -/
def pair? (low high : Nat) (cs : List Char) : Option (Nat × List Char) :=
  (fixed? 2 cs).filter fun r => low ≤ r.1 && r.1 ≤ high

/-- The text behind a character. -/
def after? (c : Char) : List Char → Option (List Char)
  | d :: rest => if d = c then some rest else none
  | [] => none

/-- A day, which need not exist. -/
def date? (cs : List Char) : Option (Date × List Char) := do
  let (year, cs) ← fixed? 4 cs
  let (month, cs) ← pair? 1 12 (← after? '-' cs)
  let (day, cs) ← pair? 1 31 (← after? '-' cs)
  return (⟨year, month, day⟩, cs)

/-- A fraction of a second in millionths; digits beyond the sixth do not count. -/
def fraction (cs : List Char) : Nat × List Char :=
  match cs with
  | '.' :: rest =>
    let ds := rest.takeWhile Decimal.isDigit
    if ds.isEmpty then (0, cs)
    else
      let six := ds.take 6
      (Decimal.digitsValue six * Nat.pow 10 (6 - six.length), rest.drop ds.length)
  | _ => (0, cs)

/-- A time of day. -/
def clock? (cs : List Char) : Option (Clock × List Char) := do
  let (hour, cs) ← pair? 0 23 cs
  let (minute, cs) ← pair? 0 59 (← after? ':' cs)
  let (second, cs) ← pair? 0 59 (← after? ':' cs)
  let (micro, cs) := fraction cs
  return (⟨hour, minute, second, micro⟩, cs)

/-- A distance from universal time of the given sign. -/
def distance? (sign : Int) (cs : List Char) : Option (Int × List Char) := do
  let (hour, cs) ← pair? 0 23 cs
  let (minute, cs) ← pair? 0 59 (← after? ':' cs)
  return (sign * (hour * 60 + minute : Nat), cs)

/-- A distance from universal time, if there is one here. -/
def offset (cs : List Char) : Option Int × List Char :=
  let found : Option (Int × List Char) :=
    match cs with
    | 'Z' :: rest => some (0, rest)
    | 'z' :: rest => some (0, rest)
    | '+' :: rest => distance? 1 rest
    | '-' :: rest => distance? (-1) rest
    | _ => none
  match found with
  | some (minutes, rest) => (some minutes, rest)
  | none => (none, cs)

/-- The time of day behind a date. -/
def clockAfterDate? : List Char → Option (Clock × List Char)
  | c :: rest => if c = 'T' ∨ c = 't' ∨ c = ' ' then clock? rest else none
  | [] => none

/-- A date, alone or with a time; none if no date begins here. -/
def dateOrMoment? (cs : List Char) : Option (Except Stop (Setting × List Char)) :=
  (date? cs).map fun (date, rest) =>
    if date.isValid then
      match clockAfterDate? rest with
      | some (clock, rest) =>
        let (minutes, rest) := offset rest
        .ok (.moment ⟨date, clock, minutes⟩, rest)
      | none => .ok (.date date, rest)
    else .error (.at .moment cs.length)

/-! ## Numbers -/

/-- The digits that go on a run of them, each with an underscore before it or without, and the
rest. -/
def moreDigits (isDigit : Char → Bool) : List Char → List Char × List Char
  | '_' :: d :: rest =>
    if isDigit d then
      let r := moreDigits isDigit rest
      (d :: r.1, r.2)
    else ([], '_' :: d :: rest)
  | d :: rest =>
    if isDigit d then
      let r := moreDigits isDigit rest
      (d :: r.1, r.2)
    else ([], d :: rest)
  | [] => ([], [])

/-- A run of digits. -/
def digits? (isDigit : Char → Bool) : List Char → Option (List Char × List Char)
  | d :: rest =>
    if isDigit d then
      let r := moreDigits isDigit rest
      some (d :: r.1, r.2)
    else none
  | [] => none

/-- The value of digits in base `base`. -/
def valueIn (base : Nat) (ds : List Char) : Nat :=
  ds.foldl (fun n d => n * base + (Text.hexValue? d).getD 0) 0

/-- A whole number whose base is given by the letter behind a zero. -/
def based? : List Char → Option (Setting × List Char)
  | '0' :: letter :: rest =>
    let base :=
      if letter = 'x' then 16 else if letter = 'o' then 8 else if letter = 'b' then 2 else 0
    (digits? (fun d => (Text.hexValue? d).any (· < base)) rest).map fun (ds, rest) =>
      (.int (valueIn base ds), rest)
  | _ => none

/-- The digits before the point: a zero, or digits that begin with another. -/
def whole? (cs : List Char) : Option (List Char × List Char) :=
  match cs with
  | '0' :: rest => some (['0'], rest)
  | _ => digits? Decimal.isDigit cs

/-- The digits behind the point, if there is one with digits behind it. -/
def places (cs : List Char) : List Char × List Char :=
  match cs with
  | '.' :: rest => (digits? Decimal.isDigit rest).getD ([], cs)
  | _ => ([], cs)

/-- The exponent, if there is one. -/
def exponent? (cs : List Char) : Option (Int × List Char) :=
  match cs with
  | c :: rest =>
    if c = 'e' ∨ c = 'E' then
      let (negative, rest) := Decimal.takeSign rest
      (digits? Decimal.isDigit rest).map fun (ds, rest) =>
        (if negative then -(Decimal.digitsValue ds : Int) else Decimal.digitsValue ds, rest)
    else none
  | [] => none

/-- A decimal number: floating if it has a fraction or an exponent. -/
def decimal? (cs : List Char) : Option (Except Stop (Setting × List Char)) :=
  let (negative, body) := Decimal.takeSign cs
  (whole? body).map fun (whole, rest) =>
    let (fraction, rest) := places rest
    match exponent? rest with
    | some (e, rest) =>
      .ok (.float (Decimal.Numeral.toFloat
        ⟨negative, Decimal.digitsValue (whole ++ fraction), e - fraction.length⟩), rest)
    | none =>
      if fraction.isEmpty then
        if Decimal.maxDigits < whole.length then .error (.digits whole.length)
        else
          let n : Int := Decimal.digitsValue whole
          .ok (.int (if negative then -n else n), rest)
      else
        .ok (.float (Decimal.Numeral.toFloat
          ⟨negative, Decimal.digitsValue (whole ++ fraction), -(fraction.length : Int)⟩), rest)

/-- The words for infinity and for no number, with a sign or without. -/
def special? (cs : List Char) : Option (Setting × List Char) :=
  let (negative, body) := Decimal.takeSign cs
  let signed (x : Float) : Float := if negative then -x else x
  if "inf".toList.isPrefixOf body then some (.float (signed (1.0 / 0.0)), body.drop 3)
  else if "nan".toList.isPrefixOf body then some (.float (signed (0.0 / 0.0)), body.drop 3)
  else none

/-- A truth value. -/
def truth? (cs : List Char) : Option (Setting × List Char) :=
  if "true".toList.isPrefixOf cs then some (.bool true, cs.drop 4)
  else if "false".toList.isPrefixOf cs then some (.bool false, cs.drop 5)
  else none

/-- A value without quotes and brackets. -/
def scalar (cs : List Char) : Except Stop (Setting × List Char) :=
  let plain (r : Option (Setting × List Char)) : Option (Except Stop (Setting × List Char)) :=
    r.map .ok
  let clock := (clock? cs).map fun (c, rest) => (Setting.clock c, rest)
  (plain (truth? cs) <|> dateOrMoment? cs <|> plain clock <|> plain (based? cs) <|> decimal? cs <|>
    plain (special? cs)).getD (.error (.at .value cs.length))

end ProbeBench.Toml
