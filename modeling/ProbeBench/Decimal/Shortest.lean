import ProbeBench.Decimal.Double

/-!
# Decimal digits of a double

`shortest` gives the fewest decimal digits that read back as the same double: it tries one digit,
then two, and so on. A decimal reads back when it lies between the midpoints to the neighbouring
doubles; a midpoint itself reads back when the mantissa is even. On the grid of `n` digits the only
candidates are the two grid points around the value, and the nearer one is taken.
`significant` gives a fixed number of digits instead.
-/

namespace ProbeBench.Decimal

/-- The number `digits * 10 ^ exponent`. -/
structure Digits where
  digits : Nat
  exponent : Int
  deriving DecidableEq, Repr

/-- Strips zeros at the end of the digits, which number at most `fuel`. -/
def stripZeros : Nat → Digits → Digits
  | 0, d => d
  | fuel + 1, d =>
    if d.digits ≠ 0 ∧ d.digits % 10 = 0 then stripZeros fuel ⟨d.digits / 10, d.exponent + 1⟩ else d

/-- The same number without zeros at the end of its digits. -/
def Digits.normal (d : Digits) : Digits :=
  stripZeros (Nat.toDigits 10 d.digits).length d

/-- The decimals that read back as one double: from `low` to `high`, in quarters of the unit
`2 ^ (exponent - 2)`, with both ends or without them. -/
structure Interval where
  low : Nat
  value : Nat
  high : Nat
  closed : Bool
  exponent : Int

/-- The interval around `mantissa * 2 ^ exponent`; below a power of two the neighbour is half as
far away. -/
def Interval.of (mantissa : Nat) (exponent : Int) : Interval :=
  { low := 4 * mantissa - (if mantissa = leadingBit ∧ -1074 < exponent then 1 else 2)
    value := 4 * mantissa
    high := 4 * mantissa + 2
    closed := mantissa % 2 = 0
    exponent := exponent - 2 }

/-- Whether `count * 10 ^ grid` lies in the interval. -/
def Interval.contains (i : Interval) (grid : Int) (count : Nat) : Bool :=
  let unit := Fraction.ofBinary 1 i.exponent
  let point := (Fraction.mk count 1).inTens (-grid)
  let scaled := point.num * unit.den
  let low := i.low * unit.num * point.den
  let high := i.high * unit.num * point.den
  if i.closed then low ≤ scaled && scaled ≤ high else low < scaled && scaled < high

/-- The point of the grid `10 ^ grid` that lies in the interval and is nearest to its value. -/
def Interval.pick? (i : Interval) (grid : Int) : Option Nat :=
  let scaled := (Fraction.ofBinary i.value i.exponent).inTens grid
  let below := scaled.floor
  let nearest := scaled.round
  if i.contains grid nearest then some nearest
  else if i.contains grid below then some below
  else if i.contains grid (below + 1) then some (below + 1)
  else none

/-- Tries grids from `grid` on, each ten times finer than the one before. -/
def Interval.search (i : Interval) : Nat → Int → Digits
  | 0, grid => ⟨((Fraction.ofBinary i.value i.exponent).inTens grid).round, grid⟩
  | fuel + 1, grid =>
    match i.pick? grid with
    | some n => ⟨n, grid⟩
    | none => i.search fuel (grid - 1)

/-- The fewest digits that read back as `mantissa * 2 ^ exponent`. -/
def shortest (mantissa : Nat) (exponent : Int) : Digits :=
  if mantissa = 0 then ⟨0, 0⟩
  else
    let top := (Fraction.ofBinary mantissa exponent).exponent10
    ((Interval.of mantissa exponent).search 17 top).normal

/-- The number in `count` digits, a half going to the even digit. -/
def significant (count : Nat) (mantissa : Nat) (exponent : Int) : Digits :=
  if mantissa = 0 then ⟨0, 0⟩
  else
    let f := Fraction.ofBinary mantissa exponent
    let grid := f.exponent10 - ((count : Int) - 1)
    (Digits.mk (f.inTens grid).round grid).normal

end ProbeBench.Decimal
