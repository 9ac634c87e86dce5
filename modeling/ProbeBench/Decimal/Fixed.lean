import ProbeBench.Decimal.Shortest
import ProbeBench.Decimal.Written

/-!
# Numbers with a given number of places

Three ways to write a quotient with as many digits as are asked for: `fixed` has places behind the
point, `exponential` a leading digit and an exponent, and `general` takes the one of them that is
shorter and leaves out zeros at the end. `hexadecimal` writes a double exactly. A half goes to the
even neighbour.

* `places_pointed`: behind the point there are as many digits as were asked for.
-/

namespace ProbeBench.Decimal

/-- Digits with a point in front of the last `places` of them; where there are no places, the point
is written only if it is asked for. -/
def pointed (marked : Bool) (places : Nat) (ds : List Char) : List Char :=
  let ds := List.replicate (places + 1 - ds.length) '0' ++ ds
  let whole := ds.length - places
  ds.take whole ++ if places = 0 && !marked then [] else '.' :: ds.drop whole

/-- A text without the zeros at the end of its places, and without a point that nothing follows. -/
def withoutZeros (cs : List Char) : List Char :=
  if !cs.contains '.' then cs
  else
    match cs.reverse.dropWhile (· = '0') with
    | '.' :: rest => rest.reverse
    | rest => rest.reverse

/-- A quotient in `count` digits, with zeros at the end if need be. -/
def Fraction.inDigits (f : Fraction) (count : Nat) : Digits :=
  let least : Int := 1 - (count : Int)
  if f.num = 0 then ⟨0, least⟩
  else
    let grid := f.exponent10 + least
    let n := (f.inTens grid).round
    if n = Nat.pow 10 count then ⟨n / 10, grid + 1⟩ else ⟨n, grid⟩

/-- A quotient with `places` digits behind the point. -/
def Fraction.fixed (f : Fraction) (marked : Bool) (places : Nat) : List Char :=
  pointed marked places (digitsOf (f.inTens (-(places : Int))).round)

/-- A quotient with one digit in front of the point, `places` behind it, and an exponent. -/
def Fraction.exponential (f : Fraction) (marked : Bool) (places : Nat) : List Char :=
  let d := f.inDigits (places + 1)
  pointed marked places (digitsOf d.digits) ++ 'e' :: writeExponent (d.exponent + places)

/-- A quotient in `count` digits: positional where the leading one is moderate, and else with an
exponent. Zeros at the end of the places are kept only if the point is asked for. -/
def Fraction.general (f : Fraction) (marked : Bool) (count : Nat) : List Char :=
  let d := f.inDigits count
  let place := d.exponent + count - 1
  let shown (cs : List Char) : List Char := if marked then cs else withoutZeros cs
  if -4 ≤ place ∧ place < count then
    shown (pointed marked (-d.exponent).toNat (digitsOf d.digits))
  else
    shown (pointed marked (count - 1) (digitsOf d.digits)) ++ 'e' :: writeExponent place

/-- The digits of base 16 behind the point of a double. -/
def hexPlaces : Nat := 13

/-- A double in digits of base 16 with an exponent of base 2: exact, or with `places` digits behind
the point. -/
def hexadecimal (marked : Bool) (places : Option Nat) (mantissa : Nat) (exponent : Int) :
    List Char :=
  let kept := places.getD hexPlaces
  let n := (Fraction.mk mantissa (Nat.pow 16 (hexPlaces - kept))).round
  let ds := Nat.toDigits 16 n
  let ds := List.replicate (min kept hexPlaces + 1 - ds.length) '0' ++ ds
  let ds := ds ++ List.replicate (kept - hexPlaces) '0'
  let written := pointed marked kept ds
  let place := if mantissa = 0 then 0 else exponent + 4 * hexPlaces
  '0' :: 'x' :: (if places.isNone then withoutZeros written else written) ++
    'p' :: (if place < 0 then '-' else '+') :: digitsOf place.natAbs

theorem places_pointed (places : Nat) (ds : List Char) :
    ∃ whole fraction, pointed true places ds = whole ++ '.' :: fraction ∧
      fraction.length = places := by
  refine ⟨_, _, by simp only [pointed, Bool.not_true, Bool.and_false]; rfl, ?_⟩
  simp only [List.length_drop, List.length_append, List.length_replicate]
  omega

end ProbeBench.Decimal
