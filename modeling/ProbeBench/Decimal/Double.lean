/-!
# Doubles as exact numbers

A finite double is a whole number times a power of two. `Double.ofFloat` takes it apart, so that
printing and rounding are done on natural numbers; a `Fraction` is such a number as one quotient.
-/

namespace ProbeBench.Decimal

/-- What a double stands for: `mantissa * 2 ^ exponent` up to its sign when it is finite. -/
inductive Double where
  | nan
  | infinite (negative : Bool)
  | finite (negative : Bool) (mantissa : Nat) (exponent : Int)
  deriving DecidableEq, Repr

/-- The 64th bit, which is the sign of a double. -/
def signBit : Nat := 0x8000000000000000

/-- The 53rd bit, which is left out of a double and always set where there is an exponent. -/
def leadingBit : Nat := 0x10000000000000

/-- The parts of a 64-bit word: sign, 11 bits of exponent, 52 bits of fraction. -/
def Double.ofBits (bits : Nat) : Double :=
  let negative := decide (signBit ≤ bits)
  let field : Nat := bits / leadingBit % 2048
  let fraction := bits % leadingBit
  if field = 2047 then if fraction = 0 then .infinite negative else .nan
  else if field = 0 then .finite negative fraction (-1074)
  else .finite negative (leadingBit + fraction) ((field : Int) - 1075)

/-- What a float stands for. -/
def Double.ofFloat (x : Float) : Double :=
  .ofBits x.toBits.toNat

/-- A quotient of natural numbers. -/
structure Fraction where
  num : Nat
  den : Nat
  deriving DecidableEq, Repr

/-- `mantissa * 2 ^ exponent` as a quotient. -/
def Fraction.ofBinary (mantissa : Nat) (exponent : Int) : Fraction :=
  ⟨mantissa * Nat.pow 2 exponent.toNat, Nat.pow 2 (-exponent).toNat⟩

/-- The quotient divided by `10 ^ exponent`. -/
def Fraction.inTens (f : Fraction) (exponent : Int) : Fraction :=
  ⟨f.num * Nat.pow 10 (-exponent).toNat, f.den * Nat.pow 10 exponent.toNat⟩

/-- The whole number below the quotient. -/
def Fraction.floor (f : Fraction) : Nat := f.num / f.den

/-- The whole number nearest to the quotient; a half goes to the even neighbour. -/
def Fraction.round (f : Fraction) : Nat :=
  let q := f.num / f.den
  let twice := 2 * (f.num % f.den)
  if twice < f.den then q
  else if f.den < twice then q + 1
  else q + q % 2

/-- Steps from `10 ^ (-steps)` down to the first power of ten that is not above the quotient. -/
def Fraction.smallExponent (f : Fraction) : Nat → Nat → Int
  | 0, steps => -(steps : Int)
  | fuel + 1, steps =>
    if f.den ≤ f.num * Nat.pow 10 steps then -(steps : Int) else f.smallExponent fuel (steps + 1)

/-- The exponent of the highest power of ten that is not above a positive quotient; quotients below
`10 ^ (-400)` have none. -/
def Fraction.exponent10 (f : Fraction) : Int :=
  if f.floor = 0 then f.smallExponent 400 1
  else ((Nat.toDigits 10 f.floor).length : Int) - 1

/-- The nearest whole number to `mantissa * 2 ^ exponent`, a half to the even neighbour. -/
def roundBinary (negative : Bool) (mantissa : Nat) (exponent : Int) : Int :=
  let n := (Fraction.ofBinary mantissa exponent).round
  if negative then -(n : Int) else n

/-- What keeps a double from being rounded. -/
inductive Unrounded where
  | notNumber
  | endless
  deriving DecidableEq, Repr

/-- The nearest whole number to a double, a half to the even neighbour. -/
def round (x : Float) : Except Unrounded Int :=
  match Double.ofFloat x with
  | .nan => .error .notNumber
  | .infinite _ => .error .endless
  | .finite negative mantissa exponent => .ok (roundBinary negative mantissa exponent)

end ProbeBench.Decimal
