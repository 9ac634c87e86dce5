import ProbeBench.Decimal.Shortest

/-!
# Written numbers

How doubles are written: the digits chosen for them, positional where the leading digit's place is
moderate and with an exponent elsewhere. A `Style` fixes where positional writing ends and how a
whole number and the special values look. Three styles are in use: `message` for data in messages
and in frames, whose special values differ, and `brief` for durations in error texts.
-/

namespace ProbeBench.Decimal

/-- The decisions of one way to write numbers. -/
structure Style where
  /-- Writing is positional from `10 ^ leastPlace` on … -/
  leastPlace : Int
  /-- … and below `10 ^ firstExponential`. -/
  firstExponential : Int
  /-- What follows a whole number that is written positionally. -/
  wholeMark : String
  nan : String
  infinity : String

/-- Data in messages: every digit that is needed, and a mark on whole numbers. -/
def Style.message : Style := ⟨-4, 16, ".0", "nan", "inf"⟩

/-- Data in frames, where the special values are words. -/
def Style.frame : Style := ⟨-4, 16, ".0", "NaN", "Infinity"⟩

/-- Durations in error texts. -/
def Style.brief : Style := ⟨-4, 6, "", "nan", "inf"⟩

/-- The digits of a natural number. -/
def digitsOf (n : Nat) : List Char := Nat.toDigits 10 n

/-- An exponent: its sign and at least two digits. -/
def writeExponent (e : Int) : List Char :=
  let ds := digitsOf e.natAbs
  (if e < 0 then '-' else '+') :: (if ds.length < 2 then '0' :: ds else ds)

/-- Digits without a sign. -/
def Style.write (style : Style) (d : Digits) : List Char :=
  let ds := digitsOf d.digits
  let place := d.exponent + ds.length - 1
  if place < style.leastPlace ∨ style.firstExponential ≤ place then
    let fraction := ds.drop 1
    ds.take 1 ++ (if fraction.isEmpty then [] else '.' :: fraction) ++ 'e' :: writeExponent place
  else if 0 ≤ d.exponent then
    ds ++ List.replicate d.exponent.toNat '0' ++ style.wholeMark.toList
  else if 0 ≤ place then
    ds.take (place.toNat + 1) ++ '.' :: ds.drop (place.toNat + 1)
  else
    '0' :: '.' :: (List.replicate (-place - 1).toNat '0' ++ ds)

/-- A double whose finite digits `digits` chooses. -/
def Style.double (style : Style) (digits : Nat → Int → Digits) (x : Float) : String :=
  let sign (negative : Bool) := if negative then "-" else ""
  match Double.ofFloat x with
  | .nan => style.nan
  | .infinite negative => sign negative ++ style.infinity
  | .finite negative m e => sign negative ++ String.ofList (style.write (digits m e))

/-- A double as messages show it: the fewest digits that read back. -/
def message (x : Float) : String := Style.message.double shortest x

/-- A double as frames hold it. -/
def frame (x : Float) : String := Style.frame.double shortest x

/-- A double in at most six digits. -/
def brief (x : Float) : String := Style.brief.double (significant 6) x

end ProbeBench.Decimal
