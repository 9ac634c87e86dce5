import ProbeBench.Frame.Fault
import ProbeBench.Text.Search

/-!
# Frame headers

A frame is a header, an empty line and a body. The header's lines are fields with a name, a colon
and a value; one of them, whose name may be in any letter case, gives the length of the body in
octets. `declaredLength` reads it: the last such field counts, but every field before it must be
readable too.
-/

namespace ProbeBench.Frame

/-- The octets of an ASCII text. -/
def ascii (s : String) : List UInt8 :=
  s.toList.map fun c => c.toNat.toUInt8

/-- What ends a header. -/
def terminator : List UInt8 := [13, 10, 13, 10]

/-- The field name that gives the length, with its colon, in small letters. -/
def lengthField : List UInt8 := ascii "content-length:"

/-- An octet with capital ASCII letters made small. -/
def small (b : UInt8) : UInt8 :=
  if 65 ≤ b ∧ b ≤ 90 then b + 32 else b

/-- Whether octets begin with small letters, in any case. -/
def beginsWith : List UInt8 → List UInt8 → Bool
  | [], _ => true
  | _ :: _, [] => false
  | letter :: letters, b :: rest => letter == small b && beginsWith letters rest

/-- Whether an octet is an ASCII blank. -/
def isBlankOctet (b : UInt8) : Bool :=
  b = 32 || (9 ≤ b && b ≤ 13)

/-- Octets without blanks at both ends. -/
def trim (bs : List UInt8) : List UInt8 :=
  ((bs.dropWhile isBlankOctet).reverse.dropWhile isBlankOctet).reverse

/-- The value of a field: what follows the first colon, without blanks around it. -/
def fieldValue (line : List UInt8) : List UInt8 :=
  trim ((line.dropWhile (· ≠ 58)).drop 1)

/-- The whole number that octets write. -/
def readLength? (value : List UInt8) : Option Int :=
  Decimal.readInt? (value.map fun b => Char.ofNat b.toNat)

/-- The length after one more line, given the length `found` so far. -/
def scanLine (found : Option Int) (line : List UInt8) : Except Fault (Option Int) :=
  if !line.contains 58 then .error (.malformedLine (line.take shownLine))
  else if beginsWith lengthField line then
    let value := fieldValue line
    match readLength? value with
    | some n => .ok (some n)
    | none => .error (.unreadableLength (value.take shownValue))
  else .ok found

/-- The length after all lines. -/
def scanLines (found : Option Int) : List (List UInt8) → Except Fault (Option Int)
  | [] => .ok found
  | line :: rest =>
    match scanLine found line with
    | .error fault => .error fault
    | .ok found => scanLines found rest

/-- The length of the body that a header declares. -/
def declaredLength (header : List UInt8) : Except Fault Nat :=
  match scanLines none (Text.splitPair 13 10 header) with
  | .error fault => .error fault
  | .ok none => .error .missingLength
  | .ok (some n) => if n ≤ 0 then .error (.emptyLength n) else .ok n.toNat

theorem beginsWith_eq (letters bs : List UInt8) :
    beginsWith letters bs = letters.isPrefixOf (bs.map small) := by
  induction letters generalizing bs with
  | nil => simp [beginsWith]
  | cons letter letters ih => cases bs <;> simp [beginsWith, List.isPrefixOf, ih]

theorem declaredLength_pos {header : List UInt8} {n : Nat} (h : declaredLength header = .ok n) :
    0 < n := by
  unfold declaredLength at h
  split at h
  · cases h
  · cases h
  · split at h
    · cases h
    · cases h; omega

end ProbeBench.Frame
