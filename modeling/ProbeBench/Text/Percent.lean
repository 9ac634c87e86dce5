import ProbeBench.Text.Digit
import ProbeBench.Text.Utf8

/-!
# Percent forms

A percent sign and two hexadecimal digits in a URI stand for an octet. `decode` reads a text with
such forms: each run of ASCII characters is octets, which spell a text; octets that spell none are
read as the replacement character.

* `decode_of_plain`: a text without percent signs stays.
-/

namespace ProbeBench.Text.Percent

/-- The octets that ASCII characters with percent forms stand for. -/
def octets : List UInt8 → List UInt8
  | [] => []
  | [a] => [a]
  | [a, b] => [a, b]
  | a :: b :: c :: rest =>
    if a = 37 then
      match hexValueOf? [Char.ofNat b.toNat, Char.ofNat c.toNat] with
      | some n => n.toUInt8 :: octets rest
      | none => a :: octets (b :: c :: rest)
    else a :: octets (b :: c :: rest)

/-- The text that a run of ASCII characters, last first, stands for. -/
def run (reversed : List Char) : List Char :=
  let bs := octets (reversed.reverse.map fun c => c.toNat.toUInt8)
  Utf8.decodeLossy bs.length bs

/-- The text of what is left to read behind a run of ASCII characters, last first. -/
def decodeFrom (reversed : List Char) : List Char → List Char
  | [] => run reversed
  | c :: rest =>
    if c.toNat < 0x80 then decodeFrom (c :: reversed) rest
    else run reversed ++ c :: decodeFrom [] rest

/-- The text that a text with percent forms stands for. -/
def decode (cs : List Char) : List Char :=
  if cs.contains '%' then decodeFrom [] cs else cs

theorem decode_of_plain {cs : List Char} (h : '%' ∉ cs) : decode cs = cs := by
  simp [decode, h]

end ProbeBench.Text.Percent
