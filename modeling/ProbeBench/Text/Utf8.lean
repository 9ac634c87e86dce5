import ProbeBench.Text.Digit

/-!
# UTF-8

Texts as octets. `encode` writes each character in one to four octets. `decode` reads octets one at
a time and stops at the first that no text can have there: a `Fault` names the octets that spoil
the text and why. Overlong forms, surrogates and code points beyond the last one are refused at the
second octet, where the range that may follow the first octet is narrower.
-/

namespace ProbeBench.Text.Utf8

/-- Why octets are not UTF-8. -/
inductive Reason where
  /-- No character begins with this octet. -/
  | invalidStart
  /-- The octet that follows cannot continue the character begun. -/
  | invalidContinuation
  /-- The octets end inside a character. -/
  | unexpectedEnd
  deriving DecidableEq, Repr

/-- The reason in words. -/
def Reason.message : Reason → String
  | .invalidStart => "invalid start byte"
  | .invalidContinuation => "invalid continuation byte"
  | .unexpectedEnd => "unexpected end of data"

/-- The `count` octets from offset `start` on are no character; `first` is the first of them. -/
structure Fault where
  start : Nat
  count : Nat
  first : UInt8
  reason : Reason
  deriving DecidableEq, Repr

/-- The fault in words. -/
def Fault.message (f : Fault) : String :=
  let place :=
    if f.count = 1 then
      "byte 0x" ++ hex 2 f.first.toNat ++ " in position " ++ toString f.start
    else
      "bytes in position " ++ toString f.start ++ "-" ++ toString (f.start + f.count - 1)
  "'utf-8' codec can't decode " ++ place ++ ": " ++ f.reason.message

/-- A character begun and not ended: its value so far, the octets it still needs, the least and the
greatest octet that may follow, and where it began. -/
structure Open where
  value : Nat
  owed : Nat
  low : Nat
  high : Nat
  start : Nat
  seen : Nat
  first : UInt8

/-- The octets of one character. -/
def encodeChar (c : Char) : List UInt8 :=
  let n := c.toNat
  if n < 0x80 then [n.toUInt8]
  else if n < 0x800 then [(0xc0 + n / 0x40).toUInt8, (0x80 + n % 0x40).toUInt8]
  else if n < 0x10000 then
    [(0xe0 + n / 0x1000).toUInt8, (0x80 + n / 0x40 % 0x40).toUInt8, (0x80 + n % 0x40).toUInt8]
  else
    [(0xf0 + n / 0x40000).toUInt8, (0x80 + n / 0x1000 % 0x40).toUInt8,
      (0x80 + n / 0x40 % 0x40).toUInt8, (0x80 + n % 0x40).toUInt8]

/-- The octets of a text. -/
def encode (text : List Char) : List UInt8 :=
  text.flatMap encodeChar

/-- The character that octet `b` at offset `start` begins, when it takes more octets. -/
def begin? (start : Nat) (b : UInt8) : Option Open :=
  let n := b.toNat
  if 0xc2 ≤ n ∧ n ≤ 0xdf then some ⟨n - 0xc0, 1, 0x80, 0xbf, start, 1, b⟩
  else if 0xe0 ≤ n ∧ n ≤ 0xef then
    some ⟨n - 0xe0, 2, if n = 0xe0 then 0xa0 else 0x80, if n = 0xed then 0x9f else 0xbf, start, 1,
      b⟩
  else if 0xf0 ≤ n ∧ n ≤ 0xf4 then
    some ⟨n - 0xf0, 3, if n = 0xf0 then 0x90 else 0x80, if n = 0xf4 then 0x8f else 0xbf, start, 1,
      b⟩
  else none

/-- Reads the octets from offset `position` on; `within` is the character they continue, if any. -/
def decodeFrom (position : Nat) (within : Option Open) : List UInt8 → Except Fault (List Char)
  | [] =>
    match within with
    | none => .ok []
    | some o => .error ⟨o.start, o.seen, o.first, .unexpectedEnd⟩
  | b :: rest =>
    match within with
    | none =>
      if b.toNat < 0x80 then
        (decodeFrom (position + 1) none rest).map (Char.ofNat b.toNat :: ·)
      else
        match begin? position b with
        | some o => decodeFrom (position + 1) (some o) rest
        | none => .error ⟨position, 1, b, .invalidStart⟩
    | some o =>
      if o.low ≤ b.toNat ∧ b.toNat ≤ o.high then
        let value := o.value * 0x40 + (b.toNat - 0x80)
        if o.owed = 1 then
          (decodeFrom (position + 1) none rest).map (Char.ofNat value :: ·)
        else
          decodeFrom (position + 1)
            (some
              { o with value, owed := o.owed - 1, low := 0x80, high := 0xbf, seen := o.seen + 1 })
            rest
      else .error ⟨o.start, o.seen, o.first, .invalidContinuation⟩

/-- The text that the octets spell. -/
def decode (octets : List UInt8) : Except Fault (List Char) :=
  decodeFrom 0 none octets

/-- The character that stands where octets spell none. -/
def replacement : Char := '\ufffd'

/-- The text that the octets spell, with the replacement character for each of at most `fuel` places
where they spell none. -/
def decodeLossy : Nat → List UInt8 → List Char
  | 0, _ => []
  | fuel + 1, octets =>
    match decode octets with
    | .ok text => text
    | .error fault =>
      let before := ((decode (octets.take fault.start)).toOption).getD []
      before ++ replacement :: decodeLossy fuel (octets.drop (fault.start + fault.count))

end ProbeBench.Text.Utf8
