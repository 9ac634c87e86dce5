import ProbeBench.Proofs.Frame.Stream

/-!
# What a decoder keeps

A decoder that is fed takes items off its buffer until it cannot take off another one. Every item
makes the buffer shorter, whichever way it was taken off, so that ends. What the decoder keeps then
is the end of all that it was fed with, and it keeps it for a reason: the header at its front has
not ended and is not too long to be waited for, or it has ended and the body is not there yet.

* `Passes`: some items go, one after the other; `passes_drain`: all of them do.
* `Waits`: the reasons for which octets are kept. `next?_eq_none_iff`: no item can be taken off just
  where there is one of them.
* `Waits.not_whole`: a complete frame is not kept.
* `feed_settles`: what feeding a decoder does, in every state that it reaches.
-/

namespace ProbeBench.Frame

open Decoder

/-! ## Items go -/

/-- Items are taken off the front of a buffer, one after the other, and `last` is left. Every one of
them makes it shorter. -/
inductive Passes : Decoder → List Item → Decoder → Prop
  | stay (buffer : Decoder) : Passes buffer [] buffer
  | take {buffer rest last : Decoder} {item : Item} {items : List Item}
      (next : next? buffer = some (item, rest)) (shorter : rest.length < buffer.length)
      (later : Passes rest items last) : Passes buffer (item :: items) last

/-- **Draining a buffer** takes items off it until there is none left to take. -/
theorem passes_drain (buffer : Decoder) : Passes buffer (drain buffer).1 (drain buffer).2 := by
  induction hlen : buffer.length using Nat.strongRecOn generalizing buffer with
  | ind len ih =>
    cases hn : next? buffer with
    | none =>
      rw [drain_of_none hn]
      exact .stay buffer
    | some r =>
      obtain ⟨item, rest⟩ := r
      have shorter := next?_length_lt hn
      rw [drain_of_some hn]
      exact .take hn shorter (ih rest.length (hlen ▸ shorter) rest rfl)

/-- As many items as octets go, at most. -/
theorem Passes.length_le {buffer last : Decoder} {items : List Item} (h : Passes buffer items last) :
    items.length + last.length ≤ buffer.length := by
  induction h with
  | stay => simp
  | take next shorter later ih =>
    rw [List.length_cons]
    omega

theorem next?_suffix {buffer rest : Decoder} {item : Item} (h : next? buffer = some (item, rest)) :
    rest <:+ buffer := by
  obtain ⟨r, -, he⟩ := Option.map_eq_some_iff.mp h
  cases he
  exact List.drop_suffix r.2 buffer

/-- Octets go from the front only. -/
theorem Passes.suffix {buffer last : Decoder} {items : List Item} (h : Passes buffer items last) :
    last <:+ buffer := by
  induction h with
  | stay => exact List.suffix_rfl
  | take next shorter later ih => exact ih.trans (next?_suffix next)

/-- **What is kept after any chunks** is the end of the whole stream. -/
theorem feedAll_suffix (buffer : Decoder) (chunks : List (List UInt8)) :
    (feedAll buffer chunks).2 <:+ buffer ++ chunks.flatten := by
  induction chunks generalizing buffer with
  | nil => simp [feedAll]
  | cons chunk chunks ih =>
    obtain ⟨front, hf⟩ := (passes_drain (buffer ++ chunk)).suffix
    have rest : (feed buffer chunk).2 ++ chunks.flatten <:+ buffer ++ (chunk ++ chunks.flatten) :=
      ⟨front, by rw [← List.append_assoc, feed, hf, List.append_assoc]⟩
    rw [List.flatten_cons]
    exact (ih _).trans rest

/-! ## Why octets are kept -/

/-- The header at the front of octets ends at `stop`: there its end stands, and nowhere before. -/
def HeaderEnds (bs : List UInt8) (stop : Nat) : Prop :=
  terminator <+: bs.drop stop ∧ ∀ k < stop, ¬ terminator <+: bs.drop k

/-- The reasons for which octets are kept. -/
inductive Waits (buffer : Decoder) : Prop
  /-- The header has not ended, and there are not too many octets of it. -/
  | header (few : buffer.length ≤ maxHeader) (open_ : ¬ terminator <:+: buffer)
  /-- The header gives a length, and fewer octets follow it. -/
  | body {stop length : Nat} (ends : HeaderEnds buffer stop)
      (declared : declaredLength (buffer.take stop) = .ok length) (filled : 0 < length)
      (short : buffer.length < stop + terminator.length + length)

/-- **Octets are kept for a reason**: no item can be taken off just where there is one. -/
theorem next?_eq_none_iff (buffer : Decoder) : next? buffer = none ↔ Waits buffer := by
  have four : terminator.length = 4 := rfl
  constructor
  · intro hn
    cases hs : Text.find? terminator buffer with
    | none =>
      rw [next?_of_open hs] at hn
      by_cases few : buffer.length ≤ maxHeader
      · exact .header few (Text.find?_eq_none_iff.mp hs)
      · rw [if_neg few] at hn
        cases hn
    | some stop =>
      have bound := Text.find?_le hs
      cases hl : declaredLength (buffer.take stop) with
      | error fault =>
        rw [next?_of_error hs hl] at hn
        cases hn
      | ok length =>
        rw [next?_of_ok hs hl] at hn
        by_cases short : (buffer.drop (stop + 4)).length < length
        · rw [List.length_drop] at short
          exact .body (Text.find?_eq_some_iff.mp hs) hl (declaredLength_pos hl) (by omega)
        · rw [if_neg short] at hn
          cases hn
  · rintro (⟨few, open_⟩ | ⟨ends, declared, filled, short⟩)
    · rw [next?_of_open (Text.find?_eq_none_iff.mpr open_), if_pos few]
    · rw [next?_of_ok (Text.find?_eq_some_iff.mpr ends) declared, if_pos]
      rw [List.length_drop]
      omega

/-- A complete frame stands at the front of octets: a header that gives the length of the body
behind it. -/
def Whole (bs : List UInt8) : Prop :=
  ∃ header body rest, declaredLength header = .ok body.length ∧
    bs = header ++ terminator ++ body ++ rest

/-- **A complete frame is not kept.** -/
theorem Waits.not_whole {buffer : Decoder} (h : Waits buffer) : ¬ Whole buffer := by
  rintro ⟨header, body, rest, declared, rfl⟩
  have hn := (next?_eq_none_iff _).mpr h
  rw [List.append_assoc, next?_of_declared declared, if_neg (by simp)] at hn
  cases hn

/-! ## Feeding -/

/-- **Feeding a decoder ends, and leaves nothing that could be taken off.** Whatever it has been fed
with before, and whatever the chunk: the items are taken off one after the other, each of which
makes the buffer shorter, so there are not more of them than octets that go. What is kept is the end
of all octets so far, waits for more octets for a reason, and is no complete frame. -/
theorem feed_settles (chunks : List (List UInt8)) (chunk : List UInt8) :
    ∃ items kept, feed (feedAll [] chunks).2 chunk = (items, kept) ∧
      Passes ((feedAll [] chunks).2 ++ chunk) items kept ∧
      items.length + kept.length ≤ (feedAll [] chunks).2.length + chunk.length ∧
      kept <:+ (chunks ++ [chunk]).flatten ∧ Waits kept ∧ ¬ Whole kept := by
  let buffer := (feedAll [] chunks).2
  have passes : Passes (buffer ++ chunk) (feed buffer chunk).1 (feed buffer chunk).2 :=
    passes_drain (buffer ++ chunk)
  have count := passes.length_le
  rw [List.length_append] at count
  have fed : (feed buffer chunk).2 = (feedAll [] (chunks ++ [chunk])).2 := by
    rw [feedAll_append]
    rfl
  have suffix : (feed buffer chunk).2 <:+ (chunks ++ [chunk]).flatten := by
    rw [fed]
    exact feedAll_suffix [] (chunks ++ [chunk])
  have waits : Waits (feed buffer chunk).2 :=
    (next?_eq_none_iff _).mp (next?_drain (buffer ++ chunk))
  exact ⟨_, _, rfl, passes, count, suffix, waits, waits.not_whole⟩

end ProbeBench.Frame
