import ProbeBench.Frame.Header

/-!
# Reading frames

Octets arrive in chunks that need not match the frames. A `Decoder` holds the octets not yet used.
`feed` adds a chunk and takes off every frame that is complete: a message, or the fault that made it
useless. After a header that cannot be used, `skip` goes on to the next place where the name of the
length field occurs, or keeps a tail that may be its beginning.

The place where a header ends is looked for once, and stays known while octets before it go.

* `next?_length_lt`: every item takes octets off the buffer, so `feed` ends.
* `drain_of_none`, `drain_of_some`: `drain` takes off what `next?` gives, one item after the other.
-/

namespace ProbeBench.Frame

/-- What comes out of the stream. -/
inductive Item where
  | message (members : Members)
  | fault (fault : Fault)

/-- The octets received and not yet used. -/
abbrev Decoder := List UInt8

/-- The message in a body. -/
def decodeBody (body : List UInt8) : Item :=
  match Text.Utf8.decode body with
  | .error fault => .fault (.undecodable fault)
  | .ok text =>
    match Json.parse text with
    | .error fault => .fault (.unparsable fault)
    | .ok (.obj members) => .message members
    | .ok other => .fault (.notObject other.kind)

namespace Decoder

/-- The first offset at which the name of the length field occurs. -/
def nextField? : List UInt8 → Option Nat
  | [] => none
  | b :: rest =>
    if beginsWith lengthField (b :: rest) then some 0 else (nextField? rest).map (· + 1)

/-- How many octets to drop so that the buffer begins with the next length field, if one has
arrived after the first octet; otherwise all but a tail that may be its beginning, and at least
`atLeast`. -/
def skip (buffer : Decoder) (atLeast : Nat) : Nat :=
  match nextField? (buffer.drop 1) with
  | some position => position + 1
  | none => max atLeast (buffer.length + 1 - lengthField.length)

/-- The next item and how many octets it takes, where the header ends at `stop?`; none while the
frame at the front is incomplete. -/
def nextBefore (stop? : Option Nat) (buffer : Decoder) : Option (Item × Nat) :=
  match stop? with
  | none =>
    if (buffer.drop maxHeader).isEmpty then none
    else
      let dropped := skip buffer 1
      some (.fault (.oversized dropped), dropped)
  | some stop =>
    let start := stop + terminator.length
    match declaredLength (buffer.take stop) with
    | .error fault => some (.fault fault, skip buffer start)
    | .ok length =>
      let body := (buffer.drop start).take length
      if body.length < length then none else some (decodeBody body, start + length)

/-- The next item and the octets after it; none while the frame at the front is incomplete. -/
def next? (buffer : Decoder) : Option (Item × Decoder) :=
  (nextBefore (Text.find? terminator buffer) buffer).map fun r => (r.1, buffer.drop r.2)

/-- Where the header at the front ends when octets are gone before which it ended at `stop?`. -/
def laterStop (stop? : Option Nat) (gone : Nat) (rest : Decoder) : Option Nat :=
  match stop? with
  | none => none
  | some stop => if gone ≤ stop then some (stop - gone) else Text.find? terminator rest

theorem skip_pos (buffer : Decoder) {atLeast : Nat} (h : 0 < atLeast) :
    0 < skip buffer atLeast := by
  unfold skip
  split <;> omega

theorem length_drop_of_nextBefore {buffer : Decoder} {item : Item} {taken : Nat}
    (h : nextBefore (Text.find? terminator buffer) buffer = some (item, taken)) :
    (buffer.drop taken).length < buffer.length := by
  rw [List.length_drop]
  unfold nextBefore at h
  split at h
  · split at h
    · cases h
    · rename_i long
      cases h
      have := skip_pos buffer (show 0 < 1 by decide)
      have : ¬ buffer.length ≤ maxHeader := by simpa using long
      omega
  · rename_i stop hstop
    have bound := Text.find?_le hstop
    have four : terminator.length = 4 := rfl
    simp only at h
    split at h
    · cases h
      have := skip_pos buffer (show 0 < stop + terminator.length by omega)
      omega
    · split at h
      · cases h
      · cases h
        omega

theorem next?_length_lt {buffer rest : Decoder} {item : Item}
    (h : next? buffer = some (item, rest)) : rest.length < buffer.length := by
  obtain ⟨r, hr, he⟩ := Option.map_eq_some_iff.1 h
  cases he
  exact length_drop_of_nextBefore hr

theorem laterStop_eq (buffer : Decoder) (gone : Nat) :
    laterStop (Text.find? terminator buffer) gone (buffer.drop gone) =
      Text.find? terminator (buffer.drop gone) := by
  unfold laterStop
  split
  · rename_i h
    exact (Text.find?_drop_of_none h gone).symm
  · rename_i stop h
    split
    · rename_i le
      exact (Text.find?_drop_of_le h le).symm
    · rfl

/-- Takes every complete frame off a buffer in which the first header ends at `stop?`. -/
def drainBefore (buffer : Decoder) (stop? : Option Nat)
    (known : stop? = Text.find? terminator buffer) : List Item × Decoder :=
  match h : nextBefore stop? buffer with
  | none => ([], buffer)
  | some (item, taken) =>
    have := length_drop_of_nextBefore (known ▸ h)
    let rest := buffer.drop taken
    let r := drainBefore rest (laterStop stop? taken rest) (by subst known; exact laterStop_eq ..)
    (item :: r.1, r.2)
termination_by buffer.length
decreasing_by exact this

/-- Takes every complete frame off the buffer. -/
def drain (buffer : Decoder) : List Item × Decoder :=
  drainBefore buffer (Text.find? terminator buffer) rfl

/-- Adds a chunk and takes every complete frame off. -/
def feed (buffer : Decoder) (chunk : List UInt8) : List Item × Decoder :=
  drain (buffer ++ chunk)

theorem drainBefore_eq (buffer : Decoder) (stop? : Option Nat)
    (known : stop? = Text.find? terminator buffer) :
    drainBefore buffer stop? known = drain buffer := by
  subst known
  rfl

theorem drain_of_none {buffer : Decoder} (h : next? buffer = none) :
    drain buffer = ([], buffer) := by
  have none_next := Option.map_eq_none_iff.1 h
  unfold drain drainBefore
  split
  · rfl
  · simp_all

theorem drain_of_some {buffer rest : Decoder} {item : Item} (h : next? buffer = some (item, rest)) :
    drain buffer = (item :: (drain rest).1, (drain rest).2) := by
  obtain ⟨r, hr, he⟩ := Option.map_eq_some_iff.1 h
  cases he
  rw [drain, drainBefore]
  split
  · simp_all
  · rename_i item taken hn
    have same := hr.symm.trans hn
    cases same
    simp only [drainBefore_eq]

end Decoder

end ProbeBench.Frame
