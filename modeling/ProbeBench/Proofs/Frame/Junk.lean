import ProbeBench.Proofs.Frame.Stream

/-!
# Junk costs no frame

A stream of frames with junk before, between and behind them: octets of any kind and any number in
which only the name of the length field does not occur. Whatever chunks a decoder is fed with, each
frame gives what its body holds, in order; all that comes out besides are faults of headers.

After junk the decoder need not stand where a frame begins. What it keeps to is that it never passes
the first line of the next header that begins with the field: `Opens` says how a stream stands then,
and `Holds` how it goes on behind the body.

* `Opens.length_eq`: with octets before that line, a header gives the same length or none.
* `Opens.stop`, `skip_le`: a header ends where it should or before the line, and skipping does not
  go past the line.
* `Opens.next`, `Holds.next?_cases`: what the next item is.
* `Holds.drain`, `Holds.feedAll`: what comes out of a buffer, and of all chunks.
* `bodily_feedAll`: the result, for frames with junk.
-/

namespace ProbeBench.Frame

open Decoder

/-- Whether a fault is one of a header: of its lines, its length or its size. -/
def Fault.isOfHeader : Fault → Bool
  | .malformedLine _ => true
  | .unreadableLength _ => true
  | .emptyLength _ => true
  | .missingLength => true
  | .oversized _ => true
  | _ => false

/-- Whether an item reports a header. -/
def Item.isOfHeader : Item → Bool
  | .message _ => false
  | .fault f => f.isOfHeader

/-- The items that do not report headers, in order. -/
def bodily (items : List Item) : List Item := items.filter (!·.isOfHeader)

theorem bodily_append (items more : List Item) :
    bodily (items ++ more) = bodily items ++ bodily more :=
  List.filter_append _ _

theorem bodily_cons_of_header {item : Item} (h : item.isOfHeader = true) (items : List Item) :
    bodily (item :: items) = bodily items :=
  List.filter_cons_of_neg (by simp [h])

theorem bodily_cons_of_body {item : Item} (h : item.isOfHeader = false) (items : List Item) :
    bodily (item :: items) = item :: bodily items :=
  List.filter_cons_of_pos (by simp [h])

/-- What is wrong with a header is a fault of it. -/
theorem isOfHeader_of_declaredLength {header : List UInt8} {fault : Fault}
    (h : declaredLength header = .error fault) : fault.isOfHeader = true := by
  have line {found : Option Int} {line : List UInt8} (h : scanLine found line = .error fault) :
      fault.isOfHeader = true := by
    unfold scanLine at h
    split at h
    · cases h
      rfl
    · split at h
      · simp only at h
        split at h <;> cases h
        rfl
      · cases h
  have lines {found : Option Int} {ls : List (List UInt8)}
      (h : scanLines found ls = .error fault) : fault.isOfHeader = true := by
    induction ls generalizing found with
    | nil => cases h
    | cons first rest ih =>
      rw [scanLines] at h
      split at h
      · rename_i hl
        cases h
        exact line hl
      · exact ih h
  unfold declaredLength at h
  split at h
  · rename_i hl
    cases h
    exact lines hl
  · cases h
    rfl
  · split at h <;> cases h
    rfl

/-- What is wrong with a body is no fault of a header. -/
theorem isOfHeader_decodeBody (body : List UInt8) : (decodeBody body).isOfHeader = false := by
  unfold decodeBody
  split
  · rfl
  · split <;> rfl

/-! ## Junk before a header -/

/-- The field does not begin again inside itself. -/
theorem IsField.not_again {bs : List UInt8} (h : IsField bs) {k : Nat} (pos : 0 < k) (lt : k < 15) :
    ¬ IsField (bs.drop k) := by
  intro again
  have long := again.length_le
  rw [List.length_drop] at long
  obtain ⟨b, hb⟩ : ∃ b, bs[k]? = some b := ⟨_, List.getElem?_eq_getElem (by omega)⟩
  have here := small_of_beginsWith h (k := k) lt hb
  have first := small_of_beginsWith again (k := 0) (show 0 < 15 by decide)
    (by rw [List.getElem?_drop]; exact hb)
  have once : ∀ j < 15, 0 < j → lengthField[j]? ≠ lengthField[0]? := by decide
  exact once k lt pos (here.trans first.symm)

/-- Behind octets without the field, the field is found where it stands. -/
theorem nextField?_append_field {lead line : List UInt8} (idle : nextField? lead = none)
    (field : IsField line) : nextField? (lead ++ line) = some lead.length := by
  have there : IsField ((lead ++ line).drop lead.length) := by
    rw [List.drop_left]
    exact field
  obtain ⟨p, hp, le⟩ := nextField?_of_isField there
  rw [hp]
  rcases Nat.lt_or_ge p lead.length with lt | ge
  · -- it would begin in the octets before, and so reach into itself
    have reach := lt_of_nextField?_append idle hp
    have again := (isField_drop hp).not_again (k := lead.length - p) (by omega) (by omega)
    rw [List.drop_drop, Nat.add_sub_cancel' le] at again
    exact absurd there again
  · rw [Nat.le_antisymm le ge]

/-- A header whose body is `body` ends the octets `lead ++ line`: `line` is the rest of the header
from a line on that begins with the field, and `lead` is what else of it is left, with octets in
front that are idle. -/
structure Opens (lead line body : List UInt8) : Prop where
  field : IsField line
  reads : Reads line body.length
  filled : 0 < body.length
  short : line.length + 3 ≤ maxHeader
  begins : EndsLine lead ∨ nextField? lead = none
  header : ∃ idle own, lead = idle ++ own ∧ nextField? idle = none ∧
    Text.find? terminator (own ++ line ++ terminator) = some (own ++ line).length

/-- **Octets before the line change its length into none at most.** -/
theorem Opens.length_eq {lead line body : List UInt8} (h : Opens lead line body) {n : Int}
    (hn : Reads (lead ++ line) n) : n = body.length := by
  rcases h.begins with ends | idle
  · exact ReadsWithin.eq ⟨lead, line, rfl, ends, h.reads⟩ hn
  · have within := readsWithin_of_reads hn (nextField?_append_field idle h.field)
    rw [List.drop_left] at within
    exact (within.eq h.reads).symm

/-- What stands before the line may be skipped, wholly or in part. -/
theorem Opens.drop {lead line body : List UInt8} (h : Opens lead line body) {k : Nat}
    (le : k ≤ lead.length) : Opens (lead.drop k) line body := by
  refine ⟨h.field, h.reads, h.filled, h.short, ?_, ?_⟩
  · rcases h.begins with ends | idle
    · refine (ends.drop_cases k).imp_right fun feed => ?_
      rw [feed]
      rfl
    · exact .inr (nextField?_drop_of_none idle k)
  · obtain ⟨idle, own, rfl, hi, hs⟩ := h.header
    rcases Nat.lt_or_ge idle.length k with lt | ge
    · rw [List.length_append] at le
      refine ⟨[], own.drop (k - idle.length), ?_, rfl, ?_⟩
      · rw [List.drop_append, List.drop_eq_nil_of_le (Nat.le_of_lt lt)]
      · have later := Text.find?_drop_of_le (n := k - idle.length) hs
          (by rw [List.length_append]; omega)
        rw [List.append_assoc, List.drop_append_of_le_length (by omega), ← List.append_assoc]
          at later
        rw [later, List.length_append, List.length_append, List.length_drop]
        congr 1
        omega
    · exact ⟨idle.drop k, own, List.drop_append_of_le_length ge, nextField?_drop_of_none hi k, hs⟩

/-- **A header ends at its own end or in what is idle**; there it holds no field, and the line is
still to come. -/
theorem Opens.stop {lead line body rest : List UInt8} (h : Opens lead line body) {stop : Nat}
    (hs : Text.find? terminator (lead ++ line ++ terminator ++ rest) = some stop) :
    stop = (lead ++ line).length ∨
      nextField? ((lead ++ line ++ terminator ++ rest).take stop) = none ∧
        stop + 4 ≤ lead.length := by
  obtain ⟨idle, own, rfl, hi, hown⟩ := h.header
  have split : idle ++ own ++ line ++ terminator ++ rest =
      idle ++ (own ++ line ++ terminator ++ rest) := by simp
  rcases Nat.lt_or_ge stop idle.length with lt | ge
  · right
    constructor
    · rw [split, List.take_append_of_le_length (Nat.le_of_lt lt)]
      exact nextField?_take_of_none hi stop
    · have field :
          IsField ((idle ++ own ++ line ++ terminator ++ rest).drop (idle ++ own).length) := by
        rw [List.append_assoc, List.append_assoc, List.drop_left]
        exact beginsWith_append h.field _
      refine behind_of_isField hs field ?_
      rw [List.length_append]
      omega
  · left
    have later := Text.find?_drop_of_le hs ge
    rw [split, List.drop_left, Text.find?_append hown rest (by decide)] at later
    have := Option.some.inj later
    simp only [List.length_append] at this ⊢
    omega

/-- **Skipping goes to the line at most**, if the field of the line has arrived or what is skipped
at least does not go past it. -/
theorem skip_le {buffer more : List UInt8} {q atLeast : Nat}
    (field : IsField ((buffer ++ more).drop q)) (pos : 0 < q) (filled : buffer ≠ [])
    (few : q + 15 ≤ buffer.length ∨ atLeast ≤ q) : skip buffer atLeast ≤ q := by
  have one : 1 ≤ buffer.length := List.length_pos_iff.mpr filled
  have front : (buffer ++ more).drop 1 = buffer.drop 1 ++ more := List.drop_append_of_le_length one
  have there : IsField ((buffer.drop 1 ++ more).drop (q - 1)) := by
    rw [← front, List.drop_drop, Nat.add_sub_cancel' pos]
    exact field
  obtain ⟨p, hp, le⟩ := nextField?_of_isField there
  cases hb : nextField? (buffer.drop 1) with
  | some p' =>
    have same := nextField?_append hb more
    rw [hp] at same
    cases same
    rw [skip_of_some hb]
    omega
  | none =>
    have reach := lt_of_nextField?_append hb hp
    rw [List.length_drop] at reach
    rw [skip_of_none hb]
    omega

theorem skip_le_length {buffer : List UInt8} {atLeast : Nat} (few : atLeast ≤ buffer.length) :
    skip buffer atLeast ≤ buffer.length := by
  cases hb : nextField? (buffer.drop 1) with
  | some p =>
    have := nextField?_le hb
    rw [List.length_drop] at this
    rw [skip_of_some hb]
    omega
  | none =>
    rw [skip_of_none hb]
    omega

/-! ## The next item -/

/-- **The field of the line stands in every stream that the line is a part of.** -/
theorem Opens.isField_drop {lead line body : List UInt8} (h : Opens lead line body)
    (rest : List UInt8) : IsField ((lead ++ line ++ terminator ++ rest).drop lead.length) := by
  rw [List.append_assoc, List.append_assoc, List.drop_left]
  exact beginsWith_append h.field _

/-- What the next item of a buffer may be that waits for a body, before which `lead` stands: none
yet, a fault of the header that does not pass what follows, or what the body holds. -/
inductive Opens.Next (lead body tail buffer more : List UInt8) : Prop
  | waits (nothing : next? buffer = none) (later : more ≠ [])
  | skips {fault : Fault} {k : Nat} (next : next? buffer = some (.fault fault, buffer.drop k))
      (header : fault.isOfHeader = true) (le : k ≤ lead.length) (arrived : k ≤ buffer.length)
  | takes {rest : List UInt8} (next : next? buffer = some (decodeBody body, rest))
      (behind : rest ++ more = tail)

/-- Where the header has arrived and ends at its own end, the body is taken off once it is there, if
the header gives its length. -/
theorem Opens.next_of_stop {lead line body tail start more : List UInt8} (h : Opens lead line body)
    (found : Text.find? terminator (lead ++ line ++ terminator ++ start) =
      some (lead ++ line).length)
    (e : start ++ more = body ++ tail) :
    Opens.Next lead body tail (lead ++ line ++ terminator ++ start) more := by
  have header :
      (lead ++ line ++ terminator ++ start).take (lead ++ line).length = lead ++ line := by
    rw [List.append_assoc, List.take_left]
  have long := h.field.length_le
  cases hl : declaredLength (lead ++ line) with
  | ok length =>
    have own : (length : Int) = body.length := h.length_eq (reads_of_declaredLength hl).1
    have own : length = body.length := by omega
    subst own
    have hn := next?_of_declared hl start
    rcases Nat.lt_or_ge start.length body.length with lt | ge
    · refine .waits (hn.trans (if_pos lt)) ?_
      rintro rfl
      have := congrArg List.length e
      simp only [List.length_append, List.length_nil] at this
      omega
    · obtain ⟨rest, rfl, hr⟩ := exists_between e ge
      refine .takes (hn.trans ?_) hr
      rw [if_neg (Nat.not_lt_of_le ge), List.take_left, List.drop_left]
  | error fault =>
    -- the line alone gives the length, so there is something before it
    have filled : lead ≠ [] := by
      rintro rfl
      rw [List.nil_append, declaredLength_of_reads h.reads h.filled] at hl
      cases hl
    have few : lead.length + 15 ≤ (lead ++ line ++ terminator ++ start).length := by
      simp only [List.length_append]
      omega
    have field : IsField ((lead ++ line ++ terminator ++ start ++ []).drop lead.length) := by
      rw [List.append_nil]
      exact h.isField_drop start
    exact .skips (next?_of_error found (header.symm ▸ hl)) (isOfHeader_of_declaredLength hl)
      (skip_le field (List.length_pos_iff.mpr filled) (by simp [filled]) (.inl few))
      (skip_le_length (Text.find?_le found))

/-- **What the next item may be** of a buffer that waits for a body. -/
theorem Opens.next {lead line body tail buffer more : List UInt8} (h : Opens lead line body)
    (e : buffer ++ more = lead ++ line ++ terminator ++ (body ++ tail)) :
    Opens.Next lead body tail buffer more := by
  have four : terminator.length = 4 := rfl
  have field := h.isField_drop (body ++ tail)
  rw [← e] at field
  cases hs : Text.find? terminator buffer with
  | none =>
    -- the end of the header has not arrived
    have less : buffer.length < (lead ++ line ++ terminator).length := by
      rcases Nat.lt_or_ge buffer.length (lead ++ line ++ terminator).length with lt | ge
      · exact lt
      · obtain ⟨start, rfl, _⟩ := exists_between e ge
        have never := Text.find?_drop_of_none hs (lead ++ line).length
        rw [List.append_assoc, List.drop_left] at never
        cases never
    have short := h.short
    have hn := next?_of_open hs
    split at hn
    · refine .waits hn ?_
      rintro rfl
      rw [List.append_nil] at e
      rw [e, List.length_append] at less
      omega
    · rename_i large
      have filled : buffer ≠ [] := by
        rintro rfl
        exact large (Nat.zero_le _)
      simp only [List.length_append] at less
      exact .skips hn rfl (skip_le field (by omega) filled (.inr (by omega)))
        (skip_le_length (by omega))
  | some stop =>
    have bound := Text.find?_le hs
    have filled : buffer ≠ [] := by
      rintro rfl
      simp only [List.length_nil] at bound
      omega
    have taken := take_of_find? hs more
    have found := Text.find?_append hs more (by decide)
    rw [e] at found taken
    rcases h.stop found with rfl | ⟨idle, behind⟩
    · obtain ⟨start, rfl, hr⟩ := exists_between e (by rw [List.length_append, four]; omega)
      exact h.next_of_stop hs hr
    · rw [taken] at idle
      obtain ⟨fault, hl⟩ := declaredLength_of_no_field idle
      exact .skips (next?_of_error hs hl) (isOfHeader_of_declaredLength hl)
        (skip_le field (by omega) filled (.inr behind)) (skip_le_length (by omega))

/-! ## The frames of a stream -/

/-- A stream holds frames with these bodies, in this order, and is idle behind the last one. -/
inductive Holds : List (List UInt8) → List UInt8 → Prop
  | idle {stream : List UInt8} (none_ : nextField? stream = none) : Holds [] stream
  | frame {lead line body tail : List UInt8} {bodies : List (List UInt8)}
      (opens : Opens lead line body) (later : Holds bodies tail) :
      Holds (body :: bodies) (lead ++ line ++ terminator ++ (body ++ tail))

/-- From an idle buffer only headers are reported. -/
theorem next?_of_idle {buffer : Decoder} (idle : nextField? buffer = none) :
    next? buffer = none ∨
      ∃ fault k, next? buffer = some (.fault fault, buffer.drop k) ∧ fault.isOfHeader = true ∧
        k ≤ buffer.length := by
  cases hs : Text.find? terminator buffer with
  | none =>
    have hn := next?_of_open hs
    split at hn
    · exact .inl hn
    · exact .inr ⟨_, _, hn, rfl, skip_le_length (by omega)⟩
  | some stop =>
    obtain ⟨fault, hl⟩ := declaredLength_of_no_field (nextField?_take_of_none idle stop)
    exact .inr ⟨fault, _, next?_of_error hs hl, isOfHeader_of_declaredLength hl,
      skip_le_length (Text.find?_le hs)⟩

/-- **The next item** of a buffer leaves the frames where they are, or takes the first one off. -/
theorem Holds.next?_cases {bodies : List (List UInt8)} {buffer more : List UInt8}
    (h : Holds bodies (buffer ++ more)) :
    (next? buffer = none ∧ (more = [] → bodies = [])) ∨
      (∃ item rest, next? buffer = some (item, rest) ∧ item.isOfHeader = true ∧
        Holds bodies (rest ++ more)) ∨
      ∃ body later rest, bodies = body :: later ∧ next? buffer = some (decodeBody body, rest) ∧
        Holds later (rest ++ more) := by
  generalize e : buffer ++ more = stream at h
  cases h with
  | idle none_ =>
    subst e
    rcases next?_of_idle (nextField?_of_append none_) with hn | ⟨fault, k, hn, header, le⟩
    · exact .inl ⟨hn, fun _ => rfl⟩
    · refine .inr (.inl ⟨_, _, hn, header, .idle ?_⟩)
      rw [← List.drop_append_of_le_length le]
      exact nextField?_drop_of_none none_ k
  | @frame lead line body tail bodies opens later =>
    cases opens.next e with
    | waits nothing filled => exact .inl ⟨nothing, fun none_ => absurd none_ filled⟩
    | @skips fault k hn header le arrived =>
      refine .inr (.inl ⟨_, _, hn, header, ?_⟩)
      have rest : buffer.drop k ++ more = lead.drop k ++ line ++ terminator ++ (body ++ tail) := by
        rw [← List.drop_append_of_le_length arrived, e]
        simp only [List.append_assoc]
        rw [List.drop_append_of_le_length le]
      rw [rest]
      exact .frame (opens.drop le) later
    | takes hn behind => exact .inr (.inr ⟨body, bodies, _, rfl, hn, behind ▸ later⟩)

/-- **What comes out of a buffer**: what the bodies that have arrived hold, and faults of
headers. -/
theorem Holds.drain {bodies : List (List UInt8)} {buffer more : List UInt8}
    (h : Holds bodies (buffer ++ more)) :
    ∃ done todo, bodies = done ++ todo ∧ bodily (drain buffer).1 = done.map decodeBody ∧
      Holds todo ((drain buffer).2 ++ more) := by
  induction hlen : buffer.length using Nat.strongRecOn generalizing buffer bodies with
  | ind len ih =>
    rcases h.next?_cases with
      ⟨hn, _⟩ | ⟨item, rest, hn, header, h'⟩ | ⟨body, later, rest, rfl, hn, h'⟩
    · rw [drain_of_none hn]
      exact ⟨[], bodies, rfl, rfl, h⟩
    · obtain ⟨done, todo, hb, hd, ht⟩ := ih _ (hlen ▸ next?_length_lt hn) h' rfl
      rw [drain_of_some hn, bodily_cons_of_header header]
      exact ⟨done, todo, hb, hd, ht⟩
    · obtain ⟨done, todo, rfl, hd, ht⟩ := ih _ (hlen ▸ next?_length_lt hn) h' rfl
      rw [drain_of_some hn, bodily_cons_of_body (isOfHeader_decodeBody body), hd]
      exact ⟨body :: done, todo, rfl, rfl, ht⟩

/-- **What comes out of all chunks**: what all bodies hold, and faults of headers. -/
theorem Holds.feedAll {bodies : List (List UInt8)} {buffer : Decoder} (hn : next? buffer = none)
    {chunks : List (List UInt8)} (h : Holds bodies (buffer ++ chunks.flatten)) :
    bodily (feedAll buffer chunks).1 = bodies.map decodeBody := by
  induction chunks generalizing bodies buffer with
  | nil =>
    rcases h.next?_cases with ⟨_, done⟩ | ⟨_, _, hn', _⟩ | ⟨_, _, _, _, hn', _⟩
    · rw [done rfl]
      rfl
    · rw [hn] at hn'
      cases hn'
    · rw [hn] at hn'
      cases hn'
  | cons chunk chunks ih =>
    rw [List.flatten_cons, ← List.append_assoc] at h
    obtain ⟨done, todo, rfl, hd, ht⟩ := h.drain
    rw [Decoder.feedAll, bodily_append, feed, hd, ih (next?_drain _) ht, List.map_append]

/-! ## Frames with junk -/

theorem nextField?_eq_none_iff (bs : List UInt8) :
    nextField? bs = none ↔ ¬ lengthField <:+: bs.map small := by
  induction bs with
  | nil => simp [nextField?, lengthField, ascii]
  | cons b rest ih =>
    rw [nextField?, beginsWith_eq, List.map_cons, List.infix_cons_iff]
    split
    · rename_i here
      have begins := List.isPrefixOf_iff_prefix.mp here
      exact ⟨fun none_ => (nomatch none_), fun apart => absurd (.inl begins) apart⟩
    · rename_i there
      rw [List.isPrefixOf_iff_prefix] at there
      rw [Option.map_eq_none_iff, ih, not_or]
      exact ⟨fun apart => ⟨there, apart⟩, fun apart => apart.2⟩

/-- Octets in which the name of the length field does not occur, in any letter case. -/
abbrev Junk := { bs : List UInt8 // ¬ lengthField <:+: bs.map small }

/-- A frame whose header gives the length of its body, and leaves room for its end within the
limit. -/
structure Good where
  header : List UInt8
  body : List UInt8
  declared : declaredLength header = .ok body.length
  short : header.length + 3 ≤ maxHeader

/-- The octets of the frame. -/
def Good.octets (f : Good) : List UInt8 := f.header ++ terminator ++ f.body

/-- **Junk and a header** stand before a body in the way that the decoder needs. -/
theorem Good.opens (f : Good) (junk : Junk) :
    ∃ lead line, junk.1 ++ f.header = lead ++ line ∧ Opens lead line f.body := by
  obtain ⟨reads, filled⟩ := reads_of_declaredLength f.declared
  have ends := find?_of_reads reads []
  have short := f.short
  obtain ⟨before, line, split, begins, field, own⟩ := exists_field_line reads
  rw [split] at ends short ⊢
  rw [List.length_append] at short
  have idle := (nextField?_eq_none_iff junk.1).mpr junk.2
  refine ⟨junk.1 ++ before, line, (List.append_assoc ..).symm, field, own, filled, by omega, ?_,
    junk.1, before, rfl, idle, ?_⟩
  · rcases begins with rfl | ⟨start, rfl⟩
    · exact .inr (by rw [List.append_nil]; exact idle)
    · exact .inl (.inr ⟨junk.1 ++ start, (List.append_assoc ..).symm⟩)
  · rw [List.append_nil] at ends
    exact ends

end ProbeBench.Frame
