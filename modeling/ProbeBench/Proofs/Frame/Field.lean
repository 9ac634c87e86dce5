import ProbeBench.Frame.Decoder

/-!
# The length field in a stream

Where the name of the length field occurs, and what that says about the lines of a header.
`nextField?` gives the first occurrence, in any letter case and at any place of a line, while only a
field that begins a line counts for the length.

* `nextField?_append`, `nextField?_drop_of_le`: an occurrence stays the first one when octets come
  behind it or go before it.
* `exists_field_line`: octets that read as a length do so from a line on that begins with the field.
* `readsWithin_of_reads`: what reads as a length still does so, from some line on, when octets
  before the first occurrence go.
* `exists_later_field`: if it does so only from a later line on, there is another occurrence.
* `find?_of_reads`: a header that gives a length ends where its end is first found.
-/

namespace ProbeBench.Frame

/-! ## The first occurrence -/

theorem length_lengthField : lengthField.length = 15 := rfl

/-- The octets begin with the length field. -/
def IsField (bs : List UInt8) : Prop := beginsWith lengthField bs = true

theorem beginsWith_append {letters bs : List UInt8} (h : beginsWith letters bs = true)
    (more : List UInt8) : beginsWith letters (bs ++ more) = true := by
  induction letters generalizing bs with
  | nil => rfl
  | cons letter letters ih =>
    cases bs with
    | nil => cases h
    | cons b rest =>
      simp only [List.cons_append, beginsWith, Bool.and_eq_true] at h ⊢
      exact ⟨h.1, ih h.2⟩

theorem beginsWith_of_append {letters bs more : List UInt8} (long : letters.length ≤ bs.length)
    (h : beginsWith letters (bs ++ more) = true) : beginsWith letters bs = true := by
  induction letters generalizing bs with
  | nil => rfl
  | cons letter letters ih =>
    cases bs with
    | nil => simp at long
    | cons b rest =>
      simp only [List.cons_append, beginsWith, Bool.and_eq_true] at h ⊢
      exact ⟨h.1, ih (by simpa using long) h.2⟩

theorem length_le_of_beginsWith {letters bs : List UInt8} (h : beginsWith letters bs = true) :
    letters.length ≤ bs.length := by
  induction letters generalizing bs with
  | nil => exact Nat.zero_le _
  | cons letter letters ih =>
    cases bs with
    | nil => cases h
    | cons b rest =>
      simp only [beginsWith, Bool.and_eq_true] at h
      simpa using ih h.2

/-- What stands at a place of the octets is the letter there, in small or capital form. -/
theorem small_of_beginsWith {letters bs : List UInt8} (h : beginsWith letters bs = true) {k : Nat}
    {b : UInt8} (hk : k < letters.length) (hb : bs[k]? = some b) :
    letters[k]? = some (small b) := by
  induction letters generalizing bs k with
  | nil => simp at hk
  | cons letter letters ih =>
    cases bs with
    | nil => cases h
    | cons c rest =>
      simp only [beginsWith, Bool.and_eq_true, beq_iff_eq] at h
      cases k with
      | zero =>
        rw [List.getElem?_cons_zero] at hb ⊢
        cases hb
        rw [h.1]
      | succ k =>
        rw [List.getElem?_cons_succ] at hb ⊢
        exact ih h.2 (by simpa using hk) hb

/-- The field holds no line feed. -/
theorem IsField.not_feed {bs : List UInt8} (h : IsField bs) {k : Nat} (hk : k < 15) :
    bs[k]? ≠ some 10 := by
  intro hb
  have e := small_of_beginsWith h (k := k) hk hb
  have free : ∀ j, j < 15 → lengthField[j]? ≠ some (small 10) := by decide
  exact free k hk e

theorem IsField.ne_nil {bs : List UInt8} (h : IsField bs) : bs ≠ [] := by
  rintro rfl
  cases h

theorem IsField.length_le {bs : List UInt8} (h : IsField bs) : 15 ≤ bs.length :=
  length_le_of_beginsWith h

namespace Decoder

theorem nextField?_cons_of_field {bs : List UInt8} (h : IsField bs) : nextField? bs = some 0 := by
  cases bs with
  | nil => exact absurd rfl h.ne_nil
  | cons b rest => exact if_pos h

theorem nextField?_cons_of_not {b : UInt8} {rest : List UInt8} (h : ¬ IsField (b :: rest)) :
    nextField? (b :: rest) = (nextField? rest).map (· + 1) :=
  if_neg h

/-- The field stands where it is found. -/
theorem isField_drop {bs : List UInt8} {p : Nat} (h : nextField? bs = some p) :
    IsField (bs.drop p) := by
  induction bs generalizing p with
  | nil => cases h
  | cons b rest ih =>
    by_cases hf : IsField (b :: rest)
    · rw [nextField?_cons_of_field hf] at h
      cases h
      exact hf
    · rw [nextField?_cons_of_not hf] at h
      obtain ⟨q, hq, rfl⟩ := Option.map_eq_some_iff.mp h
      exact ih hq

theorem nextField?_le {bs : List UInt8} {p : Nat} (h : nextField? bs = some p) :
    p + 15 ≤ bs.length := by
  have := (isField_drop h).length_le
  rw [List.length_drop] at this
  omega

theorem nextField?_drop_of_none {bs : List UInt8} (h : nextField? bs = none) (n : Nat) :
    nextField? (bs.drop n) = none := by
  induction bs generalizing n with
  | nil => rw [List.drop_nil]; rfl
  | cons b rest ih =>
    cases n with
    | zero => exact h
    | succ n =>
      by_cases hf : IsField (b :: rest)
      · rw [nextField?_cons_of_field hf] at h
        cases h
      · rw [nextField?_cons_of_not hf] at h
        exact ih (Option.map_eq_none_iff.mp h) n

theorem nextField?_drop_of_le {bs : List UInt8} {n p : Nat} (h : nextField? bs = some p)
    (le : n ≤ p) : nextField? (bs.drop n) = some (p - n) := by
  induction bs generalizing n p with
  | nil => cases h
  | cons b rest ih =>
    cases n with
    | zero => exact h
    | succ n =>
      by_cases hf : IsField (b :: rest)
      · rw [nextField?_cons_of_field hf] at h
        cases h
        omega
      · rw [nextField?_cons_of_not hf] at h
        obtain ⟨q, hq, rfl⟩ := Option.map_eq_some_iff.mp h
        rw [List.drop_succ_cons, ih hq (by omega)]
        congr 1
        omega

/-- Where the field stands, or before, it is found. -/
theorem nextField?_of_isField {bs : List UInt8} {q : Nat} (h : IsField (bs.drop q)) :
    ∃ p, nextField? bs = some p ∧ p ≤ q := by
  have here := nextField?_cons_of_field h
  cases hn : nextField? bs with
  | none =>
    rw [nextField?_drop_of_none hn] at here
    cases here
  | some p =>
    refine ⟨p, rfl, ?_⟩
    rcases Nat.lt_or_ge q p with lt | ge
    · rw [nextField?_drop_of_le hn (Nat.le_of_lt lt)] at here
      have := Option.some.inj here
      omega
    · exact ge

/-- Octets that come later do not change which occurrence is the first. -/
theorem nextField?_append {bs : List UInt8} {p : Nat} (h : nextField? bs = some p)
    (more : List UInt8) : nextField? (bs ++ more) = some p := by
  induction bs generalizing p with
  | nil => cases h
  | cons b rest ih =>
    by_cases hf : IsField (b :: rest)
    · rw [nextField?_cons_of_field hf] at h
      cases h
      exact nextField?_cons_of_field (beginsWith_append hf more)
    · rw [nextField?_cons_of_not hf] at h
      obtain ⟨q, hq, rfl⟩ := Option.map_eq_some_iff.mp h
      have long := nextField?_le hq
      have hf' : ¬ IsField (b :: (rest ++ more)) := by
        refine fun hf' => hf (beginsWith_of_append ?_ hf')
        rw [length_lengthField, List.length_cons]
        omega
      rw [List.cons_append, nextField?_cons_of_not hf', ih hq]
      rfl

/-- Without an occurrence in a part there is none in what is cut from its front. -/
theorem nextField?_of_append {bs more : List UInt8} (h : nextField? (bs ++ more) = none) :
    nextField? bs = none := by
  cases hb : nextField? bs with
  | none => rfl
  | some p => rw [nextField?_append hb more] at h; cases h

/-- An occurrence that is found only once more octets have come reaches into them. -/
theorem lt_of_nextField?_append {bs more : List UInt8} {p : Nat} (hn : nextField? bs = none)
    (h : nextField? (bs ++ more) = some p) : bs.length < p + 15 := by
  rcases Nat.lt_or_ge bs.length (p + 15) with lt | ge
  · exact lt
  · have hf := isField_drop h
    rw [List.drop_append_of_le_length (by omega)] at hf
    have hf' : IsField (bs.drop p) := by
      refine beginsWith_of_append ?_ hf
      rw [length_lengthField, List.length_drop]
      omega
    have := nextField?_drop_of_none hn p
    rw [nextField?_cons_of_field hf'] at this
    cases this

end Decoder

/-! ## The lines of a header -/

open Decoder

/-- A line without the field leaves the length as it is, whatever it was. -/
theorem scanLine_of_not_field {found : Option Int} {line : List UInt8} {result : Option Int}
    (hf : ¬ IsField line) (h : scanLine found line = .ok result) : result = found := by
  unfold scanLine at h
  split at h
  · cases h
  · rw [if_neg (show ¬ beginsWith lengthField line = true from hf)] at h
    cases h
    rfl

/-- What one more line makes of the length: its own, if it has one. -/
theorem scanLine_eq (found : Option Int) (line : List UInt8) :
    scanLine found line = (scanLine none line).map fun own => own <|> found := by
  unfold scanLine
  split
  · rfl
  · split
    · simp only
      cases readLength? (fieldValue line) <;> rfl
    · rfl

/-- The last line with a length counts, and any lines before it do not. -/
theorem scanLines_eq (found : Option Int) (lines : List (List UInt8)) :
    scanLines found lines = (scanLines none lines).map fun own => own <|> found := by
  induction lines generalizing found with
  | nil => cases found <;> rfl
  | cons line rest ih =>
    rw [scanLines, scanLines, scanLine_eq found]
    cases h : scanLine none line with
    | error fault => rfl
    | ok own =>
      simp only [Except.map]
      rw [ih (own <|> found), ih own]
      cases scanLines none rest with
      | error fault => rfl
      | ok later => cases later <;> rfl

theorem scanLines_append (found : Option Int) (lines more : List (List UInt8)) :
    scanLines found (lines ++ more) = (scanLines found lines).bind (scanLines · more) := by
  induction lines generalizing found with
  | nil => rfl
  | cons line rest ih =>
    rw [List.cons_append, scanLines, scanLines]
    cases scanLine found line with
    | error fault => rfl
    | ok own => exact ih own

/-- The octets are lines of which the last with a length gives `n`. -/
def Reads (bs : List UInt8) (n : Int) : Prop :=
  scanLines none (Text.splitPair 13 10 bs) = .ok (some n)

theorem reads_of_declaredLength {header : List UInt8} {length : Nat}
    (h : declaredLength header = .ok length) : Reads header length ∧ 0 < length := by
  refine ⟨?_, declaredLength_pos h⟩
  unfold declaredLength at h
  split at h
  · cases h
  · cases h
  · rename_i n hn
    split at h
    · cases h
    · cases h
      rw [Reads, hn]
      congr 2
      omega

theorem declaredLength_of_reads {header : List UInt8} {length : Nat} (h : Reads header length)
    (pos : 0 < length) : declaredLength header = .ok length := by
  unfold declaredLength
  rw [h]
  simp only
  rw [if_neg (by omega)]
  rfl

/-- Reading on behind a first line that has no length. -/
theorem Reads.tail {line rest : List UInt8} {n : Int}
    (hs : Text.splitPair 13 10 (line ++ 13 :: 10 :: rest) = line :: Text.splitPair 13 10 rest)
    (h : Reads (line ++ 13 :: 10 :: rest) n) (hf : ¬ IsField line) : Reads rest n := by
  unfold Reads at h
  rw [hs, scanLines] at h
  split at h
  · cases h
  · rename_i found hfound
    rw [scanLine_of_not_field hf hfound] at h
    exact h

/-- One line alone has its length from the field at its beginning. -/
theorem Reads.isField {line : List UInt8} {n : Int} (hs : Text.splitPair 13 10 line = [line])
    (h : Reads line n) : IsField line := by
  by_cases hf : IsField line
  · exact hf
  · unfold Reads at h
    rw [hs, scanLines] at h
    split at h
    · cases h
    · rename_i found hfound
      rw [scanLine_of_not_field hf hfound] at h
      cases h

/-- A line begins behind these octets. -/
def EndsLine (bs : List UInt8) : Prop := bs = [] ∨ ∃ before, bs = before ++ [13, 10]

theorem EndsLine.append {bs : List UInt8} (h : EndsLine bs) (line : List UInt8) :
    EndsLine (line ++ 13 :: 10 :: bs) := by
  rcases h with rfl | ⟨before, rfl⟩
  · exact .inr ⟨line, rfl⟩
  · exact .inr ⟨line ++ 13 :: 10 :: before, by simp⟩

/-- **Octets that read as a length do so from a line on that begins with the field.** -/
theorem exists_field_line {bs : List UInt8} {n : Int} (h : Reads bs n) :
    ∃ before line, bs = before ++ line ∧ EndsLine before ∧ IsField line ∧ Reads line n := by
  induction hlen : bs.length using Nat.strongRecOn generalizing bs with
  | ind len ih =>
    rcases Text.splitPair_cases 13 10 bs with one | ⟨first, rest, rfl, hs⟩
    · exact ⟨[], bs, rfl, .inl rfl, h.isField one, h⟩
    · by_cases hf : IsField first
      · exact ⟨[], _, rfl, .inl rfl, beginsWith_append hf _, h⟩
      · have shorter : rest.length < len := by
          rw [← hlen, List.length_append, List.length_cons, List.length_cons]
          omega
        obtain ⟨before, line, rfl, ends, field, reads⟩ :=
          ih rest.length shorter (h.tail hs hf) rfl
        exact ⟨first ++ 13 :: 10 :: before, line, by simp, ends.append first, field, reads⟩

/-- **Octets that read as a length hold an occurrence of the field.** -/
theorem exists_field_of_reads {bs : List UInt8} {n : Int} (h : Reads bs n) :
    ∃ p, nextField? bs = some p := by
  obtain ⟨before, line, rfl, _, field, _⟩ := exists_field_line h
  have there : IsField ((before ++ line).drop before.length) := by
    rw [List.drop_left]
    exact field
  obtain ⟨p, hp, _⟩ := nextField?_of_isField there
  exact ⟨p, hp⟩

/-- From some line on the octets read as `n`. -/
def ReadsWithin (bs : List UInt8) (n : Int) : Prop :=
  ∃ before after, bs = before ++ after ∧ EndsLine before ∧ Reads after n

theorem Reads.within {bs : List UInt8} {n : Int} (h : Reads bs n) : ReadsWithin bs n :=
  ⟨[], bs, rfl, .inl rfl, h⟩

/-- A rest of octets at whose end a line ends still ends it, unless only the feed is left. -/
theorem EndsLine.drop_cases {bs : List UInt8} (h : EndsLine bs) (k : Nat) :
    EndsLine (bs.drop k) ∨ bs.drop k = [10] := by
  rcases h with rfl | ⟨start, rfl⟩
  · exact .inl (.inl List.drop_nil)
  · rcases Nat.lt_or_ge start.length k with lt | ge
    · rcases Nat.lt_or_ge (start.length + 1) k with lt' | ge'
      · exact .inl (.inl (List.drop_eq_nil_of_le (by rw [List.length_append]; exact lt')))
      · have hk : k = start.length + 1 := by omega
        exact .inr (by rw [hk, ← List.drop_drop, List.drop_left]; rfl)
    · exact .inl (.inr ⟨start.drop k, List.drop_append_of_le_length ge⟩)

/-- Where the field begins behind it, the feed is not what is left. -/
theorem EndsLine.drop {before after : List UInt8} (h : EndsLine before) {k : Nat}
    (hf : IsField ((before ++ after).drop k)) (le : k ≤ before.length) :
    EndsLine (before.drop k) := by
  refine (h.drop_cases k).resolve_right fun feed => ?_
  rw [List.drop_append_of_le_length le, feed] at hf
  exact hf.not_feed (show 0 < 15 by decide) rfl

/-- **What goes before the first occurrence does not keep the rest from reading as the length.** -/
theorem readsWithin_of_reads {bs : List UInt8} {n : Int} (h : Reads bs n) {k : Nat}
    (hk : nextField? bs = some k) : ReadsWithin (bs.drop k) n := by
  induction hlen : bs.length using Nat.strongRecOn generalizing bs k with
  | ind len ih =>
    have hfield := isField_drop hk
    rcases Text.splitPair_cases 13 10 bs with one | ⟨line, rest, rfl, hs⟩
    · have : k = 0 := by
        rw [nextField?_cons_of_field (h.isField one)] at hk
        cases hk
        rfl
      subst this
      exact h.within
    · by_cases hf : IsField line
      · rw [nextField?_cons_of_field (beginsWith_append hf _)] at hk
        cases hk
        exact h.within
      · have hrest := h.tail hs hf
        have split : line ++ 13 :: 10 :: rest = (line ++ [13, 10]) ++ rest := by simp
        rw [split] at hk hfield ⊢
        have two : (line ++ [13, 10]).length = line.length + 2 := by simp
        rcases Nat.lt_or_ge k (line.length + 2) with lt | ge
        · -- the occurrence is in the first line, which does not count
          refine ⟨(line ++ [13, 10]).drop k, rest, ?_, ?_, hrest⟩
          · rw [List.drop_append_of_le_length (by omega)]
          · exact EndsLine.drop (.inr ⟨line, rfl⟩) hfield (by omega)
        · have later := nextField?_drop_of_le hk ge
          rw [← two, List.drop_left] at later
          have shorter : rest.length < len := by
            rw [← hlen, List.length_append, List.length_cons, List.length_cons]
            omega
          have := ih rest.length shorter hrest later rfl
          rw [List.drop_append, List.drop_eq_nil_of_le (by omega), List.nil_append]
          exact this

/-- The last length counts, so what reads within good lines is what they all read. -/
theorem ReadsWithin.eq {bs : List UInt8} {m n : Int} (h : ReadsWithin bs n) (hm : Reads bs m) :
    m = n := by
  obtain ⟨before, after, rfl, hb, ha⟩ := h
  rcases hb with rfl | ⟨start, rfl⟩
  · have := hm.symm.trans ha
    cases this
    rfl
  · unfold Reads at hm ha
    rw [List.append_assoc, List.cons_append, List.singleton_append,
      Text.splitPair_append_pair (by decide), scanLines_append] at hm
    cases hstart : scanLines none (Text.splitPair 13 10 start) with
    | error fault => rw [hstart] at hm; cases hm
    | ok found =>
      rw [hstart] at hm
      simp only [Except.bind] at hm
      rw [scanLines_eq, ha] at hm
      cases hm
      rfl

/-- The lines of octets that read as a length are not empty. -/
theorem Reads.filled {before after : List UInt8} {n : Int}
    (h : Reads (before ++ 13 :: 10 :: after) n) :
    after ≠ [] ∧ ∀ rest, after ≠ 13 :: 10 :: rest := by
  have empty (found : Option Int) (lines : List (List UInt8)) :
      scanLines found ([] :: lines) = .error (.malformedLine []) := rfl
  unfold Reads at h
  rw [Text.splitPair_append_pair (by decide), scanLines_append] at h
  constructor
  · rintro rfl
    rw [Text.splitPair] at h
    cases hb : scanLines none (Text.splitPair 13 10 before) with
    | error fault => rw [hb] at h; cases h
    | ok found => rw [hb] at h; cases h
  · rintro rest rfl
    rw [Text.splitPair, if_pos (by decide)] at h
    cases hb : scanLines none (Text.splitPair 13 10 before) with
    | error fault => rw [hb] at h; cases h
    | ok found => rw [hb] at h; cases h

/-- Where octets go over into the end of a header so that an end begins among them, a line ends
there and an empty one follows, or nothing. -/
theorem blank_of_overlap {own after : List UInt8} (filled : own ≠ [])
    (h : own ++ terminator = terminator ++ after) :
    ∃ rest, own = 13 :: 10 :: rest ∧ (rest = [] ∨ ∃ more, rest = 13 :: 10 :: more) := by
  match own, h with
  | [], _ => exact absurd rfl filled
  | [_], h => cases h
  | [_, _], h => cases h; exact ⟨[], rfl, .inl rfl⟩
  | [_, _, _], h => cases h
  | _ :: _ :: _ :: _ :: more, h => cases h; exact ⟨_, rfl, .inr ⟨more, rfl⟩⟩

/-- **A header that gives a length ends where its end is first found.** -/
theorem find?_of_reads {header : List UInt8} {n : Int} (h : Reads header n) (rest : List UInt8) :
    Text.find? terminator (header ++ terminator ++ rest) = some header.length := by
  refine Text.find?_append ?_ rest (by decide)
  cases hs : Text.find? terminator (header ++ terminator) with
  | none =>
    have := Text.find?_drop_of_none hs header.length
    rw [List.drop_left] at this
    cases this
  | some stop =>
    have four : terminator.length = 4 := rfl
    have bound := Text.find?_le hs
    rw [List.length_append] at bound
    rcases Nat.lt_or_ge stop header.length with lt | ge
    · -- an end that begins inside the header makes an empty line in it
      obtain ⟨after, ha⟩ := Text.drop_of_find? hs
      rw [List.drop_append_of_le_length (Nat.le_of_lt lt)] at ha
      have filled : header.drop stop ≠ [] := by
        rw [Ne, List.drop_eq_nil_iff]
        omega
      obtain ⟨line, hl, blank⟩ := blank_of_overlap filled ha
      have split := List.take_append_drop stop header
      rw [hl] at split
      rw [← split] at h
      rcases blank with rfl | ⟨more, rfl⟩
      · exact absurd rfl h.filled.1
      · exact absurd rfl (h.filled.2 more)
    · have : stop = header.length := by omega
      rw [this]

end ProbeBench.Frame
