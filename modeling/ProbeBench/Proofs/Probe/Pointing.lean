import ProbeBench.Proofs.Bench.Probing
import ProbeBench.Proofs.Probe.Spot
import ProbeBench.Proofs.Text.Lines
import ProbeBench.Proofs.Text.Words

/-!
# Where a position points

The protocol names a place in a text by a line and a number of 16-bit units in that line. `resolve?`
reads such a position the way a server does, character by character, without the table of line
starts by which positions are made. `resolve?_append` says that both agree at every seam of a text.

* `definition_spot_resolves`: the spot of a candidate is where its word begins, also in the text
  that is asked about definitions.
* `completion_spot_resolves`: without the word, the spot is where the word was, unless the word kept
  a return and a feed apart.
-/

namespace ProbeBench

namespace Text

/-! ## Reading positions -/

/-- The offset that is `count` 16-bit units behind the beginning of a text, if these units are on
its first line and do not end within a character. -/
def advance? : List Char → Nat → Option Nat
  | _, 0 => some 0
  | [], _ + 1 => none
  | c :: rest, count + 1 =>
    if endsLine c then none
    else if unitsOf c ≤ count + 1 then (advance? rest (count + 1 - unitsOf c)).map (· + 1)
    else none

/-- The offset that a position denotes in a text whose lines end with a feed, a return or the pair
of both. -/
def resolve? : List Char → Nat → Nat → Option Nat
  | text, 0, character => advance? text character
  | [], _ + 1, _ => none
  | '\r' :: '\n' :: rest, line + 1, character => (resolve? rest line character).map (· + 2)
  | c :: rest, line + 1, character =>
    (resolve? rest (if endsLine c then line else line + 1) character).map (· + 1)

@[simp] theorem advance?_zero (text : List Char) : advance? text 0 = some 0 := by
  cases text <;> rfl

theorem advance?_cons {c : Char} (h : endsLine c = false) (rest : List Char) (count : Nat) :
    advance? (c :: rest) (unitsOf c + count) = (advance? rest count).map (· + 1) := by
  have some_unit := unitsOf_pos c
  obtain ⟨n, hn⟩ : ∃ n, unitsOf c + count = n + 1 := ⟨unitsOf c + count - 1, by omega⟩
  rw [hn, advance?, h, if_neg Bool.false_ne_true, if_pos (by omega), ← hn, Nat.add_sub_cancel_left]

theorem resolve?_zero (text : List Char) (character : Nat) :
    resolve? text 0 character = advance? text character := by
  cases text <;> rfl

theorem resolve?_pair (text : List Char) (line character : Nat) :
    resolve? ('\r' :: '\n' :: text) (line + 1) character =
      (resolve? text line character).map (· + 2) := by
  rw [resolve?]

theorem resolve?_cons {c : Char} {text : List Char} (single : c = '\r' → text.head? ≠ some '\n')
    (line character : Nat) :
    resolve? (c :: text) (line + 1) character =
      (resolve? text (if endsLine c then line else line + 1) character).map (· + 1) := by
  rw [resolve?]
  rintro rest rfl rfl
  exact single rfl rfl

/-- Without line breaks, every character is on the first line. -/
theorem advance?_append {a : List Char} (h : lineBreaks 0 a = []) (b : List Char) :
    advance? (a ++ b) (units a) = some a.length := by
  induction a using lineInduction with
  | nil => simp
  | pair a ih =>
    rw [lineBreaks_pair] at h
    cases h
  | cons c a single ih =>
    rw [lineBreaks_cons single] at h
    cases he : endsLine c with
    | true => simp [he] at h
    | false =>
      simp only [he, Bool.false_eq_true, if_false] at h
      have none_left : lineBreaks 0 a = [] := by
        rw [← List.length_eq_zero_iff, ← length_lineBreaks (0 + 1), h]
        rfl
      rw [List.cons_append, units_cons, advance?_cons he, ih none_left]
      rfl

/-- **A position that counts the line breaks in front of an offset, and the units behind the last of
them, denotes that offset.** -/
theorem resolve?_append {a b : List Char} (seam : Seam a b) :
    resolve? (a ++ b) (lineBreaks 0 a).length (units (lastLine a)) = some a.length := by
  induction a using lineInduction with
  | nil => simp [lineBreaks, resolve?_zero, lastLine]
  | pair a ih =>
    rw [lineBreaks_pair, List.length_cons, length_lineBreaks, lastLine_pair, List.cons_append,
      List.cons_append, resolve?_pair, ih seam.tail.tail]
    rfl
  | cons c a single ih =>
    cases he : endsLine c with
    | true =>
      rw [lastLine_cons single (.inl he), lineBreaks_cons single, List.cons_append, he,
        if_pos rfl, List.length_cons, length_lineBreaks, resolve?_cons (seam.single single), he,
        if_pos rfl, ih seam.tail]
      rfl
    | false =>
      by_cases first : lineBreaks 0 a = []
      · have still : lineBreaks 0 (c :: a) = [] := by
          rw [lineBreaks_cons single, he, if_neg Bool.false_ne_true, ← List.length_eq_zero_iff,
            length_lineBreaks, first]
          rfl
        rw [still, lastLine_of_no_break still, List.length_nil, resolve?_zero,
          advance?_append still]
      · have some_break := List.length_pos_iff.mpr first
        obtain ⟨n, hn⟩ : ∃ n, (lineBreaks 0 a).length = n + 1 :=
          ⟨(lineBreaks 0 a).length - 1, by omega⟩
        have rest := ih seam.tail
        rw [lastLine_cons single (.inr first), lineBreaks_cons single, List.cons_append, he,
          if_neg Bool.false_ne_true, length_lineBreaks, hn,
          resolve?_cons (seam.single single), he, if_neg Bool.false_ne_true, ← hn, rest]
        rfl

/-- Between a return and a feed there is no position: the one that counts what stands in front
denotes the offset behind both. -/
theorem resolve?_between (a b : List Char) :
    resolve? ((a ++ ['\r']) ++ ('\n' :: b)) (lineBreaks 0 (a ++ ['\r'])).length
      (units (lastLine (a ++ ['\r']))) = some ((a ++ ['\r']).length + 1) := by
  have seam : Seam (a ++ ['\r', '\n']) b := by
    intro h
    simp at h
  have return_breaks : lineBreaks 0 (a ++ ['\r']) = lineBreaks 0 a ++ [a.length + 1] := by
    rw [lineBreaks_append (seam_of_head (by simp)), Nat.zero_add]
    rfl
  have pair_breaks : lineBreaks 0 (a ++ ['\r', '\n']) = lineBreaks 0 a ++ [a.length + 2] := by
    rw [lineBreaks_append (seam_of_head (by simp)), Nat.zero_add]
    rfl
  have behind_return : lastLine (a ++ ['\r']) = [] := by
    rw [lastLine, lastStart, return_breaks, List.drop_eq_nil_iff]
    simp
  have behind_pair : lastLine (a ++ ['\r', '\n']) = [] := by
    rw [lastLine, lastStart, pair_breaks, List.drop_eq_nil_iff]
    simp
  have found := resolve?_append seam
  rw [pair_breaks, behind_pair] at found
  rw [return_breaks, behind_return, List.append_assoc]
  simpa using found

/-! ## Parts of a text -/

theorem upTo_length (a b : List Char) : upTo (a ++ b) a.length = a := by
  rw [upTo, clamp_natCast, List.length_append, Nat.min_eq_left (Nat.le_add_right _ _),
    List.take_left]

theorem fromOn_length (a b : List Char) : fromOn (a ++ b) a.length = b := by
  rw [fromOn, clamp_natCast, List.length_append, Nat.min_eq_left (Nat.le_add_right _ _),
    List.drop_left]

end Text

namespace Probe

open Text

/-! ## Where candidates stand -/

/-- A candidate stands at a word that cuts the text. -/
structure Stands (text : List Char) (c : Candidate) (before word after : List Char) : Prop
    extends Cut text before word after where
  start_eq : c.start = before.length
  stop_eq : c.stop = (before.length + word.length : Nat)
  line_eq : c.line - 1 = (LineTable.ofText text).lineOf before.length

/-- Every candidate stands at a word. -/
theorem stands_of_mem_candidates {text : List Char} {c : Candidate}
    (mem : c ∈ candidates (.ofText text)) :
    ∃ before word after, Stands text c before word after := by
  obtain ⟨⟨start, word⟩, found, hc⟩ := List.mem_filterMap.mp mem
  obtain ⟨before, after, cut, at_start⟩ := exists_cut found
  rw [Nat.zero_add] at at_start
  subst at_start
  refine ⟨before, word, after, ?_⟩
  unfold candidate? at hc
  simp only at hc
  split at hc
  · cases hc
  · cases hc
    refine ⟨cut, rfl, rfl, ?_⟩
    simp [LineTable.place]

namespace Stands

variable {text : List Char} {c : Candidate} {before word after : List Char}

theorem upTo_start (h : Stands text c before word after) : upTo text c.start = before := by
  rw [h.start_eq, h.text_eq, upTo_length]

theorem upTo_stop (h : Stands text c before word after) : upTo text c.stop = before ++ word := by
  rw [h.stop_eq, h.text_eq, ← List.append_assoc, ← List.length_append, upTo_length]

theorem fromOn_stop (h : Stands text c before word after) : fromOn text c.stop = after := by
  rw [h.stop_eq, h.text_eq, ← List.append_assoc, ← List.length_append, fromOn_length]

theorem probeText_completion (h : Stands text c before word after) :
    probeText text c .completion = before ++ after := by
  rw [probeText, h.upTo_start, h.fromOn_stop]

theorem probeText_definition (h : Stands text c before word after) :
    probeText text c .definition = before ++ (word ++ ' ' :: after) := by
  rw [probeText, h.upTo_stop, h.fromOn_stop, List.append_assoc]

/-- The spot counts the line breaks before the word, and the units behind the last of them. -/
theorem spot?_eq (h : Stands text c before word after) :
    spot? (.ofText text) c =
      some (((lineBreaks 0 before).length : Int), units (lastLine before)) := by
  have filled : word ++ after ≠ [] := by
    intro none
    have isWord := h.isWord
    rw [(List.append_eq_nil_iff.mp none).1] at isWord
    cases isWord
  have line : c.line - 1 = ((lineBreaks 0 before).length : Int) := by
    rw [h.line_eq, h.text_eq, LineTable.lineOf_append (h.toCut.seam after) filled]
  have first : (LineTable.ofText text).startOfLine? (c.line - 1) = some (lastStart 0 before) := by
    rw [line, h.text_eq, LineTable.startOfLine?_append (h.toCut.seam after) filled]
  have front : slice text (lastStart 0 before : Nat) c.start = lastLine before := by
    rw [h.start_eq, slice_nat, h.text_eq, List.take_left, lastLine]
  have spot : spot? (.ofText text) c =
      some (c.line - 1, units (slice text (lastStart 0 before : Nat) c.start)) := by
    rw [spot?, first]
    rfl
  rw [spot, line, front]

/-- A spot is within the range of a position. -/
theorem position_ok (h : Stands text c before word after) (short : text.length < 0x40000000) :
    Protocol.position (.int (lineBreaks 0 before).length) (.int (units (lastLine before))) =
      .ok (.obj [("line", .int (lineBreaks 0 before).length),
        ("character", .int (units (lastLine before)))]) := by
  have inside : before.length ≤ text.length := by
    rw [h.text_eq, List.length_append]
    exact Nat.le_add_right _ _
  have breaks := length_lineBreaks_le 0 before
  have few_units := units_le (lastLine before)
  have last : (lastLine before).length ≤ before.length := by
    rw [lastLine, List.length_drop]
    exact Nat.sub_le _ _
  exact ProbeBench.position_ok (by omega) (by omega)

end Stands

/-- **The spot of a candidate is where its word begins**, in the text and in the one that is asked
about definitions, where the word is still whole. -/
theorem definition_spot_resolves {text : List Char} {c : Candidate}
    (short : text.length < 0x40000000) (mem : c ∈ candidates (.ofText text)) :
    ∃ (line character start : Nat) (word : List Char),
      spot? (.ofText text) c = some ((line : Int), character) ∧
      Protocol.position (.int line) (.int character) =
        .ok (.obj [("line", .int line), ("character", .int character)]) ∧
      c.start = start ∧ slice text c.start c.stop = word ∧ (start, word) ∈ wordsFrom 0 text ∧
      resolve? text line character = some start ∧
      resolve? (probeText text c .definition) line character = some start ∧
      slice (probeText text c .definition) c.start c.stop = word ∧
      (start, word) ∈ wordsFrom 0 (probeText text c .definition) := by
  obtain ⟨before, word, after, h⟩ := stands_of_mem_candidates mem
  have word_of (rest : List Char) :
      slice (before ++ (word ++ rest)) c.start c.stop = word := by
    rw [h.start_eq, h.stop_eq, slice_nat, ← List.append_assoc, ← List.length_append,
      List.take_left, List.drop_left]
  have blank : Stops (' ' :: after) := stops_cons (by decide)
  refine ⟨(lineBreaks 0 before).length, units (lastLine before), before.length, word, h.spot?_eq,
    h.position_ok short, h.start_eq, ?_, ?_, ?_, ?_, ?_, ?_⟩
  · rw [h.text_eq]
    exact word_of after
  · rw [h.text_eq]
    exact h.mem_wordsFrom h.stops
  · rw [h.text_eq]
    exact resolve?_append (h.toCut.seam after)
  · rw [h.probeText_definition]
    exact resolve?_append (h.toCut.seam _)
  · rw [h.probeText_definition]
    exact word_of _
  · rw [h.probeText_definition]
    exact h.mem_wordsFrom blank

/-- A pair of return and feed, a lone return and a wide character stand in front of the word. -/
theorem definition_spot_resolves_wide :
    ∃ (line character start : Nat) (word : List Char),
      spot? (.ofText ['\r', '\n', '\r', '𝕏', ' ', 'a', 'b', '\n']) ⟨5, 7, 3, 3⟩ =
        some ((line : Int), character) ∧
      Protocol.position (.int line) (.int character) =
        .ok (.obj [("line", .int line), ("character", .int character)]) ∧
      (5 : Int) = start ∧
      slice ['\r', '\n', '\r', '𝕏', ' ', 'a', 'b', '\n'] 5 7 = word ∧
      (start, word) ∈ wordsFrom 0 ['\r', '\n', '\r', '𝕏', ' ', 'a', 'b', '\n'] ∧
      resolve? ['\r', '\n', '\r', '𝕏', ' ', 'a', 'b', '\n'] line character = some start ∧
      resolve? (probeText ['\r', '\n', '\r', '𝕏', ' ', 'a', 'b', '\n'] ⟨5, 7, 3, 3⟩ .definition)
        line character = some start ∧
      slice (probeText ['\r', '\n', '\r', '𝕏', ' ', 'a', 'b', '\n'] ⟨5, 7, 3, 3⟩ .definition) 5 7 =
        word ∧
      (start, word) ∈ wordsFrom 0
        (probeText ['\r', '\n', '\r', '𝕏', ' ', 'a', 'b', '\n'] ⟨5, 7, 3, 3⟩ .definition) :=
  definition_spot_resolves (by decide) (by decide +kernel)

/-- Without the word, a return before it and a feed behind it become one line end. -/
def Joins (text : List Char) (c : Candidate) : Prop :=
  (upTo text c.start).getLast? = some '\r' ∧ (fromOn text c.stop).head? = some '\n'

instance (text : List Char) (c : Candidate) : Decidable (Joins text c) :=
  inferInstanceAs (Decidable (_ ∧ _))

/-- **Without the word, the spot is where the word was**, or behind the line end that its removal
has made. -/
theorem completion_spot_resolves {text : List Char} {c : Candidate}
    (short : text.length < 0x40000000) (mem : c ∈ candidates (.ofText text)) :
    ∃ line character start : Nat,
      spot? (.ofText text) c = some ((line : Int), character) ∧
      Protocol.position (.int line) (.int character) =
        .ok (.obj [("line", .int line), ("character", .int character)]) ∧
      c.start = start ∧
      resolve? (probeText text c .completion) line character =
        some (if Joins text c then start + 1 else start) := by
  obtain ⟨before, word, after, h⟩ := stands_of_mem_candidates mem
  have joins : Joins text c ↔ before.getLast? = some '\r' ∧ after.head? = some '\n' := by
    rw [Joins, h.upTo_start, h.fromOn_stop]
  refine ⟨(lineBreaks 0 before).length, units (lastLine before), before.length, h.spot?_eq,
    h.position_ok short, h.start_eq, ?_⟩
  rw [h.probeText_completion]
  by_cases both : Joins text c
  · obtain ⟨last, first⟩ := joins.mp both
    obtain ⟨front, rfl⟩ := List.getLast?_eq_some_iff.mp last
    obtain ⟨back, rfl⟩ := List.head?_eq_some_iff.mp first
    rw [if_pos both]
    exact resolve?_between front back
  · rw [if_neg both]
    exact resolve?_append fun last first => both (joins.mpr ⟨last, first⟩)

/-- A word between a return and a line's end. -/
theorem completion_spot_resolves_lone :
    ∃ line character start : Nat,
      spot? (.ofText ['x', '\r', 'a', 'b', '\r', '\n']) ⟨2, 4, 2, 1⟩ =
        some ((line : Int), character) ∧
      Protocol.position (.int line) (.int character) =
        .ok (.obj [("line", .int line), ("character", .int character)]) ∧
      (2 : Int) = start ∧
      resolve? (probeText ['x', '\r', 'a', 'b', '\r', '\n'] ⟨2, 4, 2, 1⟩ .completion) line
          character =
        some (if Joins ['x', '\r', 'a', 'b', '\r', '\n'] ⟨2, 4, 2, 1⟩ then start + 1 else start) :=
  completion_spot_resolves (by decide) (by decide +kernel)

/-- **The spot may miss the place of the word**: it does where the word kept a return and a feed
apart. -/
theorem completion_spot_joined :
    ¬ ∀ (text : List Char) (c : Candidate), text.length < 0x40000000 →
      c ∈ candidates (.ofText text) →
      ∃ line character start : Nat, spot? (.ofText text) c = some ((line : Int), character) ∧
        c.start = start ∧ resolve? (probeText text c .completion) line character = some start := by
  intro always
  obtain ⟨line, character, start, spot, at_start, arrives⟩ :=
    always ['\r', 'f', 'o', 'o', '\n'] ⟨1, 4, 2, 1⟩ (by decide) (by decide +kernel)
  have known : spot? (.ofText ['\r', 'f', 'o', 'o', '\n']) ⟨1, 4, 2, 1⟩ = some (1, 0) := by
    decide +kernel
  rw [known] at spot
  obtain ⟨hl, rfl⟩ := Prod.mk.inj (Option.some.inj spot)
  have hs : start = 1 := by
    simp only at at_start
    omega
  have hline : line = 1 := by omega
  subst hs hline
  exact absurd arrives (by decide +kernel)

end Probe

end ProbeBench
