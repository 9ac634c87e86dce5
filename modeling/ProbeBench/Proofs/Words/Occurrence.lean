import ProbeBench.Proofs.Text.Tokens
import ProbeBench.Words.Backend

/-!
# The first place where a word stands

Which word a position touches, and where a word stands by itself, can be said offset by offset
(`Touches`, `Stands`). The word server finds both by going through lines character by character: it
moves left and right from the position, and then tries every place from the first line on. It never
misses the place that it began from, so a word always has a first place.

* `wordBegin?_runs`, `wordEnd?_runs`, `wordAt?_touches`: the word at a position.
* `tried_iff`: what is tried at one place; `findIn?_cases`: the first place on a line.
* `firstFrom?_cases`: the first place on some lines.
* `definition_first`: the result.
-/

namespace ProbeBench.Words

open Text

/-- The word characters that touch an offset of a line are those between `first` and `stop`. -/
structure Touches (text : List Char) (offset first stop : Nat) : Prop where
  before : RunsFrom text first offset
  le : offset ≤ stop
  inside : stop ≤ text.length
  chars : Throughout isWordChar text offset stop
  outside : ∀ c ∈ text[stop]?, isWordChar c = false

/-- A word stands at an offset of a line, with no word character in front of it or behind it. -/
structure Stands (text word : List Char) (start : Nat) : Prop where
  there : word <+: text.drop start
  before : ∀ i, i + 1 = start → ∀ c ∈ text[i]?, isWordChar c = false
  behind : ∀ c ∈ text[start + word.length]?, isWordChar c = false

/-! ## The word at a position -/

/-- Moving left ends where the word characters do. -/
theorem wordBegin?_runs {text : List Char} {offset : Nat} (inside : offset ≤ text.length) :
    ∃ first, wordBegin? text offset = some first ∧ RunsFrom text first offset := by
  induction offset with
  | zero =>
    exact ⟨0, rfl, Nat.le_refl _, fun i _ before => absurd before (Nat.not_lt_zero i), nofun⟩
  | succ offset ih =>
    have there : text[offset]? = some text[offset] := List.getElem?_eq_getElem inside
    rw [wordBegin?, there]
    simp only
    split
    · rename_i goes_on
      obtain ⟨first, found, runs⟩ := ih (Nat.le_of_lt inside)
      refine ⟨first, found, Nat.le_succ_of_le runs.le, fun i behind before c hc => ?_,
        runs.outside⟩
      rcases Nat.lt_or_eq_of_le (Nat.le_of_lt_succ before) with earlier | rfl
      · exact runs.chars i behind earlier c hc
      · rw [there] at hc
        cases hc
        exact goes_on
    · rename_i stops
      refine ⟨offset + 1, rfl, Nat.le_refl _, fun i behind before => by omega,
        fun i next c hc => ?_⟩
      obtain rfl : i = offset := by omega
      rw [there] at hc
      cases hc
      exact Bool.eq_false_iff.mpr stops

/-- Moving right ends where the word characters do, at the end of the line at the latest. -/
theorem wordEnd?_runs {text : List Char} {fuel offset : Nat}
    (rest : offset + fuel = text.length) :
    ∃ stop : Nat, wordEnd? text offset fuel = some (stop : Int) ∧ offset ≤ stop ∧
      stop ≤ text.length ∧ Throughout isWordChar text offset stop ∧
      ∀ c ∈ text[stop]?, isWordChar c = false := by
  induction fuel generalizing offset with
  | zero =>
    refine ⟨offset, rfl, Nat.le_refl _, Nat.le_of_eq rest, fun i behind before => by omega, ?_⟩
    rw [List.getElem?_eq_none (by omega)]
    exact nofun
  | succ fuel ih =>
    have there : text[offset]? = some text[offset] := List.getElem?_eq_getElem (by omega)
    rw [wordEnd?, item?_natCast, there]
    simp only
    split
    · rename_i goes_on
      obtain ⟨stop, found, behind, inside, chars, outside⟩ := @ih (offset + 1) (by omega)
      refine ⟨stop, found, Nat.le_of_succ_le behind, inside, fun i from_here before c hc => ?_,
        outside⟩
      rcases Nat.lt_or_eq_of_le from_here with later | rfl
      · exact chars i later before c hc
      · rw [there] at hc
        cases hc
        exact goes_on
    · rename_i stops
      refine ⟨offset, rfl, Nat.le_refl _, by omega, fun i behind before => by omega, ?_⟩
      rw [there]
      rintro c ⟨⟩
      exact Bool.eq_false_iff.mpr stops

/-- The run that begins and ends where moving left and right stop. -/
theorem wordAt?_eq {line : List Char} {position start stop : Nat}
    (begins : wordBegin? line position = some start)
    (ends : wordEnd? line position (line.length - position) = some (stop : Int)) :
    wordAt? line position = some ((line.take stop).drop start) := by
  have from_start : (if (position : Int) ≤ 0 then some (position : Int)
      else (wordBegin? line (position : Int).toNat).map Int.ofNat) = some (start : Int) := by
    split
    · rename_i first
      obtain rfl : position = 0 := by omega
      cases begins
      rfl
    · rw [Int.toNat_natCast, begins]
      rfl
  have fuel : ((line.length : Int) - position).toNat = line.length - position := by omega
  unfold wordAt?
  simp only [from_start, fuel, ends, slice_nat]

/-- **The word server finds the word that a position touches.** -/
theorem wordAt?_touches {text : List Char} {offset : Nat} (inside : offset ≤ text.length) :
    ∃ first stop, Touches text offset first stop ∧
      wordAt? text offset = some ((text.take stop).drop first) := by
  obtain ⟨first, begins, runs⟩ := wordBegin?_runs inside
  obtain ⟨stop, ends, behind, within, chars, outside⟩ :=
    wordEnd?_runs (Nat.add_sub_cancel' inside)
  exact ⟨first, stop, ⟨runs, behind, within, chars, outside⟩, wordAt?_eq begins ends⟩

section Touching

variable {text : List Char} {offset first stop : Nat}

theorem Touches.length (h : Touches text offset first stop) :
    ((text.take stop).drop first).length = stop - first := by
  rw [List.length_drop, List.length_take, Nat.min_eq_left h.inside]

/-- All characters that touch a position are word characters. -/
theorem Touches.isWordChar (h : Touches text offset first stop) :
    ∀ c ∈ (text.take stop).drop first, isWordChar c = true := by
  intro c hc
  obtain ⟨i, hi, rfl⟩ := List.getElem_of_mem hc
  rw [h.length] at hi
  have there : text[first + i]? = some ((text.take stop).drop first)[i] := by
    rw [List.getElem_drop, List.getElem_take, List.getElem?_eq_getElem]
  rcases Nat.lt_or_ge (first + i) offset with before | behind
  · exact h.before.chars _ (Nat.le_add_right _ _) before _ there
  · exact h.chars _ behind (by omega) _ there

theorem Touches.bounds {first' stop' : Nat} (h : Touches text offset first stop)
    (h' : Touches text offset first' stop') : first' ≤ first ∧ stop' ≤ stop := by
  have := h.inside
  have := h'.inside
  have := h.le
  have := h'.before.le
  constructor
  · refine Nat.le_of_not_lt fun between => ?_
    have there : text[first' - 1]? = some text[first' - 1] := List.getElem?_eq_getElem (by omega)
    have inner := h.before.chars (first' - 1) (by omega) (by omega) _ there
    rw [h'.before.outside (first' - 1) (by omega) _ there] at inner
    cases inner
  · refine Nat.le_of_not_lt fun between => ?_
    have there : text[stop]? = some text[stop] := List.getElem?_eq_getElem (by omega)
    have inner := h'.chars stop h.le between _ there
    rw [h.outside _ there] at inner
    cases inner

theorem Touches.unique {first' stop' : Nat} (h : Touches text offset first stop)
    (h' : Touches text offset first' stop') : first = first' ∧ stop = stop' :=
  ⟨Nat.le_antisymm (h'.bounds h).1 (h.bounds h').1,
    Nat.le_antisymm (h'.bounds h).2 (h.bounds h').2⟩

/-- **The word that a position touches stands there by itself.** -/
theorem Touches.stands (h : Touches text offset first stop) :
    Stands text ((text.take stop).drop first) first := by
  have ordered : first ≤ stop := Nat.le_trans h.before.le h.le
  refine ⟨?_, h.before.outside, ?_⟩
  · rw [List.drop_take]
    exact List.take_prefix _ _
  · rw [h.length, Nat.add_sub_cancel' ordered]
    exact h.outside

/-- Characters of words are a word unless there are none or the first one is a digit. -/
theorem isWord_eq_false_iff {word : List Char} (chars : ∀ c ∈ word, isWordChar c = true) :
    isWord word = false ↔ word = [] ∨ ∃ c ∈ word.head?, c.isDigit = true := by
  cases word with
  | nil => simp [isWord]
  | cons c word =>
    have first := chars c List.mem_cons_self
    have later : word.all Text.isWordChar = true :=
      List.all_eq_true.mpr fun d hd => chars d (List.mem_cons_of_mem c hd)
    have digit : c.isDigit = !isWordStart c := by
      cases starts : isWordStart c with
      | false => rw [isDigit_iff starts]; exact first
      | true =>
        cases digit : c.isDigit with
        | false => rfl
        | true =>
          have := (wordChar_of_isDigit digit).2
          rw [starts] at this
          cases this
    simp [isWord, later, digit]

end Touching

/-! ## The first place on a line -/

/-- A word stands at a seam. -/
theorem stands_append_iff {front rest word : List Char} :
    Stands (front ++ rest) word front.length ↔ (∀ c ∈ front.getLast?, isWordChar c = false) ∧
      word <+: rest ∧ ∀ c ∈ (rest.drop word.length).head?, isWordChar c = false := by
  have before : (∀ i, i + 1 = front.length → ∀ c ∈ (front ++ rest)[i]?, isWordChar c = false) ↔
      ∀ c ∈ front.getLast?, isWordChar c = false := by
    rw [List.getLast?_eq_getElem?]
    constructor
    · intro all c hc
      have some_front := (List.getElem?_eq_some_iff.mp hc).1
      refine all (front.length - 1) (by omega) c ?_
      rw [List.getElem?_append_left some_front]
      exact hc
    · intro last i next c hc
      rw [List.getElem?_append_left (by omega)] at hc
      rw [← next, Nat.add_sub_cancel] at last
      exact last c hc
  have behind : (front ++ rest)[front.length + word.length]? = (rest.drop word.length).head? := by
    rw [List.getElem?_append_right (Nat.le_add_right _ _), Nat.add_sub_cancel_left,
      List.head?_drop]
  rw [← before, ← behind]
  constructor
  · rintro ⟨there, outside, beyond⟩
    rw [List.drop_left] at there
    exact ⟨outside, there, beyond⟩
  · rintro ⟨outside, there, beyond⟩
    exact ⟨by rwa [List.drop_left], outside, beyond⟩

/-- What is tried at one place of a line. -/
theorem tried_iff {front rest word : List Char} :
    (isBoundary front.getLast? && word.isPrefixOf rest &&
        isBoundary (rest.drop word.length).head?) = true ↔
      Stands (front ++ rest) word front.length := by
  have boundary (o : Option Char) : isBoundary o = true ↔ ∀ c ∈ o, isWordChar c = false := by
    cases o <;> simp [isBoundary]
  rw [stands_append_iff, Bool.and_eq_true, Bool.and_eq_true, boundary, boundary,
    List.isPrefixOf_iff_prefix, and_assoc]

/-- **From some place on, a word is found where it first stands**, or it stands nowhere there. -/
theorem findIn?_cases {word : List Char} (filled : word ≠ []) (front rest : List Char) :
    (∃ k, findIn? word front.getLast? front.length rest = some k ∧ front.length ≤ k ∧
        Stands (front ++ rest) word k ∧
        ∀ j, front.length ≤ j → j < k → ¬ Stands (front ++ rest) word j) ∨
      findIn? word front.getLast? front.length rest = none ∧
        ∀ j, front.length ≤ j → ¬ Stands (front ++ rest) word j := by
  induction rest generalizing front with
  | nil =>
    right
    have open_word : word.isEmpty = false := by simpa using filled
    refine ⟨by simp [findIn?, open_word], fun j behind stands => filled ?_⟩
    have there := stands.there
    rwa [List.append_nil, List.drop_eq_nil_of_le behind, List.prefix_nil] at there
  | cons c rest ih =>
    have here := @tried_iff front (c :: rest) word
    rw [findIn?]
    split
    · rename_i tried
      exact .inl ⟨front.length, rfl, Nat.le_refl _, here.mp tried, fun j _ _ => by omega⟩
    · rename_i tried
      have nowhere := fun stands => tried (here.mpr stands)
      have moved : front ++ [c] ++ rest = front ++ c :: rest := by simp
      have later := ih (front ++ [c])
      rw [List.getLast?_concat, List.length_append, List.length_singleton, moved] at later
      -- the place that was tried in vain comes in front of the others
      have skips {p : Nat → Prop} (others : ∀ j, front.length + 1 ≤ j → p j →
          ¬ Stands (front ++ c :: rest) word j) (j : Nat) (behind : front.length ≤ j) (hp : p j) :
          ¬ Stands (front ++ c :: rest) word j := by
        rcases Nat.lt_or_eq_of_le behind with further | rfl
        · exact others j further hp
        · exact nowhere
      rcases later with ⟨k, found, behind, stands, least⟩ | ⟨none_found, others⟩
      · exact .inl ⟨k, found, Nat.le_of_succ_le behind, stands, skips least⟩
      · exact .inr ⟨none_found, fun j behind =>
          skips (p := fun _ => True) (fun j further _ => others j further) j behind trivial⟩

/-! ## The first place on some lines -/

/-- A word stands by itself on one of some lines. -/
def StandsOn (ls : List (List Char)) (word : List Char) (line start : Nat) : Prop :=
  ∃ content, ls[line]? = some content ∧ Stands content word start

/-- **A word is found where it first stands**, by line and then by place, or it stands nowhere. -/
theorem firstFrom?_cases {word : List Char} (filled : word ≠ []) (number : Nat)
    (ls : List (List Char)) :
    (∃ line start, firstFrom? word number ls =
          some ⟨number + line, start, start + word.length⟩ ∧
        StandsOn ls word line start ∧
        ∀ l s, StandsOn ls word l s → line < l ∨ line = l ∧ start ≤ s) ∨
      firstFrom? word number ls = none ∧ ∀ l s, ¬ StandsOn ls word l s := by
  induction ls generalizing number with
  | nil =>
    refine .inr ⟨rfl, fun l s => ?_⟩
    rintro ⟨_, ⟨⟩, _⟩
  | cons content ls ih =>
    rw [firstFrom?]
    rcases findIn?_cases filled [] content with ⟨k, found, -, stands, least⟩ | ⟨none_found, nowhere⟩
    · refine .inl ⟨0, k, ?_, ⟨content, rfl, stands⟩, fun l s there => ?_⟩
      · rw [show findIn? word none 0 content = some k from found]
        rfl
      · cases l with
        | succ l => exact .inl (Nat.succ_pos l)
        | zero =>
          obtain ⟨_, ⟨⟩, others⟩ := there
          exact .inr ⟨rfl, Nat.le_of_not_lt fun before => least s (Nat.zero_le s) before others⟩
    · rw [show findIn? word none 0 content = none from none_found]
      have not_here {s : Nat} : ¬ StandsOn (content :: ls) word 0 s := by
        rintro ⟨_, ⟨⟩, others⟩
        exact nowhere s (Nat.zero_le s) others
      rcases ih (number + 1) with ⟨line, start, found, stands, least⟩ | ⟨none_found, others⟩
      · refine .inl ⟨line + 1, start, ?_, stands, fun l s there => ?_⟩
        · rw [show number + (line + 1) = number + 1 + line by omega]
          exact found
        · cases l with
          | zero => exact absurd there not_here
          | succ l => have := least l s there; omega
      · refine .inr ⟨none_found, fun l s there => ?_⟩
        cases l with
        | zero => exact not_here there
        | succ l => exact others l s there

/-! ## The definition of a word -/

/-- A position on a line is asked about the word there. -/
theorem definition?_eq {ls : List (List Char)} {line : Nat} {content word : List Char}
    {character : Int} (on_line : ls[line]? = some content)
    (read : wordAt? content character = some word) :
    definition? ls line character =
      some (if isWord word then firstOccurrence? ls word else none) := by
  have short : ¬ (ls.length : Int) ≤ line := by
    have := (List.getElem?_eq_some_iff.mp on_line).1
    omega
  rw [definition?, if_neg short, item?_natCast, on_line]
  simp only [read, Option.map_some]

/-- **The definition of a word is the first place where it stands by itself.** At a position on a
line or at its end, the server answers nothing exactly if no word character touches the position or
the first one that does is a digit. Otherwise it answers one place in the document, on one line: no
word character is next to it, the word stands nowhere before it, and so it is not behind the word at
the position. -/
theorem definition_first {ls : List (List Char)} {line character : Nat} {content : List Char}
    (on_line : ls[line]? = some content) (inside : character ≤ content.length) :
    ∃ first stop word answer, Touches content character first stop ∧
      word = (content.take stop).drop first ∧ definition? ls line character = some answer ∧
      (∀ d : Stored, lines d.text = ls → Backend.definition d line character =
        .ok (answer.elim .null (Backend.location d))) ∧
      (answer = none ↔ word = [] ∨ ∃ c ∈ word.head?, c.isDigit = true) ∧
      ∀ spot ∈ answer, StandsOn ls word spot.line spot.start ∧
        spot.stop = spot.start + word.length ∧
        (∀ l s, StandsOn ls word l s → spot.line < l ∨ spot.line = l ∧ spot.start ≤ s) ∧
        (spot.line < line ∨ spot.line = line ∧ spot.start ≤ first) := by
  obtain ⟨first, stop, touches, read⟩ := wordAt?_touches inside
  obtain ⟨word, is_word⟩ : ∃ word, word = (content.take stop).drop first := ⟨_, rfl⟩
  have itself : StandsOn ls word line first := ⟨content, on_line, is_word ▸ touches.stands⟩
  have isWord_iff := isWord_eq_false_iff (is_word ▸ touches.isWordChar)
  have asked := definition?_eq on_line read
  rw [← is_word] at asked
  have answers {answer : Option Spot} (e : definition? ls line character = some answer)
      (d : Stored) (same : lines d.text = ls) :
      Backend.definition d line character = .ok (answer.elim .null (Backend.location d)) := by
    rw [Backend.definition, same, e]
    cases answer <;> rfl
  cases isWord : isWord word with
  | false =>
    rw [isWord, if_neg Bool.false_ne_true] at asked
    refine ⟨first, stop, word, none, touches, is_word, asked, answers asked,
      iff_of_true rfl (isWord_iff.mp isWord), ?_⟩
    rintro spot ⟨⟩
  | true =>
    have no_digit := fun h => Bool.false_ne_true ((isWord_iff.mpr h).symm.trans isWord)
    have filled : word ≠ [] := fun none => no_digit (.inl none)
    rw [isWord, if_pos rfl] at asked
    rcases firstFrom?_cases filled 0 ls with ⟨l, s, found, stands, least⟩ | ⟨-, nowhere⟩
    · rw [firstOccurrence?, found] at asked
      refine ⟨first, stop, word, _, touches, is_word, asked, answers asked,
        iff_of_false (Option.some_ne_none _) no_digit, ?_⟩
      rintro spot ⟨⟩
      rw [Nat.zero_add]
      exact ⟨stands, rfl, least, least _ _ itself⟩
    · exact absurd itself (nowhere _ _)

/-- The word behind a longer one on the second line stands by itself on the first. -/
theorem definition_first_above :
    let d : Stored := ⟨[], "file:///a", ['a', 'b', ' ', 'b', '\n', 'a', ' ', 'b']⟩
    let ls := [['a', 'b', ' ', 'b', '\n'], ['a', ' ', 'b']]
    lines d.text = ls ∧ ls[1]? = some ['a', ' ', 'b'] ∧ 3 ≤ ['a', ' ', 'b'].length ∧
      ∃ first stop, Touches ['a', ' ', 'b'] 3 first stop ∧
        Backend.definition d (1 : Nat) (3 : Nat) = .ok (Backend.location d ⟨0, 3, 4⟩) := by
  intro d ls
  obtain ⟨first, stop, word, answer, touches, -, asked, answers, -⟩ :=
    @definition_first ls 1 3 ['a', ' ', 'b'] rfl (by decide)
  have found : answer = some ⟨0, 3, 4⟩ := Option.some.inj (asked.symm.trans (by rfl))
  refine ⟨rfl, rfl, by decide, first, stop, touches, ?_⟩
  rw [answers d rfl, found]
  rfl

end ProbeBench.Words
