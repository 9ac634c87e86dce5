import Mathlib.Data.List.Basic
import ProbeBench.Proofs.Text.Words
import ProbeBench.Text.Position

/-!
# Words, offset by offset

Words are read from the left, each as long as it can be. Which offsets a word takes can be said
without the reading (`IsToken`): a letter or an underscore begins it, word characters make it up,
and none follows. It need not be a whole run of word characters, as the digits at the beginning of a
run begin no word; but nothing else stands in front of it in its run (`RunsFrom`).

* `isToken_append`, `IsToken.exists_parts`: a token cuts its text into what is before the run, the
  digits, the word, and what is behind it.
* `mem_wordsFrom_iff`: the words that are read are the tokens.
* `pairwise_wordsFrom`: they are read in order, and do not touch.
-/

namespace ProbeBench.Text

/-- Every character of a text between two offsets has a property. -/
def Throughout (p : Char → Bool) (text : List Char) (first stop : Nat) : Prop :=
  ∀ i, first ≤ i → i < stop → ∀ c ∈ text[i]?, p c = true

/-- The word characters in front of an offset go back to `first` and no further. -/
structure RunsFrom (text : List Char) (first offset : Nat) : Prop where
  le : first ≤ offset
  chars : Throughout isWordChar text first offset
  outside : ∀ i, i + 1 = first → ∀ c ∈ text[i]?, isWordChar c = false

/-- A word stands between two offsets of a text. -/
structure IsToken (text : List Char) (start stop : Nat) : Prop where
  filled : start < stop
  inside : stop ≤ text.length
  letter : ∀ c ∈ text[start]?, isWordStart c = true
  chars : Throughout isWordChar text start stop
  stops : ∀ c ∈ text[stop]?, isWordChar c = false
  digits : ∃ first, RunsFrom text first start ∧ Throughout Char.isDigit text first start

/-! ## Parts of a text -/

theorem throughout_middle (p : Char → Bool) (a b rest : List Char) :
    Throughout p (a ++ (b ++ rest)) a.length (a.length + b.length) ↔ ∀ c ∈ b, p c = true := by
  constructor
  · intro all c hc
    obtain ⟨i, hi, rfl⟩ := List.getElem_of_mem hc
    refine all (a.length + i) (by omega) (by omega) b[i] ?_
    rw [Option.mem_def, List.getElem?_append_right (by omega), Nat.add_sub_cancel_left,
      List.getElem?_append_left hi, List.getElem?_eq_getElem hi]
  · intro all i behind before c hc
    rw [Option.mem_def, List.getElem?_append_right behind,
      List.getElem?_append_left (by omega)] at hc
    exact all c (List.mem_of_getElem? hc)

theorem getElem?_length_append (a b : List Char) : (a ++ b)[a.length]? = b.head? := by
  rw [List.getElem?_append_right (Nat.le_refl _), Nat.sub_self, List.head?_eq_getElem?]

/-- A text can be cut at any of its offsets. -/
theorem exists_parts {text : List Char} {n : Nat} (h : n ≤ text.length) :
    ∃ a b, text = a ++ b ∧ a.length = n :=
  ⟨text.take n, text.drop n, (List.take_append_drop n text).symm, List.length_take_of_le h⟩

/-- A word begins with a letter or underscore and goes on with word characters. -/
theorem isWord_iff {word : List Char} :
    isWord word = true ↔ word ≠ [] ∧ (∀ c ∈ word.head?, isWordStart c = true) ∧
      ∀ c ∈ word, isWordChar c = true := by
  cases word with
  | nil => simp [isWord]
  | cons c tail =>
    rw [isWord_cons]
    constructor
    · rintro ⟨first, later⟩
      refine ⟨List.cons_ne_nil _ _, ?_, isWordChar_of_isWord (isWord_cons.mpr ⟨first, later⟩)⟩
      rintro d ⟨⟩
      exact first
    · rintro ⟨-, first, all⟩
      exact ⟨first c rfl, fun d hd => all d (List.mem_cons_of_mem c hd)⟩

/-- No word begins with a digit, but a word may go on with one. -/
theorem wordChar_of_isDigit {c : Char} (h : c.isDigit = true) :
    isWordChar c = true ∧ isWordStart c = false := by
  have code : 48 ≤ c.toNat ∧ c.toNat ≤ 57 := by
    simp only [Char.isDigit, Bool.and_eq_true, decide_eq_true_eq] at h
    exact ⟨h.1, h.2⟩
  have no_start : isWordStart c = false := by
    cases first : isWordStart c with
    | false => rfl
    | true =>
      simp only [isWordStart, Bool.or_eq_true, Bool.and_eq_true, decide_eq_true_eq] at first
      rcases first with (⟨low, -⟩ | ⟨low, -⟩) | rfl
      · have : 97 ≤ c.toNat := low
        omega
      · have : 65 ≤ c.toNat := low
        omega
      · exact absurd code (by decide)
  exact ⟨(isDigit_iff no_start).symm.trans h, no_start⟩

/-! ## Tokens and parts -/

section Parts

variable {front run word after : List Char}

/-- A run of word characters goes back to where it begins. -/
theorem runsFrom_append (outside : ∀ c ∈ front.getLast?, isWordChar c = false)
    (chars : ∀ c ∈ run, isWordChar c = true) (rest : List Char) :
    RunsFrom (front ++ (run ++ rest)) front.length (front ++ run).length := by
  rw [List.length_append]
  refine ⟨Nat.le_add_right _ _, (throughout_middle _ _ _ _).mpr chars, fun i last c hc => ?_⟩
  refine outside c ?_
  rwa [List.getLast?_eq_getElem?, ← last, Nat.add_sub_cancel,
    ← List.getElem?_append_left (by omega)]

/-- **A word that digits alone part from a place outside words is a token.** -/
theorem isToken_append (outside : ∀ c ∈ front.getLast?, isWordChar c = false)
    (digits : ∀ c ∈ run, c.isDigit = true) (hw : isWord word = true) (stops : Stops after) :
    IsToken (front ++ (run ++ (word ++ after))) (front ++ run).length
      ((front ++ run).length + word.length) := by
  obtain ⟨filled, first, chars⟩ := isWord_iff.mp hw
  have size := List.length_pos_iff.mpr filled
  have joined : front ++ (run ++ (word ++ after)) = (front ++ run) ++ (word ++ after) :=
    (List.append_assoc ..).symm
  refine ⟨by omega, ?_, ?_, ?_, ?_, front.length, ?_, ?_⟩
  · simp only [List.length_append]
    omega
  · rw [joined, getElem?_length_append]
    intro c hc
    rw [List.head?_append_of_ne_nil _ filled] at hc
    exact first c hc
  · rw [joined]
    exact (throughout_middle _ _ _ _).mpr chars
  · rw [joined, ← List.append_assoc, ← List.length_append, getElem?_length_append]
    exact stops
  · exact runsFrom_append outside (fun c hc => (wordChar_of_isDigit (digits c hc)).1) _
  · rw [List.length_append]
    exact (throughout_middle _ _ _ _).mpr digits

/-- **A token cuts its text** into what is before its run, digits, the word, and what is behind. -/
theorem IsToken.exists_parts {text : List Char} {start stop : Nat} (h : IsToken text start stop) :
    ∃ front run word after, text = front ++ (run ++ (word ++ after)) ∧
      start = (front ++ run).length ∧ stop = start + word.length ∧
      (∀ c ∈ front.getLast?, isWordChar c = false) ∧ (∀ c ∈ run, c.isDigit = true) ∧
      isWord word = true ∧ Stops after := by
  obtain ⟨first, runs, digits⟩ := h.digits
  have filled := h.filled
  have le := runs.le
  obtain ⟨upto, after, rfl, rfl⟩ := Text.exists_parts h.inside
  obtain ⟨before, word, rfl, rfl⟩ := Text.exists_parts (Nat.le_of_lt filled)
  obtain ⟨front, run, rfl, rfl⟩ := Text.exists_parts le
  have joined : ((front ++ run) ++ word) ++ after = front ++ (run ++ (word ++ after)) := by
    simp only [List.append_assoc]
  have stop_eq : ((front ++ run) ++ word).length = (front ++ run).length + word.length :=
    List.length_append
  have split : ((front ++ run) ++ word) ++ after = (front ++ run) ++ (word ++ after) :=
    List.append_assoc ..
  have some_word : word ≠ [] := by
    rintro rfl
    simp at filled
  refine ⟨front, run, word, after, joined, rfl, stop_eq, ?_, ?_, isWord_iff.mpr ⟨some_word, ?_, ?_⟩,
    ?_⟩
  · intro c hc
    obtain ⟨ahead, rfl⟩ := List.getLast?_eq_some_iff.mp hc
    refine runs.outside ahead.length (by simp) c ?_
    simp
  · have all := digits
    rw [joined, List.length_append] at all
    exact (throughout_middle _ _ _ _).mp all
  · intro c hc
    refine h.letter c ?_
    rwa [split, getElem?_length_append, List.head?_append_of_ne_nil _ some_word]
  · have all := h.chars
    rw [split, stop_eq] at all
    exact (throughout_middle _ _ _ _).mp all
  · have last := h.stops
    rwa [getElem?_length_append] at last

end Parts

/-! ## Tokens and words -/

/-- Characters that begin no word are passed over. -/
theorem wordsFrom_skip {run : List Char} (no_start : ∀ c ∈ run, isWordStart c = false) (start : Nat)
    (rest : List Char) : wordsFrom start (run ++ rest) = wordsFrom (start + run.length) rest := by
  induction run generalizing start with
  | nil => rfl
  | cons c run ih =>
    rw [List.cons_append, wordsFrom_cons (no_start c List.mem_cons_self),
      ih fun d hd => no_start d (List.mem_cons_of_mem c hd), List.length_cons,
      show start + 1 + run.length = start + (run.length + 1) by omega]

/-- **The words that are read are the tokens of the text**, nothing more and nothing less. -/
theorem mem_wordsFrom_iff {text word : List Char} {start : Nat} :
    (start, word) ∈ wordsFrom 0 text ↔
      IsToken text start (start + word.length) ∧
        slice text (start : Int) ((start + word.length : Nat) : Int) = word := by
  constructor
  · intro mem
    obtain ⟨before, after, cut, at_start⟩ := exists_cut mem
    obtain ⟨front, run, rfl, chars, outside⟩ := exists_run before
    rw [Nat.zero_add] at at_start
    subst at_start
    have digits : ∀ c ∈ run, c.isDigit = true := fun c hc =>
      (isDigit_iff (cut.not_start outside chars c hc)).trans (chars c hc)
    have token := isToken_append outside digits cut.isWord cut.stops
    have text_eq : text = front ++ (run ++ (word ++ after)) := by
      rw [cut.text_eq, List.append_assoc]
    refine ⟨text_eq ▸ token, ?_⟩
    rw [slice_nat, cut.text_eq, ← List.append_assoc, ← List.length_append, List.take_left,
      List.drop_left]
  · rintro ⟨token, read⟩
    obtain ⟨front, run, inner, after, rfl, rfl, size, outside, digits, hw, stops⟩ :=
      token.exists_parts
    have same : inner = word := by
      rw [size, slice_nat, ← List.append_assoc, ← List.append_assoc, ← List.length_append,
        List.take_left, List.drop_left] at read
      exact read
    subst same
    rw [wordsFrom_append_of_outside outside,
      wordsFrom_skip fun c hc => (wordChar_of_isDigit (digits c hc)).2, wordsFrom_word hw stops,
      Nat.zero_add, List.length_append]
    exact List.mem_append_right _ List.mem_cons_self

/-- Words are read within the text, and behind its first character if no word goes on into it. -/
theorem wordsFrom_bounds {text word : List Char} {start place : Nat}
    (mem : (place, word) ∈ wordsFrom start text) :
    start ≤ place ∧ (Stops text → start < place) := by
  induction text using wordInduction generalizing start with
  | nil => simp at mem
  | word w rest hw stops ih =>
    have goes_on : ¬ Stops (w ++ rest) := by
      obtain ⟨filled, -, chars⟩ := isWord_iff.mp hw
      obtain ⟨c, tail, rfl⟩ := List.exists_cons_of_ne_nil filled
      intro none
      have := chars c List.mem_cons_self
      rw [none c rfl] at this
      cases this
    rw [wordsFrom_word hw stops, List.mem_cons] at mem
    rcases mem with first | later
    · cases first
      exact ⟨Nat.le_refl _, fun h => absurd h goes_on⟩
    · have := (ih later).1
      exact ⟨by omega, fun h => absurd h goes_on⟩
  | cons c rest notFirst ih =>
    rw [wordsFrom_cons notFirst] at mem
    have := (ih mem).1
    exact ⟨by omega, fun _ => by omega⟩

/-- **Words are read from left to right**, and a character of no word is between them. -/
theorem pairwise_wordsFrom (start : Nat) (text : List Char) :
    (wordsFrom start text).Pairwise fun v w => v.1 + v.2.length < w.1 := by
  induction text using wordInduction generalizing start with
  | nil => simp
  | word w rest hw stops ih =>
    rw [wordsFrom_word hw stops]
    exact List.pairwise_cons.mpr ⟨fun v hv => (wordsFrom_bounds hv).2 stops, ih _⟩
  | cons c rest notFirst ih =>
    rw [wordsFrom_cons notFirst]
    exact ih _

end ProbeBench.Text
