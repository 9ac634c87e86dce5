import Mathlib.Data.List.Induction
import ProbeBench.Proofs.Text.Lines
import ProbeBench.Text.Word

/-!
# Words in a text

A text is read as characters that begin no word and words that end where no word can go on
(`wordInduction`). So the words of a text that is cut behind a word are those of both parts, and a
word can be taken out of a text without changing the words around it.

* `wordsFrom_append`, `words_append`, `wordsFrom_append_of_outside`: the words of a text cut where
  no word goes on.
* `exists_cut`: every word of a text cuts it in two.
* `Cut.words_eq`, `Cut.words_without`: the words around a word, with it and without it.
* `Cut.not_start`: no word could have begun earlier.
-/

namespace ProbeBench.Text

/-- No word goes on into this text. -/
def Stops (text : List Char) : Prop := ∀ c ∈ text.head?, isWordChar c = false

theorem stops_nil : Stops [] := by
  intro c hc
  cases hc

theorem stops_cons {c : Char} {rest : List Char} (h : isWordChar c = false) :
    Stops (c :: rest) := by
  intro d hd
  cases hd
  exact h

theorem Stops.append {a b : List Char} (ha : Stops a) (hb : Stops b) : Stops (a ++ b) := by
  cases a with
  | nil => exact hb
  | cons c a => exact stops_cons (ha c rfl)

theorem Stops.left {a b : List Char} (h : Stops (a ++ b)) : Stops a := by
  cases a with
  | nil => exact stops_nil
  | cons c a => exact stops_cons (h c rfl)

/-! ## Word characters -/

/-- A digit is the only word character with which no word begins. -/
theorem isDigit_iff {c : Char} (not_first : isWordStart c = false) :
    c.isDigit = isWordChar c := by
  rw [isWordChar, not_first, Bool.false_or]
  rfl

/-- Every text is a text that ends outside a word, and the word characters behind it. -/
theorem exists_run (text : List Char) :
    ∃ front run, text = front ++ run ∧ (∀ c ∈ run, isWordChar c = true) ∧
      ∀ c ∈ front.getLast?, isWordChar c = false := by
  induction text using List.reverseRecOn with
  | nil => exact ⟨[], [], rfl, by simp, by simp⟩
  | append_singleton text c ih =>
    cases hc : isWordChar c with
    | false => exact ⟨text ++ [c], [], (List.append_nil _).symm, by simp, by simp [hc]⟩
    | true =>
      obtain ⟨front, run, rfl, chars, outside⟩ := ih
      refine ⟨front, run ++ [c], List.append_assoc .., fun d hd => ?_, outside⟩
      rcases List.mem_append.mp hd with before | last
      · exact chars d before
      · rw [List.mem_singleton.mp last]
        exact hc

/-! ## Reading words -/

@[simp] theorem wordsFrom_nil (start : Nat) : wordsFrom start [] = [] := by
  rw [wordsFrom]

@[simp] theorem words_nil : words [] = [] := by
  rw [words, wordsFrom_nil, List.map_nil]

theorem isWord_cons {c : Char} {tail : List Char} :
    isWord (c :: tail) = true ↔ isWordStart c = true ∧ ∀ d ∈ tail, isWordChar d = true := by
  simp [isWord]

theorem wordsFrom_cons {c : Char} (h : isWordStart c = false) (start : Nat) (rest : List Char) :
    wordsFrom start (c :: rest) = wordsFrom (start + 1) rest := by
  rw [wordsFrom]
  simp [h]

/-- A word consists of word characters. -/
theorem isWordChar_of_isWord {word : List Char} (hw : isWord word = true) :
    ∀ c ∈ word, isWordChar c = true := by
  cases word with
  | nil => exact fun _ h => absurd h List.not_mem_nil
  | cons c tail =>
    obtain ⟨first, later⟩ := isWord_cons.mp hw
    intro d hd
    rcases List.mem_cons.mp hd with rfl | hd
    · rw [isWordChar, first, Bool.true_or]
    · exact later d hd

/-- A word that does not go on is read as a whole. -/
theorem wordsFrom_word {word rest : List Char} (hw : isWord word = true) (stops : Stops rest)
    (start : Nat) :
    wordsFrom start (word ++ rest) = (start, word) :: wordsFrom (start + word.length) rest := by
  cases word with
  | nil => cases hw
  | cons c tail =>
    obtain ⟨first, later⟩ := isWord_cons.mp hw
    have nothing : rest.takeWhile isWordChar = [] := by
      cases rest with
      | nil => rfl
      | cons d rest => simp [stops d rfl]
    have tailRead : (tail ++ rest).takeWhile isWordChar = tail := by
      rw [List.takeWhile_append_of_pos later, nothing, List.append_nil]
    rw [List.cons_append, wordsFrom]
    simp only [first, if_true, tailRead, List.drop_left, List.length_cons]
    rw [show start + 1 + tail.length = start + (tail.length + 1) by omega]

/-- Every text is characters that a word goes on with, and a text into which no word goes on. -/
theorem exists_stops (text : List Char) :
    ∃ rest, text = text.takeWhile isWordChar ++ rest ∧ Stops rest := by
  refine ⟨text.dropWhile isWordChar, List.takeWhile_append_dropWhile.symm, ?_⟩
  intro c hc
  have := List.head?_dropWhile_not isWordChar text
  rw [Option.mem_def.mp hc] at this
  exact this

/-- A text is read by characters with which no word begins, and by words that do not go on. -/
theorem wordInduction {motive : List Char → Prop} (nil : motive [])
    (word : ∀ w rest, isWord w = true → Stops rest → motive rest → motive (w ++ rest))
    (cons : ∀ c rest, isWordStart c = false → motive rest → motive (c :: rest))
    (text : List Char) : motive text := by
  fun_induction wordsFrom 0 text with
  | case1 => exact nil
  | case2 _ c rest first tail ih =>
    have isWhole : isWord (c :: tail) = true :=
      isWord_cons.mpr ⟨first, fun d hd => List.all_eq_true.mp List.all_takeWhile d hd⟩
    obtain ⟨after, split, stops⟩ := exists_stops rest
    have dropped : rest.drop tail.length = after := by
      rw [split]
      exact List.drop_left
    have : motive ((c :: tail) ++ after) := word _ _ isWhole stops (dropped ▸ ih)
    rw [List.cons_append, ← split] at this
    exact this
  | case3 _ c rest notFirst ih => exact cons c rest (by simpa using notFirst) ih

/-! ## Words of parts -/

/-- Where no word goes on, a text may be cut. -/
theorem wordsFrom_append {b : List Char} (stops : Stops b) (a : List Char) (start : Nat) :
    wordsFrom start (a ++ b) = wordsFrom start a ++ wordsFrom (start + a.length) b := by
  induction a using wordInduction generalizing start with
  | nil => simp
  | word w rest hw restStops ih =>
    rw [List.append_assoc, wordsFrom_word hw (restStops.append stops), wordsFrom_word hw restStops,
      ih, List.length_append, List.cons_append, Nat.add_assoc]
  | cons c rest notFirst ih =>
    rw [List.cons_append, wordsFrom_cons notFirst, wordsFrom_cons notFirst, ih, List.length_cons,
      show start + 1 + rest.length = start + (rest.length + 1) by omega]

/-- Behind a character of no word, a text may be cut. -/
theorem wordsFrom_append_of_outside {a : List Char}
    (outside : ∀ c ∈ a.getLast?, isWordChar c = false) (b : List Char) (start : Nat) :
    wordsFrom start (a ++ b) = wordsFrom start a ++ wordsFrom (start + a.length) b := by
  rcases List.eq_nil_or_concat a with rfl | ⟨front, c, rfl⟩
  · simp
  · have no_char : isWordChar c = false := outside c (by simp)
    have no_start : isWordStart c = false := by
      simp only [isWordChar, Bool.or_eq_false_iff] at no_char
      exact no_char.1
    have stops (rest : List Char) : Stops (c :: rest) := stops_cons no_char
    rw [List.concat_eq_append, List.append_assoc, List.singleton_append, wordsFrom_append (stops b),
      wordsFrom_append (stops []), wordsFrom_cons no_start, wordsFrom_cons no_start, wordsFrom_nil,
      List.append_nil, List.length_append, List.length_singleton, Nat.add_assoc]

/-- A text consists of what stands before a word, the word, and what stands behind it, and the word
is read on its own. -/
structure Cut (text before word after : List Char) : Prop where
  text_eq : text = before ++ (word ++ after)
  isWord : isWord word = true
  stops : Stops after
  alone : ∀ start, wordsFrom start (before ++ word) =
    wordsFrom start before ++ [(start + before.length, word)]

theorem Cut.word {word rest : List Char} (hw : Text.isWord word = true) (stops : Stops rest) :
    Cut (word ++ rest) [] word rest := by
  refine ⟨rfl, hw, stops, fun start => ?_⟩
  have read := wordsFrom_word hw stops_nil start
  rw [List.append_nil, wordsFrom_nil] at read
  rw [List.nil_append, read, wordsFrom_nil]
  rfl

/-- A word in front of the cut. -/
theorem Cut.behind_word {w text before word after : List Char} (cut : Cut text before word after)
    (hw : Text.isWord w = true) (stops : Stops text) :
    Cut (w ++ text) (w ++ before) word after := by
  have text_eq : text = (before ++ word) ++ after := by rw [cut.text_eq, List.append_assoc]
  have front : Stops (before ++ word) := (text_eq ▸ stops).left
  refine ⟨?_, cut.isWord, cut.stops, fun start => ?_⟩
  · rw [cut.text_eq, List.append_assoc]
  · rw [List.append_assoc, wordsFrom_word hw front, wordsFrom_word hw front.left, cut.alone,
      List.length_append, List.cons_append, Nat.add_assoc]

/-- A character of no word in front of the cut. -/
theorem Cut.behind_char {c : Char} {text before word after : List Char}
    (cut : Cut text before word after) (notFirst : isWordStart c = false) :
    Cut (c :: text) (c :: before) word after := by
  refine ⟨?_, cut.isWord, cut.stops, fun start => ?_⟩
  · rw [cut.text_eq, List.cons_append]
  · rw [List.cons_append, wordsFrom_cons notFirst, wordsFrom_cons notFirst, cut.alone,
      List.length_cons, show start + 1 + before.length = start + (before.length + 1) by omega]

/-- **Every word cuts its text.** -/
theorem exists_cut {start place : Nat} {word text : List Char}
    (mem : (place, word) ∈ wordsFrom start text) :
    ∃ before after, Cut text before word after ∧ place = start + before.length := by
  induction text using wordInduction generalizing start with
  | nil => simp at mem
  | word w rest hw stops ih =>
    rw [wordsFrom_word hw stops, List.mem_cons] at mem
    rcases mem with first | later
    · cases first
      exact ⟨[], rest, .word hw stops, rfl⟩
    · obtain ⟨before, after, cut, at_place⟩ := ih later
      refine ⟨w ++ before, after, cut.behind_word hw stops, ?_⟩
      rw [at_place, List.length_append, Nat.add_assoc]
  | cons c rest notFirst ih =>
    rw [wordsFrom_cons notFirst] at mem
    obtain ⟨before, after, cut, at_place⟩ := ih mem
    refine ⟨c :: before, after, cut.behind_char notFirst, ?_⟩
    rw [at_place, List.length_cons]
    omega

/-- What can be read of a text in which a word may begin early: one word, at the first place where
one may. -/
theorem wordsFrom_run {run word : List Char} (chars : ∀ c ∈ run, isWordChar c = true)
    (hw : Text.isWord word = true) (start : Nat) :
    ∃ k w, wordsFrom start (run ++ word) = [(start + k, w)] ∧
      (k = run.length → ∀ c ∈ run, isWordStart c = false) := by
  induction run generalizing start with
  | nil =>
    refine ⟨0, word, ?_, fun _ _ h => absurd h List.not_mem_nil⟩
    have read := wordsFrom_word hw stops_nil start
    rwa [List.append_nil, wordsFrom_nil] at read
  | cons c run ih =>
    have later : ∀ d ∈ run, isWordChar d = true := fun d hd => chars d (List.mem_cons_of_mem c hd)
    cases first : isWordStart c with
    | true =>
      have whole : Text.isWord (c :: (run ++ word)) = true := by
        refine isWord_cons.mpr ⟨first, fun d hd => ?_⟩
        exact (List.mem_append.mp hd).elim (later d) (isWordChar_of_isWord hw d)
      have read := wordsFrom_word whole stops_nil start
      rw [List.append_nil, wordsFrom_nil] at read
      exact ⟨0, _, read, fun h => absurd h (Nat.succ_ne_zero _).symm⟩
    | false =>
      obtain ⟨k, w, read, none_earlier⟩ := ih later (start + 1)
      refine ⟨k + 1, w, ?_, fun h d hd => ?_⟩
      · rw [List.cons_append, wordsFrom_cons first, read, Nat.add_assoc, Nat.add_comm 1 k]
      · rcases List.mem_cons.mp hd with rfl | hd
        · exact first
        · exact none_earlier (Nat.succ.inj h) d hd

/-- **No word could have begun in the word characters in front of a word.** -/
theorem Cut.not_start {text front run word after : List Char}
    (cut : Cut text (front ++ run) word after)
    (outside : ∀ c ∈ front.getLast?, isWordChar c = false)
    (chars : ∀ c ∈ run, isWordChar c = true) : ∀ c ∈ run, isWordStart c = false := by
  obtain ⟨k, w, read, none_earlier⟩ := wordsFrom_run chars cut.isWord (0 + front.length)
  refine none_earlier ?_
  -- both readings end with the word at the cut
  have last := congrArg List.getLast? (cut.alone 0)
  rw [List.append_assoc, wordsFrom_append_of_outside outside, read, List.getLast?_append,
    List.getLast?_append, List.getLast?_singleton, List.getLast?_singleton, Option.some_or,
    Option.some_or] at last
  have place : 0 + front.length + k = 0 + (front ++ run).length :=
    congrArg Prod.fst (Option.some.inj last)
  rw [List.length_append] at place
  omega

/-- A word is no line end, so the text in front of it may be cut off. -/
theorem Cut.seam {text before word after : List Char} (cut : Cut text before word after)
    (rest : List Char) : Seam before (word ++ rest) := by
  refine seam_of_head ?_
  have isWord := cut.isWord
  cases word with
  | nil => cases isWord
  | cons d tail =>
    intro hd
    cases hd
    exact absurd (isWord_cons.mp isWord).1 (by decide)

/-- **Another text behind the word leaves the word as it is**, if no word goes on into it. -/
theorem Cut.mem_wordsFrom {text before word after rest : List Char}
    (cut : Cut text before word after) (stops : Stops rest) :
    (before.length, word) ∈ wordsFrom 0 (before ++ (word ++ rest)) := by
  rw [← List.append_assoc, wordsFrom_append stops, cut.alone]
  simp

end ProbeBench.Text
