import Mathlib.Data.List.TakeWhile
import ProbeBench.Probe.Candidate
import ProbeBench.Proofs.Text.Places
import ProbeBench.Proofs.Text.Tokens

/-!
# Which words are probed

The candidates of a text are found by a pass over its words that asks a table for the line of each.
What they are can be said of every offset by itself (`Describes`): they are the tokens of the text
whose line is no comment, each with the number of its line and its place in it.

A pass may ask for every line only once and remember the answer (`scan?`). What it remembers is
always right (`Known.Right`), so it finds the same candidates.

* `isCommentLine_iff`: a comment line begins, after blanks, with one of three marks.
* `exists_line`: where the line of a word begins and what number it has.
* `scan?_eq`: the pass that remembers lines finds the candidates.
* `candidates_exactly`: the result.
-/

namespace ProbeBench.Probe

open Text

/-! ## Comment lines -/

/-- What comment lines begin with, after blanks. -/
def commentMarks : List (List Char) := [['*'], ['/', '*'], ['/', '/']]

theorem isCommentLine_iff (line : List Char) :
    isCommentLine line = true ↔ ∃ mark ∈ commentMarks, mark <+: line.dropWhile isBlank := by
  simp only [commentMarks, List.mem_cons, List.not_mem_nil, or_false, exists_eq_or_imp,
    exists_eq_left]
  unfold isCommentLine
  split
  · rename_i shown
    simp [shown]
  · rename_i shown
    simp [shown]
  · rename_i shown
    simp [shown]
  · rename_i no_star no_open no_slashes
    constructor
    · intro h
      cases h
    · rintro (⟨rest, h⟩ | ⟨rest, h⟩ | ⟨rest, h⟩)
      · exact absurd h.symm (no_star rest)
      · exact absurd h.symm (no_open rest)
      · exact absurd h.symm (no_slashes rest)

/-- What is no blank begins a text with blanks behind it only if it begins the text. -/
theorem prefix_append_blank {mark front ending : List Char} (solid : ∀ c ∈ mark, isBlank c = false)
    (blank : ∀ c ∈ ending, isBlank c = true) : mark <+: front ++ ending ↔ mark <+: front := by
  refine ⟨fun h => ?_, fun h => h.trans (List.prefix_append ..)⟩
  rcases List.prefix_or_prefix_of_prefix h (List.prefix_append front ending) with h' | ⟨rest, rfl⟩
  · exact h'
  · cases rest with
    | nil => simp
    | cons c rest =>
      have behind : c :: rest <+: ending := (List.prefix_append_right_inj front).mp h
      have := blank c (behind.subset List.mem_cons_self)
      rw [solid c (by simp)] at this
      cases this

/-- **Blanks at the end of a line do not matter**, such as those of its line end. -/
theorem isCommentLine_append {line ending : List Char} (blank : ∀ c ∈ ending, isBlank c = true) :
    isCommentLine (line ++ ending) = isCommentLine line := by
  rw [Bool.eq_iff_iff, isCommentLine_iff, isCommentLine_iff]
  refine exists_congr fun mark => and_congr_right fun mem => ?_
  have solid : ∀ c ∈ mark, isBlank c = false := by
    have all : (commentMarks.all fun m => m.all (!isBlank ·)) = true := by decide
    have each := List.all_eq_true.mp (List.all_eq_true.mp all mark mem)
    exact fun c hc => by simpa using each c hc
  rw [List.dropWhile_append]
  split
  · rename_i none_left
    rw [List.isEmpty_iff.mp none_left, List.dropWhile_eq_nil_iff.mpr blank]
  · exact prefix_append_blank solid blank

theorem isBlank_of_endsLine {c : Char} (h : endsLine c = true) : isBlank c = true := by
  simp only [endsLine, decide_eq_true_eq] at h
  rcases h with rfl | rfl <;> decide

/-! ## The line of a word -/

section Words

variable {text word : List Char} {start : Nat}

/-- **A word is on the line that the line ends in front of it count**, and its column is its
distance from where this line begins. -/
theorem exists_line (mem : (start, word) ∈ wordsFrom 0 text) :
    ∃ first stop,
      LineTable.Holds text start ((List.range start).countP (endsAt text)) first stop ∧
      (LineTable.ofText text).place start =
        ⟨(List.range start).countP (endsAt text) + 1, (start : Int) - first + 1⟩ := by
  have token := (mem_wordsFrom_iff.mp mem).1
  have inside : start < text.length := Nat.lt_of_lt_of_le token.filled token.inside
  obtain ⟨stop, holds⟩ := LineTable.exists_holds inside
  refine ⟨lastBegin text start, stop, holds, ?_⟩
  rw [LineTable.place_eq (.inl inside), Nat.add_comm 1, Int.add_comm 1]

/-- The list of comment lines tells whether the line is a comment. -/
theorem commentLines_getD {offset k first stop : Nat}
    (h : LineTable.Holds text offset k first stop) :
    (commentLines (.ofText text)).getD k false = isCommentLine (lineAt text first) := by
  obtain ⟨ending, split, ends⟩ := h.line
  rw [commentLines, Array.getD_eq_getD_getElem?, List.getElem?_toArray, List.getElem?_map,
    h.segment, Option.map_some, Option.getD_some, split,
    isCommentLine_append fun c hc => isBlank_of_endsLine (ends.endsLine c hc)]

end Words

/-! ## A pass that remembers lines -/

/-- Lines, counted from 0, of which it is known whether they are comments. -/
abbrev Known := List (Nat × Bool)

/-- Whether a line is a comment: what is known, or else what the line says, which is known then. -/
def Known.ask (t : LineTable) (known : Known) (line : Nat) : Option (Bool × Known) :=
  match known.lookup line with
  | some answer => some (answer, known)
  | none => (t.lineText? line).map fun text =>
    (isCommentLine text, (line, isCommentLine text) :: known)

/-- The candidates among words, each line looked at once. -/
def scanFrom? (t : LineTable) : Known → List (Nat × List Char) → Option (List Candidate)
  | _, [] => some []
  | known, (start, word) :: rest => do
    let place := t.place start
    let (comment, known) ← known.ask t (place.line - 1)
    let found ← scanFrom? t known rest
    return if comment then found
      else ⟨start, start + word.length, place.line, place.column⟩ :: found

/-- The words of a text outside its comment lines, found without knowing any line beforehand. -/
def scan? (t : LineTable) : Option (List Candidate) := scanFrom? t [] (wordsFrom 0 t.text)

/-- What is known of the lines is what they say. -/
def Known.Right (t : LineTable) (known : Known) : Prop :=
  ∀ line answer, (line, answer) ∈ known → (t.lineText? line).map isCommentLine = some answer

/-- **Asking gives what the line says**, and leaves what is known right. -/
theorem Known.Right.ask {t : LineTable} {known : Known} (right : known.Right t) {line : Nat}
    {answer : Bool} (shown : (t.lineText? line).map isCommentLine = some answer) :
    ∃ known', known.ask t line = some (answer, known') ∧ known'.Right t := by
  unfold Known.ask
  cases found : known.lookup line with
  | some remembered =>
    have mem : (line, remembered) ∈ known := by
      obtain ⟨before, after, rfl, -⟩ := List.lookup_eq_some_iff.mp found
      simp
    have same := (right line remembered mem).symm.trans shown
    cases same
    exact ⟨known, rfl, right⟩
  | none =>
    obtain ⟨text, read, rfl⟩ := Option.map_eq_some_iff.mp shown
    refine ⟨(line, isCommentLine text) :: known, by rw [read]; rfl, ?_⟩
    intro l a mem
    rcases List.mem_cons.mp mem with new | old
    · cases new
      exact shown
    · exact right l a old

/-- **From anything right that is known, the pass finds the candidates among the words.** -/
theorem scanFrom?_eq {text : List Char} {known : Known} (right : known.Right (.ofText text))
    {ws : List (Nat × List Char)} (sub : ∀ w ∈ ws, w ∈ wordsFrom 0 text) :
    scanFrom? (.ofText text) known ws =
      some (ws.filterMap fun w =>
        candidate? (.ofText text) (commentLines (.ofText text)) w.1 w.2) := by
  induction ws generalizing known with
  | nil => rfl
  | cons w ws ih =>
    obtain ⟨start, word⟩ := w
    obtain ⟨first, stop, holds, place⟩ := exists_line (sub _ List.mem_cons_self)
    have shown : ((LineTable.ofText text).lineText?
          (((LineTable.ofText text).place start).line - 1 : Nat)).map isCommentLine =
        some (isCommentLine (lineAt text first)) := by
      rw [place, Nat.add_sub_cancel, holds.lineText?_eq, Option.map_some]
    obtain ⟨known', asked, right'⟩ := right.ask shown
    have rest := ih right' fun w hw => sub w (List.mem_cons_of_mem _ hw)
    have known_line := commentLines_getD holds
    rw [scanFrom?, asked, List.filterMap_cons, candidate?]
    simp only [Option.bind_eq_bind, Option.bind_some, rest, place, Nat.add_sub_cancel, known_line]
    cases isCommentLine (lineAt text first) with
    | true => rfl
    | false => rfl

/-- **What a pass remembers of the lines never changes what it finds.** -/
theorem scan?_eq (text : List Char) :
    scan? (.ofText text) = some (candidates (.ofText text)) :=
  scanFrom?_eq (fun _ _ mem => absurd mem List.not_mem_nil) fun _ mem => mem

/-! ## What is found -/

/-- What a candidate of a text is: a word between two offsets, on a line that begins at `first` and
is no comment, with the number of the line and the place in it, both from 1. -/
structure Describes (text : List Char) (c : Candidate) (start stop first : Nat) : Prop where
  token : IsToken text start stop
  begins : LineBegins text first start
  code : ∀ mark ∈ commentMarks, ¬ mark <+: (lineAt text first).dropWhile isBlank
  start_eq : c.start = start
  stop_eq : c.stop = stop
  line_eq : c.line = 1 + (List.range start).countP (endsAt text)
  column_eq : c.column = 1 + ((start : Int) - first)

/-- A word gives the candidate that is described by its offsets, if any. -/
theorem candidate?_eq_some_iff {text word : List Char} {start : Nat} {c : Candidate}
    (mem : (start, word) ∈ wordsFrom 0 text) :
    candidate? (.ofText text) (commentLines (.ofText text)) start word = some c ↔
      ∃ first, Describes text c start (start + word.length) first := by
  obtain ⟨first, stop, holds, place⟩ := exists_line mem
  have token := (mem_wordsFrom_iff.mp mem).1
  have mark_of : isCommentLine (lineAt text first) = false ↔
      ∀ mark ∈ commentMarks, ¬ mark <+: (lineAt text first).dropWhile isBlank := by
    rw [← Bool.not_eq_true, isCommentLine_iff]
    simp only [not_exists, not_and]
  unfold candidate?
  simp only [place, Nat.add_sub_cancel, commentLines_getD holds]
  constructor
  · intro found
    split at found
    · cases found
    · rename_i code
      cases found
      exact ⟨first, token, holds.begins, mark_of.mp (by simpa using code), rfl, by simp,
        by simp only; omega, by simp only; omega⟩
  · rintro ⟨other, h⟩
    obtain rfl := holds.begins.unique h.begins
    rw [if_neg (by simpa using mark_of.mpr h.code)]
    obtain ⟨cs, ce, cl, cc⟩ := c
    have hs := h.start_eq
    have he := h.stop_eq
    have hl := h.line_eq
    have hc := h.column_eq
    simp only at hs he hl hc
    subst hs he hl hc
    congr 2
    all_goals omega

/-- **The candidates are exactly the words outside comment lines**: in order, none twice and none
touching the next; each one described offset by offset, and everything so described is one. A pass
that remembers the lines it has looked at finds the same. -/
theorem candidates_exactly (text : List Char) :
    (candidates (.ofText text)).Pairwise (fun a b => a.start < a.stop ∧ a.stop < b.start) ∧
      (∀ c, c ∈ candidates (.ofText text) ↔ ∃ start stop first, Describes text c start stop first) ∧
      scan? (.ofText text) = some (candidates (.ofText text)) := by
  refine ⟨?_, fun c => ⟨fun mem => ?_, ?_⟩, scan?_eq text⟩
  · refine List.pairwise_filterMap.mpr ?_
    refine (List.Pairwise.and_mem.mp (pairwise_wordsFrom 0 text)).imp ?_
    rintro ⟨_, v⟩ ⟨_, w⟩ ⟨hv, hw, apart⟩ a ha b hb
    obtain ⟨_, first⟩ := (candidate?_eq_some_iff hv).mp ha
    obtain ⟨_, second⟩ := (candidate?_eq_some_iff hw).mp hb
    have filled := first.token.filled
    have := first.start_eq
    have := first.stop_eq
    have := second.start_eq
    simp only at apart
    omega
  · obtain ⟨⟨start, word⟩, found, hc⟩ := List.mem_filterMap.mp mem
    obtain ⟨first, h⟩ := (candidate?_eq_some_iff found).mp hc
    exact ⟨start, start + word.length, first, h⟩
  · rintro ⟨start, stop, first, h⟩
    have filled := h.token.filled
    have inside := h.token.inside
    have size : (slice text (start : Int) (stop : Int)).length = stop - start := by
      rw [slice_nat, List.length_drop, List.length_take, Nat.min_eq_left inside]
    have stop_eq : start + (slice text (start : Int) (stop : Int)).length = stop := by omega
    have found : (start, slice text (start : Int) (stop : Int)) ∈ wordsFrom 0 text :=
      mem_wordsFrom_iff.mpr (by rw [stop_eq]; exact ⟨h.token, rfl⟩)
    refine List.mem_filterMap.mpr ⟨_, found, (candidate?_eq_some_iff found).mpr ⟨first, ?_⟩⟩
    rwa [stop_eq]

end ProbeBench.Probe
