import Mathlib.Data.List.Basic
import ProbeBench.Proofs.Text.Lines

/-!
# Line ends, offset by offset

A line ends with a feed, or with a return that no feed follows (`endsAt`). Here the table of line
starts, which a single pass over the text makes, is read off the characters at each offset.

* `lineBreaks_eq`: a line begins behind every line end and nowhere else.
* `pairwise_lineStarts`, `mem_lineStarts`: the line starts ascend; they are the first offset, the
  last, and those behind a line end.
* `LineTable.Holds`, `Holds.begins`: the line of an offset is the one between two neighbours among
  the line starts that has the offset in it; it begins behind the last line end in front of the
  offset (`LineBegins`).
* `LineTable.Holds.line`: what stands there is the line and its end; `LineTable.Holds.lineText?_eq`:
  the line is what the table answers.
-/

namespace ProbeBench.Text

/-- Whether the character at an offset is the last of a line end. -/
def endsAt (text : List Char) (i : Nat) : Bool :=
  text[i]? = some '\n' || (text[i]? = some '\r' && text[i + 1]? ≠ some '\n')

/-! ## Line breaks -/

theorem endsAt_succ (c : Char) (text : List Char) (i : Nat) :
    endsAt (c :: text) (i + 1) = endsAt text i := rfl

theorem endsAt_zero {c : Char} {text : List Char} (single : c = '\r' → text.head? ≠ some '\n') :
    endsAt (c :: text) 0 = endsLine c := by
  rw [List.head?_eq_getElem?] at single
  by_cases feed : c = '\n'
  · simp [endsAt, endsLine, feed]
  · by_cases back : c = '\r'
    · simpa [endsAt, endsLine, back] using single back
    · simp [endsAt, endsLine, feed, back]

/-- A line end is a feed or a return. -/
theorem endsLine_of_endsAt {text : List Char} {i : Nat} (h : endsAt text i = true) :
    ∃ c, text[i]? = some c ∧ endsLine c = true := by
  simp only [endsAt, Bool.or_eq_true, Bool.and_eq_true, decide_eq_true_eq] at h
  rcases h with h | ⟨h, -⟩
  · exact ⟨_, h, rfl⟩
  · exact ⟨_, h, rfl⟩

/-- **A line begins behind every line end**, and nowhere else behind the first offset. -/
theorem lineBreaks_eq (start : Nat) (text : List Char) :
    lineBreaks start text =
      ((List.range text.length).filter (endsAt text)).map (start + · + 1) := by
  induction text using lineInduction generalizing start with
  | nil => rfl
  | pair text ih =>
    have first : endsAt ('\r' :: '\n' :: text) 0 = false := by simp [endsAt]
    have second : endsAt ('\n' :: text) 0 = true := by simp [endsAt]
    rw [lineBreaks_pair, ih, List.length_cons, List.length_cons, List.range_succ_eq_map,
      List.range_succ_eq_map, List.filter_cons, if_neg (by simp [first]), List.filter_map,
      List.filter_cons, if_pos (by simp [endsAt_succ, second]), List.filter_map]
    simp [Function.comp_def, endsAt_succ]
    omega
  | cons c text single ih =>
    rw [lineBreaks_cons single, ih, List.length_cons, List.range_succ_eq_map, List.filter_cons,
      endsAt_zero single, List.filter_map]
    split <;> simp [Function.comp_def, endsAt_succ] <;> omega

/-! ## Line starts -/

theorem mem_lineBreaks {x : Nat} {text : List Char} :
    x ∈ lineBreaks 0 text ↔ ∃ i < text.length, endsAt text i = true ∧ x = i + 1 := by
  rw [lineBreaks_eq]
  constructor
  · intro h
    obtain ⟨i, hi, rfl⟩ := List.mem_map.mp h
    obtain ⟨inside, ends⟩ := List.mem_filter.mp hi
    exact ⟨i, List.mem_range.mp inside, ends, by omega⟩
  · rintro ⟨i, inside, ends, rfl⟩
    exact List.mem_map.mpr
      ⟨i, List.mem_filter.mpr ⟨List.mem_range.mpr inside, ends⟩, by omega⟩

theorem pairwise_lineBreaks (text : List Char) : (lineBreaks 0 text).Pairwise (· < ·) := by
  rw [lineBreaks_eq, List.pairwise_map]
  refine (List.Pairwise.filter _ List.pairwise_lt_range).imp ?_
  intro i j before
  omega

/-- The first offset and the line breaks ascend. -/
theorem pairwise_starts (text : List Char) : (0 :: lineBreaks 0 text).Pairwise (· < ·) :=
  List.pairwise_cons.mpr ⟨fun _ h => (lineBreaks_bounds h).1, pairwise_lineBreaks text⟩

/-- **The line starts ascend.** -/
theorem pairwise_lineStarts (text : List Char) : (lineStarts text).Pairwise (· < ·) := by
  have ascending := pairwise_starts text
  unfold lineStarts
  simp only
  split
  · exact ascending
  · rename_i open_end
    refine List.pairwise_append.mpr ⟨ascending, List.pairwise_singleton _ _, ?_⟩
    intro x hx y hy
    rw [List.mem_singleton.mp hy]
    -- the last of them is not the end of the text, and no other one comes so late
    obtain ⟨front, last, split⟩ := List.eq_nil_or_concat (0 :: lineBreaks 0 text)
      |>.resolve_left (List.cons_ne_nil _ _)
    have within : ∀ z ∈ 0 :: lineBreaks 0 text, z ≤ text.length := by
      intro z hz
      rcases List.mem_cons.mp hz with rfl | hz
      · exact Nat.zero_le _
      · have := lineBreaks_bounds hz
        omega
    rw [split] at open_end hx ascending within
    have last_le := within last (by simp)
    have last_ne : last ≠ text.length := by simpa using open_end
    rcases List.mem_append.mp (List.concat_eq_append ▸ hx) with hx | hx
    · have := (List.pairwise_append.mp (List.concat_eq_append ▸ ascending)).2.2 x hx last (by simp)
      omega
    · rw [List.mem_singleton.mp hx]
      omega

/-- The first line starts at the first offset. -/
theorem exists_lineStarts (text : List Char) : ∃ rest, lineStarts text = 0 :: rest := by
  unfold lineStarts
  simp only
  split
  · exact ⟨_, rfl⟩
  · exact ⟨_, rfl⟩

/-- **A line starts at the first offset and behind every line end**; the end of the text closes the
list. -/
theorem mem_lineStarts {x : Nat} {text : List Char} :
    x ∈ lineStarts text ↔
      x = 0 ∨ x = text.length ∨ ∃ i < text.length, endsAt text i = true ∧ x = i + 1 := by
  rw [← mem_lineBreaks]
  unfold lineStarts
  simp only
  split
  · rename_i closed
    have last := List.mem_of_getLast? closed
    constructor
    · intro h
      exact (List.mem_cons.mp h).imp_right .inr
    · rintro (rfl | rfl | h)
      · exact List.mem_cons_self
      · exact last
      · exact List.mem_cons_of_mem _ h
  · rw [List.mem_append, List.mem_cons, List.mem_singleton]
    tauto

/-! ## The line of an offset -/

/-- The line of an offset begins at `first`: no line ends between them. -/
structure LineBegins (text : List Char) (first offset : Nat) : Prop where
  le : first ≤ offset
  behind : first = 0 ∨ ∃ i, endsAt text i = true ∧ first = i + 1
  unbroken : ∀ i, first ≤ i → i < offset → endsAt text i = false

/-- The line of an offset begins at one offset only. -/
theorem LineBegins.unique {text : List Char} {first other offset : Nat}
    (h : LineBegins text first offset) (h' : LineBegins text other offset) : first = other := by
  have not_before : ∀ {x y}, LineBegins text x offset → LineBegins text y offset → ¬ x < y := by
    intro x y hx hy before
    rcases hy.behind with none | ⟨i, ends, rfl⟩
    · omega
    · have late := hy.le
      have := hx.unbroken i (by omega) (by omega)
      rw [ends] at this
      cases this
  have := not_before h h'
  have := not_before h' h
  omega

namespace LineTable

/-- Line `k` of a text reaches from `first` to `stop` and has an offset in it. -/
structure Holds (text : List Char) (offset k first stop : Nat) : Prop where
  at_first : (lineStarts text)[k]? = some first
  at_stop : (lineStarts text)[k + 1]? = some stop
  first_le : first ≤ offset
  lt_stop : offset < stop

namespace Holds

variable {text : List Char} {offset k first stop : Nat}

/-- No line starts between two neighbours. -/
theorem not_between (h : Holds text offset k first stop) {x : Nat} (mem : x ∈ lineStarts text)
    (behind : first < x) : stop ≤ x := by
  obtain ⟨j, hj, rfl⟩ := List.getElem_of_mem mem
  obtain ⟨hk, at_first⟩ := List.getElem?_eq_some_iff.mp h.at_first
  obtain ⟨hk', at_stop⟩ := List.getElem?_eq_some_iff.mp h.at_stop
  have ascending := List.pairwise_iff_getElem.mp (pairwise_lineStarts text)
  have after : k < j := by
    refine Nat.lt_of_not_le fun before => ?_
    rcases Nat.lt_or_eq_of_le before with before | rfl
    · have := ascending j k hj hk before
      omega
    · omega
  rcases Nat.lt_or_eq_of_le (Nat.succ_le_of_lt after) with later | rfl
  · have := ascending (k + 1) j hk' hj later
    omega
  · exact Nat.le_of_eq at_stop.symm

theorem stop_le (h : Holds text offset k first stop) : stop ≤ text.length := by
  rcases mem_lineStarts.mp (List.mem_of_getElem? h.at_stop) with rfl | rfl | ⟨i, inside, -, rfl⟩
  · exact Nat.zero_le _
  · exact Nat.le_refl _
  · exact inside

/-- Within a line, no line ends. -/
theorem unbroken (h : Holds text offset k first stop) {i : Nat} (behind : first ≤ i)
    (before : i + 1 < stop) : endsAt text i = false := by
  cases ends : endsAt text i with
  | false => rfl
  | true =>
    have inside := Nat.lt_of_lt_of_le before h.stop_le
    have := h.not_between (mem_lineStarts.mpr (.inr (.inr ⟨i, by omega, ends, rfl⟩))) (by omega)
    omega

/-- **The first of the two neighbours is where the line of the offset begins.** -/
theorem begins (h : Holds text offset k first stop) : LineBegins text first offset := by
  have late := h.lt_stop
  refine ⟨h.first_le, ?_, fun i behind before => h.unbroken behind (by omega)⟩
  rcases mem_lineStarts.mp (List.mem_of_getElem? h.at_first) with none | last | ⟨i, -, ends, first⟩
  · exact .inl none
  · have := h.first_le
    have := h.stop_le
    omega
  · exact .inr ⟨i, ends, first⟩

/-- A line ends with the text, or with a line end. -/
theorem closed (h : Holds text offset k first stop) :
    stop = text.length ∨ endsAt text (stop - 1) = true := by
  rcases mem_lineStarts.mp (List.mem_of_getElem? h.at_stop) with none | last | ⟨i, -, ends, rfl⟩
  · have := h.lt_stop
    omega
  · exact .inl last
  · exact .inr ends

end Holds

end LineTable

/-! ## The text of a line -/

/-- The line that begins at an offset, without its end. -/
def lineAt (text : List Char) (first : Nat) : List Char :=
  (text.drop first).takeWhile fun c => !endsLine c

theorem not_endsLine_of_mem_lineAt {text : List Char} {first : Nat} {c : Char}
    (h : c ∈ lineAt text first) : endsLine c = false := by
  simpa using List.all_eq_true.mp List.all_takeWhile c h

theorem endsAt_drop (text : List Char) (first i : Nat) :
    endsAt (text.drop first) i = endsAt text (first + i) := by
  unfold endsAt
  rw [List.getElem?_drop, List.getElem?_drop, Nat.add_assoc]

/-- What stands at the end of a line behind which `rest` follows: a feed, a pair of return and feed,
a return before no feed, or nothing where the text ends. -/
inductive LineEnd : (ending rest : List Char) → Prop
  | feed (rest : List Char) : LineEnd ['\n'] rest
  | pair (rest : List Char) : LineEnd ['\r', '\n'] rest
  | back {rest : List Char} (alone : rest.head? ≠ some '\n') : LineEnd ['\r'] rest
  | none : LineEnd [] []

theorem LineEnd.endsLine {ending rest : List Char} (h : LineEnd ending rest) :
    ∀ c ∈ ending, endsLine c = true := by
  cases h <;> simp [Text.endsLine]

/-- What reaches up to the first line end is a line with its end, be it the pair of both. -/
theorem exists_ending {u rest : List Char} (filled : u ≠ [])
    (unbroken : ∀ i, i + 1 < u.length → endsAt (u ++ rest) i = false)
    (closed : rest = [] ∨ endsAt (u ++ rest) (u.length - 1) = true) :
    ∃ ending, u = (u ++ rest).takeWhile (fun c => !endsLine c) ++ ending ∧
      LineEnd ending rest := by
  induction u with
  | nil => exact absurd rfl filled
  | cons c u ih =>
    by_cases alone : u = []
    · subst alone
      cases ends : endsLine c with
      | true =>
        refine ⟨[c], by simp [ends], ?_⟩
        by_cases feed : c = '\n'
        · rw [feed]
          exact .feed rest
        · have back : c = '\r' := by simpa [endsLine, feed] using ends
          subst back
          refine .back ?_
          rcases closed with rfl | closed
          · exact fun none => by cases none
          · rw [List.head?_eq_getElem?]
            simpa [endsAt] using closed
      | false =>
        rcases closed with rfl | closed
        · exact ⟨[], by simp [ends], .none⟩
        · obtain ⟨d, here, isEnd⟩ := endsLine_of_endsAt closed
          cases here
          rw [ends] at isEnd
          cases isEnd
    · obtain ⟨ending, split, ends_of⟩ := ih alone
        (fun i hi => unbroken (i + 1) (Nat.succ_lt_succ hi))
        (closed.imp_right fun h => by
          have some_left := List.length_pos_iff.mpr alone
          rwa [List.length_cons, show u.length + 1 - 1 = (u.length - 1) + 1 by omega] at h)
      have open_here := unbroken 0 (by simpa using List.length_pos_iff.mpr alone)
      cases ends : endsLine c with
      | false =>
        refine ⟨ending, ?_, ends_of⟩
        rw [List.cons_append, List.takeWhile_cons, ends]
        exact congrArg (c :: ·) split
      | true =>
        -- a line end that does not end here is the return of a pair, and the feed ends it
        obtain ⟨d, v, rfl⟩ := List.exists_cons_of_ne_nil alone
        have pair : c = '\r' ∧ d = '\n' := by
          simp only [endsLine, decide_eq_true_eq] at ends
          simp only [endsAt, List.cons_append, List.getElem?_cons_zero, Option.some.injEq,
            List.getElem?_cons_succ, Bool.or_eq_false_iff, Bool.and_eq_false_iff,
            decide_eq_false_iff_not, ne_eq, not_not] at open_here
          exact ⟨ends.resolve_left open_here.1,
            open_here.2.resolve_left fun h => h (ends.resolve_left open_here.1)⟩
        obtain ⟨rfl, rfl⟩ := pair
        have last : v = [] := by
          by_contra more
          have longer := List.length_pos_iff.mpr more
          have : endsAt ('\r' :: '\n' :: v ++ rest) 1 = false :=
            unbroken 1 (by simp only [List.length_cons]; omega)
          simp [endsAt] at this
        subst last
        exact ⟨['\r', '\n'], rfl, .pair rest⟩

namespace LineTable

variable {text : List Char} {offset k first stop : Nat}

/-- **Between two line starts stands the line, and its end.** -/
theorem Holds.line (h : Holds text offset k first stop) :
    ∃ ending, (text.take stop).drop first = lineAt text first ++ ending ∧
      LineEnd ending (text.drop stop) := by
  have order : first < stop := Nat.lt_of_le_of_lt h.first_le h.lt_stop
  have inside := h.stop_le
  have size : ((text.take stop).drop first).length = stop - first := by
    rw [List.length_drop, List.length_take, Nat.min_eq_left inside]
  have whole : (text.take stop).drop first ++ text.drop stop = text.drop first := by
    rw [List.drop_take, show text.drop stop = (text.drop first).drop (stop - first) by
      rw [List.drop_drop, Nat.add_sub_cancel' (Nat.le_of_lt order)], List.take_append_drop]
  rw [lineAt, ← whole]
  refine exists_ending ?_ ?_ ?_
  · rw [← List.length_pos_iff, size]
    omega
  · intro i hi
    rw [size] at hi
    rw [whole, endsAt_drop]
    exact h.unbroken (Nat.le_add_right _ _) (by omega)
  · rw [whole, endsAt_drop, size, show first + (stop - first - 1) = stop - 1 by omega]
    exact h.closed.imp_left fun last => List.drop_eq_nil_of_le (Nat.le_of_eq last.symm)

/-- The line ends are what a line loses. -/
theorem withoutBreak_append {line ending : List Char} (inner : ∀ c ∈ line, endsLine c = false)
    (outer : ∀ c ∈ ending, endsLine c = true) : withoutBreak (line ++ ending) = line := by
  have ends : ∀ c ∈ ending.reverse, (decide (c = '\n' ∨ c = '\r')) = true :=
    fun c hc => outer c (List.mem_reverse.mp hc)
  have stays : line.reverse.dropWhile (fun c => decide (c = '\n' ∨ c = '\r')) = line.reverse := by
    cases back : line.reverse with
    | nil => rfl
    | cons c rest =>
      have := inner c (List.mem_reverse.mp (back ▸ List.mem_cons_self))
      rw [List.dropWhile_cons_of_neg]
      simpa [endsLine] using this
  rw [withoutBreak, List.reverse_append, List.dropWhile_append_of_pos ends, stays,
    List.reverse_reverse]

/-- **The text of a line is the line without its end.** -/
theorem Holds.lineText?_eq (h : Holds text offset k first stop) :
    (ofText text).lineText? (k : Int) = some (lineAt text first) := by
  obtain ⟨ending, split, outer⟩ := h.line
  have next : (ofText text).startOfLine? ((k : Int) + 1) = some stop := by
    rw [startOfLine?, show (k : Int) + 1 = ((k + 1 : Nat) : Int) by omega, item?_natCast]
    exact h.at_stop
  have here : (ofText text).startOfLine? (k : Int) = some first := by
    rw [startOfLine?, item?_natCast]
    exact h.at_first
  have inside : (k : Int) + 1 < ((ofText text).starts.size : Int) := by
    have := (List.getElem?_eq_some_iff.mp h.at_stop).1
    rw [ofText, List.size_toArray]
    omega
  have read : (ofText text).lineText? (k : Int) =
      some (withoutBreak (slice text (first : Int) (stop : Int))) := by
    rw [lineText?, here, next, if_pos inside]
    rfl
  rw [read, slice_nat, split,
    withoutBreak_append (fun _ hc => not_endsLine_of_mem_lineAt hc) outer.endsLine]

/-- The pieces of a text that is cut at ascending offsets. -/
theorem getElem?_cutAt {text : List Char} {places : List Nat} {offset k next : Nat}
    (ascending : (offset :: places).Pairwise (· < ·)) (here : (offset :: places)[k]? = some first)
    (there : places[k]? = some next) :
    (cutAt offset places (text.drop offset))[k]? = some ((text.take next).drop first) := by
  induction places generalizing offset k with
  | nil => simp at there
  | cons place rest ih =>
    have order : offset < place := List.rel_of_pairwise_cons ascending List.mem_cons_self
    cases k with
    | zero =>
      cases here
      cases there
      rw [cutAt, List.getElem?_cons_zero, List.drop_take]
    | succ k =>
      rw [cutAt, List.getElem?_cons_succ, List.drop_drop,
        Nat.add_sub_cancel' (Nat.le_of_lt order)]
      exact ih ascending.of_cons here there

/-- A line with its end is a segment of the text. -/
theorem Holds.segment (h : Holds text offset k first stop) :
    (ofText text).segments[k]? = some ((text.take stop).drop first) := by
  obtain ⟨rest, starts⟩ := exists_lineStarts text
  have ascending := pairwise_lineStarts text
  have here := h.at_first
  have there := h.at_stop
  rw [starts] at ascending here there
  have cut : (cutAt 0 rest (text.drop 0))[k]? = some ((text.take stop).drop first) :=
    getElem?_cutAt ascending here there
  rw [List.drop_zero] at cut
  rw [segments, ofText]
  simpa [starts] using cut

end LineTable

end ProbeBench.Text
