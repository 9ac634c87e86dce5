import ProbeBench.Proofs.Text.Breaks

/-!
# Places and lines

Every character of a text is on a line, and so is the end of a text where a line begins (`OnLine`).
The table answers the place of such an offset: how many lines end in front of it, and how far it is
from the last of these ends. The two characters of a pair of return and feed are on the line that
they end together.

Cut at its line starts, a text falls into segments. Each holds one line and what ends it: a feed, a
pair of return and feed, or a return alone; the last line may end with the text instead. Behind the
last line start nothing is left. The table answers the line of a segment, which is all of it but
its one line end.

* `lineStarts_eq`: the line starts up to an offset are the first one and those behind the line ends
  in front of the offset; `lastBegin_begins`: the last of them is where its line begins.
* `lineOf_eq`, `place_eq`, `exists_holds`, `startOfLine?_place`: what the table answers about an
  offset.
* `place_on_line`: places come in the order of the offsets, and lead back to them.
* `flatten_drop_segments`, `lineText?_of_next`, `lineText?_of_end`: what is behind a line start, and
  what the table answers about a line.
* `lines_partition`: the lines of a text are all of it.
-/

namespace ProbeBench.Text

/-- An offset on a line: that of a character, or the end of a text where a line begins. -/
def OnLine (text : List Char) (offset : Nat) : Prop :=
  offset < text.length ∨
    offset = text.length ∧ (text = [] ∨ endsAt text (text.length - 1) = true)

instance (text : List Char) (offset : Nat) : Decidable (OnLine text offset) :=
  inferInstanceAs (Decidable (_ ∨ _))

/-- A place comes before another one: on an earlier line, or further left on the same one. -/
def Place.Before (a b : Place) : Prop :=
  a.line < b.line ∨ a.line = b.line ∧ a.column < b.column

/-! ## The line ends in front of an offset -/

/-- The offsets just behind the line ends in front of an offset. -/
def beginsUpTo (text : List Char) (offset : Nat) : List Nat :=
  ((List.range offset).filter (endsAt text)).map (· + 1)

/-- The offset just behind the last line end in front of an offset, or the first one. -/
def lastBegin (text : List Char) (offset : Nat) : Nat := (beginsUpTo text offset).getLastD 0

theorem beginsUpTo_succ (text : List Char) (offset : Nat) :
    beginsUpTo text (offset + 1) =
      beginsUpTo text offset ++ if endsAt text offset then [offset + 1] else [] := by
  unfold beginsUpTo
  rw [List.range_succ, List.filter_append, List.map_append]
  cases ends : endsAt text offset with
  | true => simp [ends]
  | false => simp [ends]

theorem length_beginsUpTo (text : List Char) (offset : Nat) :
    (beginsUpTo text offset).length = (List.range offset).countP (endsAt text) := by
  rw [beginsUpTo, List.length_map, List.countP_eq_length_filter]

theorem le_of_mem_beginsUpTo {text : List Char} {offset x : Nat}
    (h : x ∈ beginsUpTo text offset) : x ≤ offset := by
  obtain ⟨i, hi, rfl⟩ := List.mem_map.mp h
  exact List.mem_range.mp (List.mem_filter.mp hi).1

theorem lastBegin_succ (text : List Char) (offset : Nat) :
    lastBegin text (offset + 1) =
      if endsAt text offset then offset + 1 else lastBegin text offset := by
  unfold lastBegin
  rw [beginsUpTo_succ]
  split
  · rw [List.getLastD_concat]
  · rw [List.append_nil]

/-- **The line of an offset begins behind the last line end in front of it.** -/
theorem lastBegin_begins (text : List Char) (offset : Nat) :
    LineBegins text (lastBegin text offset) offset := by
  induction offset with
  | zero => exact ⟨Nat.le_refl _, .inl rfl, fun i _ before => absurd before (Nat.not_lt_zero i)⟩
  | succ offset ih =>
    rw [lastBegin_succ]
    split
    · rename_i ends
      exact ⟨Nat.le_refl _, .inr ⟨offset, ends, rfl⟩, fun i behind before => by omega⟩
    · rename_i goes_on
      refine ⟨Nat.le_succ_of_le ih.le, ih.behind, fun i behind before => ?_⟩
      rcases Nat.lt_or_eq_of_le (Nat.le_of_lt_succ before) with earlier | rfl
      · exact ih.unbroken i behind earlier
      · exact Bool.eq_false_iff.mpr goes_on

/-- The line breaks of a text are those in front of an offset, and later ones. -/
theorem lineBreaks_upTo {text : List Char} {offset : Nat} (inside : offset ≤ text.length) :
    ∃ back, lineBreaks 0 text = beginsUpTo text offset ++ back ∧ ∀ x ∈ back, offset < x := by
  refine ⟨(((List.range (text.length - offset)).map (offset + ·)).filter (endsAt text)).map
    (· + 1), ?_, ?_⟩
  · rw [lineBreaks_eq, beginsUpTo, ← List.map_append, ← List.filter_append, ← List.range_add,
      Nat.add_sub_cancel' inside]
    exact List.map_congr_left fun i _ => by omega
  · intro x hx
    obtain ⟨i, hi, rfl⟩ := List.mem_map.mp hx
    obtain ⟨j, -, rfl⟩ := List.mem_map.mp (List.mem_filter.mp hi).1
    omega

/-- A text ends on a line boundary where the last line begins at its end. -/
theorem lastBegin_length {text : List Char}
    (closed : text = [] ∨ endsAt text (text.length - 1) = true) :
    lastBegin text text.length = text.length := by
  rcases closed with rfl | ends
  · rfl
  · obtain ⟨c, there, -⟩ := endsLine_of_endsAt ends
    have inside := (List.getElem?_eq_some_iff.mp there).1
    obtain ⟨n, size⟩ : ∃ n, text.length = n + 1 := ⟨text.length - 1, by omega⟩
    rw [size, Nat.add_sub_cancel] at ends
    rw [size, lastBegin_succ, if_pos ends]

/-- **The line starts up to an offset** are the first one and those behind the line ends in front of
the offset; the others come later. -/
theorem lineStarts_eq {text : List Char} {offset : Nat} (on : OnLine text offset) :
    ∃ back, lineStarts text = (0 :: beginsUpTo text offset) ++ back ∧
      ∀ x ∈ back, offset < x := by
  have inside : offset ≤ text.length := on.elim Nat.le_of_lt fun h => Nat.le_of_eq h.1
  obtain ⟨back, breaks, later⟩ := lineBreaks_upTo inside
  unfold lineStarts
  simp only
  split
  · exact ⟨back, by rw [breaks]; rfl, later⟩
  · rename_i open_end
    refine ⟨back ++ [text.length], by rw [breaks]; simp, ?_⟩
    rcases on with before | ⟨rfl, closed⟩
    · intro x hx
      rcases List.mem_append.mp hx with hx | hx
      · exact later x hx
      · rw [List.mem_singleton.mp hx]
        exact before
    · -- then the last line start is the end of the text, and needs no other one behind it
      have none_behind : back = [] := by
        refine List.eq_nil_iff_forall_not_mem.mpr fun x hx => ?_
        have := lineBreaks_bounds (show x ∈ lineBreaks 0 text by rw [breaks]; simp [hx])
        have := later x hx
        omega
      rw [none_behind, List.append_nil] at breaks
      refine absurd ?_ open_end
      rw [breaks, List.getLast?_cons, ← List.getLastD_eq_getLast?]
      exact congrArg some (lastBegin_length closed)

/-! ## What the table answers -/

namespace LineTable

variable {text : List Char} {offset : Nat}

/-- **The line of an offset is the number of line ends in front of it.** -/
theorem lineOf_eq (on : OnLine text offset) :
    (ofText text).lineOf offset = (List.range offset).countP (endsAt text) := by
  obtain ⟨back, starts, later⟩ := lineStarts_eq on
  have front : ∀ x ∈ 0 :: beginsUpTo text offset, x ≤ offset := by
    intro x hx
    rcases List.mem_cons.mp hx with rfl | hx
    · exact Nat.zero_le _
    · exact le_of_mem_beginsUpTo hx
  have found := lowerBound?_append (List.cons_ne_nil _ _) front later
  unfold lineOf ofText
  simp only [starts, Int.toNat_natCast, found, List.length_cons, Nat.add_sub_cancel,
    Option.getD_some, length_beginsUpTo]

/-- The line of an offset begins behind the last line end in front of it. -/
theorem getElem?_lineStarts (on : OnLine text offset) :
    (lineStarts text)[(List.range offset).countP (endsAt text)]? =
      some (lastBegin text offset) := by
  obtain ⟨back, starts, -⟩ := lineStarts_eq on
  have last : (0 :: beginsUpTo text offset)[(beginsUpTo text offset).length]? =
      (0 :: beginsUpTo text offset).getLast? := by
    rw [List.getLast?_eq_getElem?]
    rfl
  rw [starts, ← length_beginsUpTo, List.getElem?_append_left (by simp), last, List.getLast?_cons,
    lastBegin, List.getLastD_eq_getLast?]

/-- **The place of an offset**: its line from 1, and how far it is from where the line begins. -/
theorem place_eq (on : OnLine text offset) :
    (ofText text).place offset =
      ⟨1 + (List.range offset).countP (endsAt text),
        1 + ((offset : Int) - lastBegin text offset)⟩ := by
  have first : (ofText text).starts.getD ((List.range offset).countP (endsAt text)) 0 =
      lastBegin text offset := by
    rw [ofText, Array.getD_eq_getD_getElem?, List.getElem?_toArray, getElem?_lineStarts on,
      Option.getD_some]
  rw [place, lineOf_eq on, first]
  simp only [Place.mk.injEq]
  omega

/-- **The line of a character** reaches from behind the last line end in front of it to the next
line start. -/
theorem exists_holds (inside : offset < text.length) :
    ∃ stop, Holds text offset ((List.range offset).countP (endsAt text)) (lastBegin text offset)
      stop := by
  obtain ⟨back, starts, later⟩ := lineStarts_eq (.inl inside)
  have more : text.length ∈ back := by
    have closing := mem_lineStarts.mpr (.inr (.inl (rfl : text.length = _)))
    rw [starts] at closing
    refine (List.mem_append.mp closing).resolve_left fun front => ?_
    rcases List.mem_cons.mp front with none | front
    · omega
    · have := le_of_mem_beginsUpTo front
      omega
  obtain ⟨stop, rest, rfl⟩ := List.exists_cons_of_ne_nil (List.ne_nil_of_mem more)
  refine ⟨stop, getElem?_lineStarts (.inl inside), ?_, (lastBegin_begins text offset).le,
    later stop List.mem_cons_self⟩
  rw [starts, ← length_beginsUpTo, List.getElem?_append_right (by simp)]
  simp

/-- A place leads back to its offset. -/
theorem startOfLine?_place (on : OnLine text offset) :
    (ofText text).startOfLine? (((ofText text).place offset).line - 1) =
      some (lastBegin text offset) := by
  have line : ((((ofText text).place offset).line : Nat) : Int) - 1 =
      ((List.range offset).countP (endsAt text) : Nat) := by
    rw [place_eq on]
    simp only
    omega
  rw [startOfLine?, line, item?_natCast, ofText]
  exact getElem?_lineStarts on

end LineTable

open LineTable

/-- No fewer lines end in front of a later offset; where no more do, its line begins where that of
the earlier one does. -/
theorem ends_le {text : List Char} {offset later : Nat} (order : offset ≤ later) :
    (List.range offset).countP (endsAt text) < (List.range later).countP (endsAt text) ∨
      (List.range offset).countP (endsAt text) = (List.range later).countP (endsAt text) ∧
        lastBegin text offset = lastBegin text later := by
  induction order with
  | refl => exact .inr ⟨rfl, rfl⟩
  | @step later order ih =>
    rw [List.range_succ, List.countP_append, List.countP_singleton, lastBegin_succ]
    cases ends : endsAt text later with
    | true =>
      left
      simp only [if_true]
      omega
    | false => simpa using ih

/-- Places come in the order of the offsets. -/
theorem place_before {text : List Char} {offset later : Nat} (on : OnLine text offset)
    (on' : OnLine text later) (order : offset < later) :
    ((ofText text).place offset).Before ((ofText text).place later) := by
  rw [place_eq on, place_eq on']
  rcases @ends_le text offset later (Nat.le_of_lt order) with lines | ⟨lines, begins⟩
  · exact .inl (by simp only; omega)
  · exact .inr ⟨by simp only; omega, by simp only; omega⟩

theorem Place.Before.ne {a b : Place} (h : a.Before b) : a ≠ b := by
  rintro rfl
  rcases h with h | ⟨-, h⟩
  · exact Nat.lt_irrefl _ h
  · exact Int.lt_irrefl _ h

/-- **The place of an offset on a line**: its line is 1 and the number of line ends up to the
offset, its column is 1 and the distance from the offset `first` behind the last of them, or from
the beginning of the text. The return of a pair is on the line of the feed that it ends with. Later
offsets have later places, no two offsets have the same one, and line and column lead back. -/
theorem place_on_line {text : List Char} {offset : Nat} (on : OnLine text offset) :
    ∃ first, LineBegins text first offset ∧
      (ofText text).place offset =
        ⟨1 + (List.range offset).countP (endsAt text), 1 + ((offset : Int) - first)⟩ ∧
      (text[offset]? = some '\r' → text[offset + 1]? = some '\n' →
        ((ofText text).place (offset + 1 : Nat)).line = ((ofText text).place offset).line) ∧
      (∀ later, OnLine text later → offset < later →
        ((ofText text).place offset).Before ((ofText text).place later)) ∧
      (∀ other, OnLine text other → (ofText text).place other = (ofText text).place offset →
        other = offset) ∧
      ∃ start, (ofText text).startOfLine? (((ofText text).place offset).line - 1) = some start ∧
        start + ((ofText text).place offset).column - 1 = offset := by
  refine ⟨lastBegin text offset, lastBegin_begins text offset, place_eq on, ?_,
    fun later on' order => place_before on on' order, ?_, lastBegin text offset,
    startOfLine?_place on, ?_⟩
  · intro back feed
    have inside : offset + 1 < text.length := (List.getElem?_eq_some_iff.mp feed).1
    have goes_on : endsAt text offset = false := by simp [endsAt, back, feed]
    rw [place_eq (.inl inside), place_eq on]
    simp only [List.range_succ, List.countP_append, List.countP_singleton, goes_on]
    rfl
  · intro other on' same
    rcases Nat.lt_trichotomy other offset with before | rfl | behind
    · exact absurd same (place_before on' on before).ne
    · rfl
    · exact absurd same.symm (place_before on on' behind).ne
  · rw [place_eq on]
    simp only
    omega

/-- A return and the feed behind it are on one line; the end of the text, behind a return that
stands alone, is two lines below. -/
theorem place_on_line_pair :
    let text := ['a', '\r', '\n', '\r']
    OnLine text 1 ∧ OnLine text 4 ∧ text[1]? = some '\r' ∧ text[1 + 1]? = some '\n' ∧ 1 < 4 ∧
      ((ofText text).place (1 + 1 : Nat)).line = ((ofText text).place (1 : Nat)).line ∧
      ((ofText text).place (1 : Nat)).Before ((ofText text).place (4 : Nat)) ∧
      ∃ first, LineBegins text first 4 ∧
        (ofText text).place (4 : Nat) = ⟨3, 1 + (((4 : Nat) : Int) - first)⟩ := by
  intro text
  have back : OnLine text 1 := by decide
  have last : OnLine text 4 := by decide
  obtain ⟨-, -, -, pair, order, -⟩ := place_on_line back
  obtain ⟨first, begins, place, -⟩ := place_on_line last
  exact ⟨back, last, rfl, rfl, by decide, pair rfl rfl, order 4 last (by decide), first, begins,
    place⟩

/-! ## Segments -/

theorem getLast?_lineStarts (text : List Char) :
    (lineStarts text).getLast? = some text.length := by
  unfold lineStarts
  simp only
  split
  · assumption
  · rw [List.getLast?_concat]

/-- The end of the text is the last of the line starts only. -/
theorem getElem?_lineStarts_last {text : List Char} {k : Nat}
    (last : k + 1 = (lineStarts text).length) : (lineStarts text)[k]? = some text.length := by
  rw [← getLast?_lineStarts, List.getLast?_eq_getElem?, ← last, Nat.add_sub_cancel]

namespace LineTable

theorem length_cutAt (offset : Nat) (places : List Nat) (text : List Char) :
    (cutAt offset places text).length = places.length + 1 := by
  induction places generalizing offset text with
  | nil => rfl
  | cons next rest ih => rw [cutAt, List.length_cons, ih, List.length_cons]

/-- The pieces from one of the offsets on are what is behind it. -/
theorem flatten_drop_cutAt {text : List Char} {places : List Nat} {offset k first : Nat}
    (ascending : (offset :: places).Pairwise (· < ·)) (here : (offset :: places)[k]? = some first) :
    ((cutAt offset places (text.drop offset)).drop k).flatten = text.drop first := by
  induction places generalizing offset k with
  | nil =>
    cases k with
    | zero => cases here; exact flatten_cutAt ..
    | succ k => simp at here
  | cons place rest ih =>
    have order : offset < place := List.rel_of_pairwise_cons ascending List.mem_cons_self
    cases k with
    | zero => cases here; exact flatten_cutAt ..
    | succ k =>
      rw [cutAt, List.drop_succ_cons, List.drop_drop, Nat.add_sub_cancel' (Nat.le_of_lt order)]
      exact ih ascending.of_cons here

variable {text : List Char}

theorem length_segments (text : List Char) :
    (ofText text).segments.length = (lineStarts text).length := by
  obtain ⟨rest, starts⟩ := exists_lineStarts text
  simp [segments, ofText, length_cutAt, starts]

/-- **The segments from a line start on are what is behind it.** -/
theorem flatten_drop_segments {k first : Nat} (here : (lineStarts text)[k]? = some first) :
    ((ofText text).segments.drop k).flatten = text.drop first := by
  obtain ⟨rest, starts⟩ := exists_lineStarts text
  have ascending := pairwise_lineStarts text
  rw [starts] at ascending here
  have behind := @flatten_drop_cutAt text rest 0 k first ascending here
  rw [List.drop_zero] at behind
  rw [segments, ofText]
  simpa [starts] using behind

/-- A segment begins at its line start. -/
theorem length_flatten_take {k first : Nat} (here : (lineStarts text)[k]? = some first) :
    ((ofText text).segments.take k).flatten.length = first := by
  have inside : first ≤ text.length := by
    rcases mem_lineStarts.mp (List.mem_of_getElem? here) with rfl | rfl | ⟨i, inside, -, rfl⟩
    · exact Nat.zero_le _
    · exact Nat.le_refl _
    · exact inside
  have whole : ((ofText text).segments.take k).flatten ++ text.drop first = text := by
    rw [← flatten_drop_segments here, ← List.flatten_append, List.take_append_drop]
    exact flatten_segments _
  have sizes := congrArg List.length whole
  rw [List.length_append, List.length_drop] at sizes
  omega

/-- The line that begins where a segment does has the first offset of the segment in it. -/
theorem holds_first {k first stop : Nat} (here : (lineStarts text)[k]? = some first)
    (there : (lineStarts text)[k + 1]? = some stop) : Holds text first k first stop := by
  refine ⟨here, there, Nat.le_refl _, ?_⟩
  obtain ⟨hk, rfl⟩ := List.getElem?_eq_some_iff.mp here
  obtain ⟨hk', rfl⟩ := List.getElem?_eq_some_iff.mp there
  exact List.pairwise_iff_getElem.mp (pairwise_lineStarts text) k (k + 1) hk hk'
    (Nat.lt_succ_self k)

/-! ## The text of a line -/

/-- A line before the last line start ends where the next one begins, from whichever end it is
counted. -/
theorem lineText?_of_next {i : Int} {k first stop : Nat}
    (at_k : offset? (lineStarts text).length i = some k)
    (here : (lineStarts text)[k]? = some first) (there : (lineStarts text)[k + 1]? = some stop) :
    (ofText text).lineText? i = some (withoutBreak ((text.take stop).drop first)) := by
  have inside : k + 1 < (lineStarts text).length := (List.getElem?_eq_some_iff.mp there).1
  have next : offset? (lineStarts text).length (i + 1) = some (k + 1) := by
    unfold offset? at at_k ⊢
    split at at_k
    · split at at_k
      · cases at_k
        rw [if_pos (by omega), if_pos (by omega)]
        congr 1
        omega
      · cases at_k
    · split at at_k
      · cases at_k
        rw [if_neg (by omega), if_pos (by omega)]
        congr 1
        omega
      · cases at_k
  have order : i + 1 < ((lineStarts text).length : Int) := by
    unfold offset? at next
    split at next
    · split at next
      · omega
      · cases next
    · omega
  have begin : (ofText text).startOfLine? i = some first := by
    rw [startOfLine?, ofText, item?, at_k, Option.bind_some, here]
  have stop' : (ofText text).startOfLine? (i + 1) = some stop := by
    rw [startOfLine?, ofText, item?, next, Option.bind_some, there]
  rw [lineText?, begin, stop', if_pos (by simpa [ofText] using order), ← slice_nat]
  rfl

/-- Behind the last line start there is no text. -/
theorem lineText?_of_end {i : Int} {k : Nat} (at_k : offset? (lineStarts text).length i = some k)
    (last : k + 1 = (lineStarts text).length) : (ofText text).lineText? i = some [] := by
  have begin : (ofText text).startOfLine? i = some text.length := by
    rw [startOfLine?, ofText, item?, at_k, Option.bind_some, getElem?_lineStarts_last last]
  have nothing (stop : Int) : slice text (text.length : Int) stop = [] := by
    rw [slice, clamp_natCast, Nat.min_self]
    exact List.drop_eq_nil_of_le (List.length_take_le' ..)
  rw [lineText?, begin]
  exact congrArg some (congrArg withoutBreak (nothing _))

/-- Only the empty segment begins at the end of the text. -/
theorem segment_of_end {k : Nat} (last : k + 1 = (lineStarts text).length) :
    (ofText text).segments[k]? = some [] := by
  have filled : k < (ofText text).segments.length := by
    rw [length_segments]
    omega
  have behind := flatten_drop_segments (getElem?_lineStarts_last last)
  rw [List.drop_eq_getElem_cons filled, List.flatten_cons, List.drop_length] at behind
  rw [List.getElem?_eq_getElem filled, (List.append_eq_nil_iff.mp behind).1]

end LineTable

/-- **The lines of a text are all of it.** The line starts ascend from the first offset to the end
of the text. The segments between them, and the empty one behind the last, are the text one after
the other. Each holds a line, in which no character ends one, and its one line end, or none where
the text ends with the line; only the last one holds nothing. The line is what the table answers for
every index of a line start, be it counted from the end. -/
theorem lines_partition (text : List Char) :
    (lineStarts text).Pairwise (· < ·) ∧ (lineStarts text).head? = some 0 ∧
      (lineStarts text).getLast? = some text.length ∧
      (ofText text).segments.length = (lineStarts text).length ∧
      (ofText text).segments.flatten = text ∧
      ∀ i k, offset? (lineStarts text).length i = some k →
        ∃ line ending, (ofText text).lineText? i = some line ∧
          (ofText text).segments[k]? = some (line ++ ending) ∧
          (lineStarts text)[k]? = some ((ofText text).segments.take k).flatten.length ∧
          (∀ c ∈ line, endsLine c = false) ∧
          LineEnd ending ((ofText text).segments.drop (k + 1)).flatten ∧
          (line ++ ending = [] ↔ k + 1 = (lineStarts text).length) := by
  obtain ⟨rest, starts⟩ := exists_lineStarts text
  refine ⟨pairwise_lineStarts text, by rw [starts]; rfl, getLast?_lineStarts text,
    length_segments text, flatten_segments _, fun i k at_k => ?_⟩
  have inside := offset?_lt at_k
  rcases Nat.lt_or_eq_of_le (Nat.succ_le_of_lt inside) with more | last
  · obtain ⟨first, here⟩ : ∃ first, (lineStarts text)[k]? = some first :=
      ⟨_, List.getElem?_eq_getElem inside⟩
    obtain ⟨stop, there⟩ : ∃ stop, (lineStarts text)[k + 1]? = some stop :=
      ⟨_, List.getElem?_eq_getElem more⟩
    have holds := holds_first here there
    obtain ⟨ending, split, ends⟩ := holds.line
    have inner : ∀ c ∈ lineAt text first, endsLine c = false :=
      fun c hc => not_endsLine_of_mem_lineAt hc
    refine ⟨lineAt text first, ending, ?_, ?_, ?_, inner, ?_, ?_⟩
    · rw [lineText?_of_next at_k here there, split, withoutBreak_append inner ends.endsLine]
    · rw [holds.segment, split]
    · rw [length_flatten_take here, here]
    · rwa [flatten_drop_segments there]
    · have size := congrArg List.length split
      have order := holds.lt_stop
      have within := holds.stop_le
      rw [List.length_drop, List.length_take] at size
      rw [← List.length_eq_zero_iff]
      omega
  · have at_end := getElem?_lineStarts_last last
    have none_left : (ofText text).segments.drop (k + 1) = [] :=
      List.drop_eq_nil_of_le (by rw [length_segments]; omega)
    refine ⟨[], [], lineText?_of_end at_k last, segment_of_end last, ?_,
      fun _ hc => absurd hc List.not_mem_nil, ?_, iff_of_true rfl last⟩
    · rw [length_flatten_take at_end, at_end]
    · rw [none_left]
      exact .none

/-- Two returns and a feed are two line ends: the second line from the end of the text is empty, and
loses the pair that ends it. -/
theorem lines_partition_returns :
    let text := ['a', '\r', '\r', '\n', 'b']
    offset? (lineStarts text).length (-3) = some 1 ∧
      ∃ line ending, (ofText text).lineText? (-3) = some line ∧
        (ofText text).segments[1]? = some (line ++ ending) ∧
        (∀ c ∈ line, endsLine c = false) ∧
        LineEnd ending ((ofText text).segments.drop (1 + 1)).flatten := by
  intro text
  have at_one : offset? (lineStarts text).length (-3) = some 1 := by decide
  obtain ⟨-, -, -, -, -, each⟩ := lines_partition text
  obtain ⟨line, ending, shown, segment, -, inner, ends, -⟩ := each (-3) 1 at_one
  exact ⟨at_one, line, ending, shown, segment, inner, ends⟩

end ProbeBench.Text
