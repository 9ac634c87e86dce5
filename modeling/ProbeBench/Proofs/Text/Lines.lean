import ProbeBench.Text.Lines
import ProbeBench.Proofs.Text.Halving

/-!
# Where lines begin

A text that is cut in two has the line breaks of both parts, as long as the cut does not separate a
return from the feed behind it (`Seam`). So the line of an offset, and what stands before the offset
in it, depend on the text in front of the offset alone.

* `lineBreaks_append`, `lineOf_append`, `startOfLine?_append`: the lines of a text cut in two.
* `lastLine_cons`, `lastLine_pair`, `lastLine_of_no_break`: the last line of a text, read from the
  front; `lastLine_append`: read from the back.
-/

namespace ProbeBench.Text

/-! ## Line breaks -/

/-- Whether a line ends with `c`, alone or before a feed. -/
def endsLine (c : Char) : Bool := c = '\n' ∨ c = '\r'

/-- The border between two texts does not run through a line end. -/
def Seam (a b : List Char) : Prop := a.getLast? = some '\r' → b.head? ≠ some '\n'

theorem seam_of_head {a b : List Char} (h : b.head? ≠ some '\n') : Seam a b := fun _ => h

theorem Seam.tail {c : Char} {a b : List Char} (h : Seam (c :: a) b) : Seam a b := by
  intro last
  refine h ?_
  cases a with
  | nil => cases last
  | cons d a => exact last

/-- A character that stands alone still does with more text behind. -/
theorem Seam.single {c : Char} {a b : List Char} (seam : Seam (c :: a) b)
    (single : c = '\r' → a.head? ≠ some '\n') : c = '\r' → (a ++ b).head? ≠ some '\n' := by
  intro hc
  cases a with
  | nil => exact seam (by rw [hc]; rfl)
  | cons d a => exact single hc

theorem lineBreaks_cons {c : Char} {text : List Char}
    (single : c = '\r' → text.head? ≠ some '\n') (start : Nat) :
    lineBreaks start (c :: text) =
      if endsLine c then (start + 1) :: lineBreaks (start + 1) text
      else lineBreaks (start + 1) text := by
  rw [lineBreaks.eq_3]
  · simp [endsLine]
  · rintro rest rfl rfl
    exact single rfl rfl

theorem lineBreaks_pair (start : Nat) (text : List Char) :
    lineBreaks start ('\r' :: '\n' :: text) = (start + 2) :: lineBreaks (start + 2) text := by
  rw [lineBreaks]

/-- The characters of a text, where a pair of return and feed counts as one: every step of a
reading of line ends takes a pair, or one character that is no return before a feed. -/
theorem lineInduction {motive : List Char → Prop} (nil : motive [])
    (pair : ∀ text, motive text → motive ('\r' :: '\n' :: text))
    (cons : ∀ c text, (c = '\r' → text.head? ≠ some '\n') → motive text → motive (c :: text))
    (text : List Char) : motive text := by
  have both : motive text ∧ ∀ c, motive (c :: text) := by
    induction text with
    | nil => exact ⟨nil, fun c => cons c [] (by simp) nil⟩
    | cons d rest ih =>
      refine ⟨ih.2 d, fun c => ?_⟩
      by_cases h : c = '\r' ∧ d = '\n'
      · obtain ⟨rfl, rfl⟩ := h
        exact pair rest ih.1
      · refine cons c _ (fun hc hd => h ⟨hc, ?_⟩) (ih.2 d)
        simpa using hd
  exact both.1

/-- A text that is cut at a seam has the line breaks of both parts. -/
theorem lineBreaks_append {a b : List Char} (seam : Seam a b) (start : Nat) :
    lineBreaks start (a ++ b) = lineBreaks start a ++ lineBreaks (start + a.length) b := by
  induction a using lineInduction generalizing start with
  | nil => rfl
  | pair a ih =>
    have rest : Seam a b := seam.tail.tail
    rw [List.cons_append, List.cons_append, lineBreaks_pair, lineBreaks_pair, ih rest,
      List.cons_append, List.length_cons, List.length_cons,
      show start + 2 + a.length = start + (a.length + 1 + 1) by omega]
  | cons c a single ih =>
    rw [List.cons_append, lineBreaks_cons (seam.single single), lineBreaks_cons single,
      ih seam.tail, List.length_cons, show start + 1 + a.length = start + (a.length + 1) by omega]
    split
    · rfl
    · rfl

/-- Lines begin behind the first offset, and not behind the text. -/
theorem lineBreaks_bounds {start x : Nat} {text : List Char} (h : x ∈ lineBreaks start text) :
    start < x ∧ x ≤ start + text.length := by
  induction text using lineInduction generalizing start with
  | nil => cases h
  | pair text ih =>
    rw [lineBreaks_pair, List.mem_cons] at h
    simp only [List.length_cons]
    rcases h with rfl | h
    · omega
    · have := ih h
      omega
  | cons c text single ih =>
    have later : x = start + 1 ∨ x ∈ lineBreaks (start + 1) text := by
      rw [lineBreaks_cons single] at h
      split at h
      · exact List.mem_cons.mp h
      · exact .inr h
    simp only [List.length_cons]
    rcases later with rfl | h
    · omega
    · have := ih h
      omega

/-! ## The last line -/

/-- The offset at which the last line of a text begins. -/
def lastStart (start : Nat) (text : List Char) : Nat := (lineBreaks start text).getLastD start

/-- What stands behind the last line break of a text. -/
def lastLine (text : List Char) : List Char := text.drop (lastStart 0 text)

theorem lastStart_pair (start : Nat) (text : List Char) :
    lastStart start ('\r' :: '\n' :: text) = lastStart (start + 2) text := by
  rw [lastStart, lineBreaks_pair, List.getLastD_cons, lastStart]

/-- Only a text without line breaks keeps what stands in front of it on its last line. -/
theorem lastStart_cons {c : Char} {text : List Char}
    (single : c = '\r' → text.head? ≠ some '\n') (start : Nat) :
    lastStart start (c :: text) =
      if endsLine c = false ∧ lineBreaks (start + 1) text = [] then start
      else lastStart (start + 1) text := by
  unfold lastStart
  rw [lineBreaks_cons single]
  cases endsLine c with
  | true => exact List.getLastD_cons
  | false =>
    cases lineBreaks (start + 1) text with
    | nil => rfl
    | cons x rest =>
      simp only [Bool.false_eq_true, if_false, reduceCtorEq, and_false, List.getLastD_cons]

theorem lineBreaks_add (start shift : Nat) (text : List Char) :
    lineBreaks (start + shift) text = (lineBreaks start text).map (· + shift) := by
  induction text using lineInduction generalizing start with
  | nil => rfl
  | pair text ih =>
    rw [lineBreaks_pair, lineBreaks_pair, List.map_cons, ← ih,
      show start + shift + 2 = start + 2 + shift by omega]
  | cons c text single ih =>
    rw [lineBreaks_cons single, lineBreaks_cons single,
      show start + shift + 1 = start + 1 + shift by omega, ih]
    split
    · rfl
    · rfl

theorem lastStart_add (start shift : Nat) (text : List Char) :
    lastStart (start + shift) text = lastStart start text + shift := by
  unfold lastStart
  rw [lineBreaks_add]
  cases h : (lineBreaks start text).getLast? with
  | none => simp [h, List.getLastD_eq_getLast?]
  | some x => simp [h, List.getLastD_eq_getLast?]

theorem length_lineBreaks (start : Nat) (text : List Char) :
    (lineBreaks start text).length = (lineBreaks 0 text).length := by
  have moved := lineBreaks_add 0 start text
  rw [Nat.zero_add] at moved
  rw [moved, List.length_map]

theorem lastLine_of_no_break {text : List Char} (h : lineBreaks 0 text = []) :
    lastLine text = text := by
  unfold lastLine lastStart
  rw [h]
  rfl

theorem lastLine_pair (text : List Char) : lastLine ('\r' :: '\n' :: text) = lastLine text := by
  unfold lastLine
  rw [lastStart_pair, lastStart_add]
  rfl

/-- Behind a line break, what stands in front of it does not count. -/
theorem lastLine_cons {c : Char} {text : List Char} (single : c = '\r' → text.head? ≠ some '\n')
    (broken : endsLine c = true ∨ lineBreaks 0 text ≠ []) :
    lastLine (c :: text) = lastLine text := by
  have still : lineBreaks (0 + 1) text = [] ↔ lineBreaks 0 text = [] := by
    rw [← List.length_eq_zero_iff, length_lineBreaks, List.length_eq_zero_iff]
  have later : lastStart 0 (c :: text) = lastStart 0 text + 1 := by
    rw [lastStart_cons single, lastStart_add, if_neg]
    rintro ⟨unbroken, none_left⟩
    rcases broken with h | h
    · rw [unbroken] at h
      cases h
    · exact h (still.mp none_left)
  rw [lastLine, later, List.drop_succ_cons, lastLine]

namespace LineTable

/-- The line starts of a text up to a seam, and those behind it. -/
theorem lineStarts_append {a b : List Char} (seam : Seam a b) (filled : b ≠ []) :
    ∃ back, lineStarts (a ++ b) = (0 :: lineBreaks 0 a) ++ back ∧ ∀ x ∈ back, a.length < x := by
  have behind : ∀ x ∈ lineBreaks (0 + a.length) b, a.length < x := by
    intro x hx
    have := lineBreaks_bounds hx
    omega
  have longer : a.length < (a ++ b).length := by
    have := List.length_pos_iff.mpr filled
    rw [List.length_append]
    omega
  unfold lineStarts
  simp only [lineBreaks_append seam]
  split
  · exact ⟨_, rfl, behind⟩
  · refine ⟨lineBreaks (0 + a.length) b ++ [(a ++ b).length], ?_, ?_⟩
    · rw [← List.append_assoc]
      rfl
    · intro x hx
      rcases List.mem_append.mp hx with hx | hx
      · exact behind x hx
      · rw [List.mem_singleton.mp hx]
        exact longer

variable {a b : List Char}

/-- The line of an offset is the number of line breaks in front of it. -/
theorem lineOf_append (seam : Seam a b) (filled : b ≠ []) :
    (ofText (a ++ b)).lineOf (a.length : Int) = (lineBreaks 0 a).length := by
  obtain ⟨back, starts, behind⟩ := lineStarts_append seam filled
  have front : ∀ x ∈ 0 :: lineBreaks 0 a, x ≤ a.length := by
    intro x hx
    rcases List.mem_cons.mp hx with rfl | hx
    · exact Nat.zero_le _
    · have := lineBreaks_bounds hx
      omega
  have found := lowerBound?_append (List.cons_ne_nil _ _) front behind
  unfold lineOf ofText
  simp only [starts, Int.toNat_natCast, found, List.length_cons, Nat.add_sub_cancel,
    Option.getD_some]

/-- The line of an offset begins behind the last line break in front of it. -/
theorem startOfLine?_append (seam : Seam a b) (filled : b ≠ []) :
    (ofText (a ++ b)).startOfLine? ((lineBreaks 0 a).length : Int) = some (lastStart 0 a) := by
  obtain ⟨back, starts, -⟩ := lineStarts_append seam filled
  unfold startOfLine? ofText
  simp only [item?_natCast, starts, lastStart]
  rw [List.getElem?_append_left (by simp)]
  generalize lineBreaks 0 a = breaks
  have last : (0 :: breaks)[breaks.length]? = (0 :: breaks).getLast? := by
    rw [List.getLast?_eq_getElem?]
    rfl
  rw [last, List.getLast?_cons, List.getLastD_eq_getLast?]

end LineTable

end ProbeBench.Text
