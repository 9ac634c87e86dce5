import ProbeBench.Proofs.Toml.Scalar
import ProbeBench.Toml.Document

/-!
# How a document is read

The scanners of values call each other, each with less fuel, so what is said of them is said of all
at once, by induction on the fuel; `Sound` is what the induction carries. Statements are read one
after the other, and what one leaves the next one reads.

* `sound`: values, lists, pairs and tables that are written in place are read as `Reads` says.
* `holdsLong_of_parse`: a text that is no document says where, unless it holds too long a run of
  digits.
* `parse_ones`: such a run, where a number is read, does stop without a place.
-/

namespace ProbeBench.Toml

open ProbeBench.Config

variable {α : Type} {fuel : Nat} {cs rest : List Char}

/-! ### Values -/

/-- All scanners of values read with this fuel as `Reads` says. -/
structure Sound (fuel : Nat) : Prop where
  value : ∀ cs, Reads cs Prod.snd (valueWith fuel cs)
  items : ∀ cs, Reads cs Prod.snd (itemsWith fuel cs)
  pair : ∀ cs, Reads cs Prod.snd (pairWith fuel cs)
  entries : ∀ t marks cs, Reads cs Prod.snd (entriesWith fuel t marks cs)

theorem sound_zero : Sound 0 :=
  ⟨fun _ => .at, fun _ => .at, fun _ => .at, fun _ _ _ => .at⟩

theorem reads_asText {r : Except Stop (List Char × List Char)} (reads : Reads cs Prod.snd r) :
    Reads cs Prod.snd (asText r) := reads.map fun _ => rfl

theorem reads_blame {r : Except Reason α} (rest : List Char) :
    Reads rest (fun _ => rest) (blame rest r) := by
  cases r with
  | error reason => exact .at
  | ok a => exact .ok List.suffix_rfl

namespace Sound

theorem value_succ (below : Sound fuel) (cs : List Char) :
    Reads cs Prod.snd (valueWith (fuel + 1) cs) := by
  have three (a b c : Char) (rest : List Char) : rest <:+ a :: b :: c :: rest :=
    List.suffix_append [a, b, c] rest
  unfold valueWith
  split
  · exact reads_asText ((reads_multilineString _ _ _).of_suffix (three _ _ _ _))
  · exact reads_asText ((reads_quoted _ _ _).of_suffix (List.suffix_cons _ _))
  · exact reads_asText ((reads_multilineString _ _ _).of_suffix (three _ _ _ _))
  · exact reads_asText ((reads_raw _).of_suffix (List.suffix_cons _ _))
  · refine ((reads_skipFiller false _).of_suffix (List.suffix_cons _ _)).bind ?_
    intro rest
    split
    · exact .ok (List.suffix_cons _ _)
    · exact (below.items _).bind fun _ => .ok List.suffix_rfl
  · rename_i rest
    have behind : skipBlanks rest <:+ '\x7b' :: rest :=
      (skipBlanks_suffix rest).trans (List.suffix_cons _ _)
    split
    · rename_i more skipped
      exact .ok ((List.suffix_cons _ more).trans (skipped ▸ behind))
    · exact ((below.entries _ _ _).of_suffix behind).bind fun _ => .ok List.suffix_rfl
  · exact reads_scalar cs

theorem items_succ (below : Sound fuel) (cs : List Char) :
    Reads cs Prod.snd (itemsWith (fuel + 1) cs) := by
  unfold itemsWith
  refine (below.value cs).bind ?_
  rintro ⟨v, rest⟩
  refine (reads_skipFiller false rest).bind ?_
  intro rest
  split
  · exact .ok (List.suffix_cons _ _)
  · refine ((reads_skipFiller false _).of_suffix (List.suffix_cons _ _)).bind ?_
    intro rest
    split
    · exact .ok (List.suffix_cons _ _)
    · exact (below.items _).bind fun _ => .ok List.suffix_rfl
  · exact .at

theorem pair_succ (below : Sound fuel) (cs : List Char) :
    Reads cs Prod.snd (pairWith (fuel + 1) cs) := by
  unfold pairWith
  refine (reads_key fuel cs).bind ?_
  intro r
  split
  · rename_i rest
    have behind : skipBlanks rest <:+ '=' :: rest :=
      (skipBlanks_suffix rest).trans (List.suffix_cons _ _)
    exact ((below.value _).of_suffix behind).bind fun _ => .ok List.suffix_rfl
  · exact .at

theorem entries_succ (below : Sound fuel) (t : Table) (marks : Marks) (cs : List Char) :
    Reads cs Prod.snd (entriesWith (fuel + 1) t marks cs) := by
  unfold entriesWith
  refine (below.pair cs).bind ?_
  rintro ⟨⟨k, v⟩, rest⟩
  dsimp only
  split
  · exact .at
  · refine (reads_blame rest).bind ?_
    intro t
    have skipped := skipBlanks_suffix rest
    split
    · rename_i more found
      exact .ok ((List.suffix_cons _ more).trans (found ▸ skipped))
    · rename_i more found
      exact (below.entries _ _ _).of_suffix
        ((skipBlanks_suffix more).trans ((List.suffix_cons _ more).trans (found ▸ skipped)))
    · exact .at

end Sound

/-- **Values are read as `Reads` says.** -/
theorem sound (fuel : Nat) : Sound fuel := by
  induction fuel with
  | zero => exact sound_zero
  | succ fuel below =>
    exact ⟨below.value_succ, below.items_succ, below.pair_succ, below.entries_succ⟩

/-! ### Statements -/

theorem reads_pairStatement (size : Nat) (s : State) (cs : List Char) :
    Reads cs Prod.snd (pairStatement size s cs) := by
  unfold pairStatement
  refine ((sound _).pair cs).bind ?_
  rintro ⟨⟨k, v⟩, rest⟩
  dsimp only
  split
  · exact .at
  · split
    · exact .at
    · exact (reads_blame rest).bind fun _ => .ok List.suffix_rfl

theorem reads_tableStatement (size : Nat) (s : State) (cs : List Char) :
    Reads cs Prod.snd (tableStatement size s cs) := by
  unfold tableStatement
  refine ((reads_key size _).of_suffix (skipBlanks_suffix cs)).bind ?_
  rintro ⟨k, rest⟩
  dsimp only
  split
  · exact .at
  · refine (reads_blame rest).bind ?_
    intro t
    split
    · exact .ok (List.suffix_cons _ _)
    · exact .at

theorem reads_tableListStatement (size : Nat) (s : State) (cs : List Char) :
    Reads cs Prod.snd (tableListStatement size s cs) := by
  unfold tableListStatement
  refine ((reads_key size _).of_suffix (skipBlanks_suffix cs)).bind ?_
  rintro ⟨k, rest⟩
  dsimp only
  split
  · exact .at
  · refine (reads_blame rest).bind ?_
    intro t
    split
    · rename_i more
      exact .ok (List.suffix_append [']', ']'] more)
    · exact .at

theorem reads_statement (size : Nat) (s : State) (cs : List Char) :
    Reads cs Prod.snd (statement size s cs) := by
  unfold statement
  split
  · rename_i rest
    exact (reads_tableListStatement size _ rest).of_suffix (List.suffix_append ['[', '['] rest)
  · exact (reads_tableStatement size _ _).of_suffix (List.suffix_cons _ _)
  · exact .ok List.suffix_rfl
  · split
    · exact reads_pairStatement size s _
    · exact .at
  · exact .ok List.suffix_rfl

/-- Statements leave nothing: what they stop at is in the text before them. -/
theorem reads_statements (fuel : Nat) (s : State) (cs : List Char) :
    Reads cs (fun _ => []) (statements fuel s cs) := by
  induction fuel generalizing s cs with
  | zero => exact .ok List.nil_suffix
  | succ fuel ih =>
    unfold statements
    have skipped := skipBlanks_suffix cs
    split
    · exact .ok List.nil_suffix
    · rename_i rest found
      exact (ih s rest).of_suffix ((List.suffix_cons _ rest).trans (found ▸ skipped))
    · refine ((reads_statement fuel s _).of_suffix skipped).bind ?_
      rintro ⟨s, rest⟩
      refine ((reads_skipComment _).of_suffix (skipBlanks_suffix rest)).bind ?_
      intro rest
      split
      · exact .ok List.nil_suffix
      · exact (ih s _).of_suffix (List.suffix_cons _ _)
      · exact .at

/-- **A text that is no document says where**, unless it holds too long a run of digits. -/
theorem holdsLong_of_parse {text : List Char} {count : Nat}
    (stopped : parse text = .error (.digits count)) : HoldsLong text := by
  have reads := reads_statements (text.length + 1) {} text
  unfold parse at stopped
  generalize statements (text.length + 1) {} text = r at reads stopped
  cases reads with
  | ok => cases stopped
  | «at» =>
    have located := Except.error.inj stopped
    unfold Fault.locate at located
    dsimp only at located
    split at located <;> cases located
  | digits long => exact long

/-! ### A number of too many digits -/

theorem moreDigits_replicate (n : Nat) :
    moreDigits Decimal.isDigit (List.replicate n '1') = (List.replicate n '1', []) := by
  induction n with
  | zero => rfl
  | succ n ih =>
    rw [List.replicate_succ, moreDigits]
    · simp [ih, Decimal.isDigit]
    · simp

/-- A number of this many ones and five more. -/
def ones (n : Nat) : List Char := List.replicate (n + 5) '1'

theorem whole?_ones (n : Nat) : whole? (ones n) = some (ones n, []) := by
  have more := moreDigits_replicate (n + 4)
  simp only [ones, List.replicate_succ] at more ⊢
  simp [whole?, digits?, more, Decimal.isDigit]

theorem scalar_ones {n : Nat} (long : Decimal.maxDigits < n + 5) :
    scalar (ones n) = .error (.digits (n + 5)) := by
  have number : decimal? (ones n) = some (.error (.digits (n + 5))) := by
    have sign : Decimal.takeSign (ones n) = (false, ones n) := rfl
    have length : (ones n).length = n + 5 := by simp [ones]
    simp [decimal?, sign, whole?_ones, places, exponent?, length, long]
  have truth : truth? (ones n) = none := rfl
  have date : dateOrMoment? (ones n) = none := rfl
  have clock : clock? (ones n) = none := rfl
  have based : based? (ones n) = none := rfl
  simp [scalar, truth, date, clock, based, number]

theorem valueWith_ones {n : Nat} (long : Decimal.maxDigits < n + 5) (fuel : Nat) :
    valueWith (fuel + 1) (ones n) = .error (.digits (n + 5)) := scalar_ones long

theorem pairWith_ones {n : Nat} (long : Decimal.maxDigits < n + 5) (fuel : Nat) :
    pairWith (fuel + 2) ('n' :: '=' :: ones n) = .error (.digits (n + 5)) := by
  have name : key (fuel + 1) ('n' :: '=' :: ones n) = .ok (["n"], '=' :: ones n) := rfl
  have filled : skipBlanks (ones n) = ones n := rfl
  simp [pairWith, name, filled, valueWith_ones long, Bind.bind, Except.bind]

theorem statements_ones {n : Nat} (long : Decimal.maxDigits < n + 5) (fuel : Nat) :
    statements (fuel + 1) {} ('n' :: '=' :: ones n) = .error (.digits (n + 5)) := by
  have filled : skipBlanks ('n' :: '=' :: ones n) = 'n' :: '=' :: ones n := rfl
  have first : statement fuel {} ('n' :: '=' :: ones n) = .error (.digits (n + 5)) := by
    have starts : isKeyStart 'n' = true := by decide
    simp [statement, starts, pairStatement, pair, pairWith_ones long, Bind.bind, Except.bind]
  simp [statements, filled, first, Bind.bind, Except.bind]

/-- A document with a number of too many digits is no document, and does not say where. -/
theorem parse_ones {n : Nat} (long : Decimal.maxDigits < n + 5) :
    parse ('n' :: '=' :: ones n) = .error (.digits (n + 5)) := by
  unfold parse
  rw [statements_ones long]
  rfl

end ProbeBench.Toml
