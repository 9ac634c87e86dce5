import ProbeBench.Toml.Value

/-!
# How the pieces of a document are read

A scanner takes what it reads off the front of a text and leaves the rest, which is the end of that
text. Where it stops it says why and where, except for one reason: a whole number of too many digits
has no place. `Reads` says this of the outcome of a scanner, and `Reads.bind` of two scanners in a
row; so what stops without a place has found too long a run of digits somewhere in the text that was
read first.

* `reads_quoted`, `reads_key`: strings and keys never stop without a place.
* `reads_scalar`: a number does, and then the run of digits is there.
-/

namespace ProbeBench.Toml

open ProbeBench.Config

variable {α β : Type} {cs rest : List Char}

/-- A run of digits, with underscores among them or without, is too long for a number. -/
def HoldsLong (cs : List Char) : Prop :=
  ∃ run, run <:+: cs ∧ (∀ c ∈ run, Decimal.isGroupChar c = true) ∧
    Decimal.maxDigits < run.countP Decimal.isDigit

theorem HoldsLong.of_suffix (ending : rest <:+ cs) : HoldsLong rest → HoldsLong cs
  | ⟨run, inside, digits, long⟩ => ⟨run, inside.trans ending.isInfix, digits, long⟩

/-- What a scanner makes of a text; `left` is what is left of the text with its outcome. -/
inductive Reads (cs : List Char) (left : α → List Char) : Except Stop α → Prop where
  | ok {a : α} (ending : left a <:+ cs) : Reads cs left (.ok a)
  | at {reason : Reason} {n : Nat} : Reads cs left (.error (.at reason n))
  | digits {count : Nat} (long : HoldsLong cs) : Reads cs left (.error (.digits count))

namespace Reads

variable {left : α → List Char} {left' : β → List Char} {r : Except Stop α}

theorem of_suffix (ending : rest <:+ cs) (reads : Reads rest left r) : Reads cs left r := by
  cases reads with
  | ok more => exact .ok (more.trans ending)
  | «at» => exact .at
  | digits long => exact .digits (long.of_suffix ending)

/-- The second scanner reads what the first one leaves. -/
theorem bind {f : α → Except Stop β} (first : Reads cs left r)
    (next : ∀ a, Reads (left a) left' (f a)) : Reads cs left' (r >>= f) := by
  cases first with
  | ok ending => exact (next _).of_suffix ending
  | «at» => exact .at
  | digits long => exact .digits long

theorem map {f : α → β} (reads : Reads cs left r) (same : ∀ a, left' (f a) = left a) :
    Reads cs left' (r.map f) := by
  cases reads with
  | ok ending => exact .ok (same _ ▸ ending)
  | «at» => exact .at
  | digits long => exact .digits long

end Reads

/-! ### Blanks and comments -/

theorem skipBlanks_suffix (cs : List Char) : skipBlanks cs <:+ cs := List.dropWhile_suffix _

theorem reads_skipToEnd (cs : List Char) : Reads cs id (skipToEnd cs) := by
  induction cs with
  | nil => exact .ok List.suffix_rfl
  | cons c rest ih =>
    unfold skipToEnd
    split
    · exact .ok List.suffix_rfl
    · split
      · exact .at
      · exact ih.of_suffix (List.suffix_cons c rest)

theorem reads_skipComment (cs : List Char) : Reads cs id (skipComment cs) := by
  unfold skipComment
  split
  · exact (reads_skipToEnd _).of_suffix (List.suffix_cons _ _)
  · exact .ok List.suffix_rfl

theorem reads_skipFiller (inComment : Bool) (cs : List Char) :
    Reads cs id (skipFiller inComment cs) := by
  induction cs generalizing inComment with
  | nil => exact .ok List.suffix_rfl
  | cons c rest ih =>
    have later (inComment : Bool) : Reads (c :: rest) id (skipFiller inComment rest) :=
      (ih inComment).of_suffix (List.suffix_cons c rest)
    unfold skipFiller
    split
    · split
      · exact later false
      · split
        · exact .at
        · exact later true
    · split
      · exact later false
      · split
        · exact later true
        · exact .ok List.suffix_rfl

/-! ### Strings and keys -/

theorem reads_rawContent (multiline : Bool) (mark cs : List Char) :
    Reads cs Prod.snd (rawContent multiline mark cs) := by
  unfold rawContent
  split
  · exact .at
  · dsimp only
    split
    · exact .at
    · exact .ok (List.drop_suffix _ _)

theorem reads_hexCharacter (width : Nat) (cs : List Char) :
    Reads cs Prod.snd (hexCharacter width cs) := by
  unfold hexCharacter
  dsimp only
  by_cases whole : (cs.take width).length = width
  · rw [if_pos whole]
    cases Text.hexValueOf? (cs.take width) with
    | none => exact .at
    | some n =>
      dsimp only
      by_cases valid : n.isValidChar
      · rw [dif_pos valid]
        exact .ok (List.drop_suffix _ _)
      · rw [dif_neg valid]
        exact .at
  · rw [if_neg whole]
    exact .at

theorem reads_escape (multiline : Bool) (cs : List Char) :
    Reads cs Prod.snd (escape multiline cs) := by
  cases cs with
  | nil => exact .at
  | cons c rest =>
    have behind : rest <:+ c :: rest := List.suffix_cons c rest
    rw [escape]
    split
    · exact .ok ((List.dropWhile_suffix _).trans behind)
    · split
      · split
        · exact .ok List.nil_suffix
        · rename_i d more skipped
          have after : more <:+ c :: rest :=
            (List.suffix_cons d more).trans (skipped ▸ (skipBlanks_suffix rest).trans behind)
          split
          · exact .ok ((List.dropWhile_suffix _).trans after)
          · exact .at
      · split
        · exact (reads_hexCharacter 4 rest).of_suffix behind
        · split
          · exact (reads_hexCharacter 8 rest).of_suffix behind
          · split
            · exact .ok behind
            · exact .at

theorem reads_quoted (multiline : Bool) (fuel : Nat) (cs : List Char) :
    Reads cs Prod.snd (quoted multiline fuel cs) := by
  induction fuel generalizing cs with
  | zero => exact .at
  | succ fuel ih =>
    cases cs with
    | nil => exact .at
    | cons c rest =>
      have behind : rest <:+ c :: rest := List.suffix_cons c rest
      unfold quoted
      split
      · exact .ok behind
      · split
        · exact .ok ((List.drop_suffix 2 rest).trans behind)
        · split
          · refine ((reads_escape multiline rest).of_suffix behind).bind ?_
            rintro ⟨piece, rest'⟩
            exact (ih rest').bind fun _ => .ok List.suffix_rfl
          · split
            · exact .at
            · exact ((ih rest).of_suffix behind).bind fun _ => .ok List.suffix_rfl

theorem reads_raw (cs : List Char) : Reads cs Prod.snd (raw cs) := reads_rawContent false _ cs

theorem reads_multilineString (quote : Char) (fuel : Nat) (cs : List Char) :
    Reads cs Prod.snd (multilineString quote fuel cs) := by
  unfold multilineString
  have opened : (if cs.head? = some '\n' then cs.drop 1 else cs) <:+ cs := by
    split
    · exact List.drop_suffix 1 cs
    · exact List.suffix_rfl
  have taken (content : List Char × List Char) :
      Reads content.2 Prod.snd (.ok (takeQuotes quote content.1 content.2)) :=
    .ok (List.drop_suffix _ _)
  dsimp only
  split
  · exact ((reads_quoted true fuel _).of_suffix opened).bind taken
  · exact ((reads_rawContent true _ _).of_suffix opened).bind taken

theorem reads_keyName (fuel : Nat) (cs : List Char) : Reads cs Prod.snd (keyName fuel cs) := by
  unfold keyName
  split
  · exact (reads_quoted false fuel _).of_suffix (List.suffix_cons _ _)
  · exact (reads_raw _).of_suffix (List.suffix_cons _ _)
  · dsimp only
    split
    · exact .at
    · exact .ok (List.drop_suffix _ _)

theorem reads_key (fuel : Nat) (cs : List Char) : Reads cs Prod.snd (key fuel cs) := by
  induction fuel generalizing cs with
  | zero => exact .at
  | succ fuel ih =>
    unfold key
    refine (reads_keyName fuel cs).bind ?_
    rintro ⟨name, rest⟩
    dsimp only
    split
    · rename_i more skipped
      have after : skipBlanks more <:+ rest :=
        (skipBlanks_suffix more).trans
          ((List.suffix_cons '.' more).trans (skipped ▸ skipBlanks_suffix rest))
      exact ((ih _).of_suffix after).bind fun _ => .ok List.suffix_rfl
    · exact .ok (skipBlanks_suffix rest)

end ProbeBench.Toml
