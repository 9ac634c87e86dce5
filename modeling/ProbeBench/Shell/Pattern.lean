/-!
# Patterns

A pattern matches texts: a star matches any text, a question mark any character, brackets a
character of a set, and everything else itself. In a `Glyph` a character says whether it may have
such a meaning; one that was quoted may not, nor one behind an active backslash.

* `withoutEscapes_glyphs`: quoted text has nothing that could be taken for an escape.
* `fits_many`: a star matches what any text before the rest matches.
* `length_suffixes`: a text has one more suffix than characters.
-/

namespace ProbeBench.Shell

/-- A character of a field; an active one may have a meaning in a pattern. -/
structure Glyph where
  char : Char
  active : Bool
  deriving DecidableEq, Repr

/-- A text as glyphs. -/
def glyphs (active : Bool) (cs : List Char) : List Glyph := cs.map (⟨·, active⟩)

/-- The text of glyphs. -/
def textOf (gs : List Glyph) : List Char := gs.map (·.char)

/-- Whether a glyph is an active character. -/
def Glyph.isMark (g : Glyph) (c : Char) : Bool := g.active && g.char = c

/-- Glyphs without the active backslashes, each of which takes the meaning from the glyph behind it.
Where nothing is behind it, it stays. -/
def withoutEscapes : List Glyph → List Glyph
  | g :: h :: rest =>
    if g.isMark '\\' then ⟨h.char, false⟩ :: withoutEscapes rest
    else g :: withoutEscapes (h :: rest)
  | gs => gs

/-- A part of a set of characters. -/
inductive Range where
  | between (low high : Char)
  | kind (name : List Char)
  deriving DecidableEq, Repr

/-- A part of a pattern. -/
inductive Atom where
  | one (c : Char)
  | any
  | many
  | set (negated : Bool) (ranges : List Range)
  deriving DecidableEq, Repr

/-- A pattern. -/
abbrev Pattern := List Atom

/-- Whether a character is of a kind. -/
def isOfKind (name : List Char) (c : Char) : Bool :=
  match String.ofList name with
  | "alpha" => c.isAlpha
  | "digit" => c.isDigit
  | "alnum" => c.isAlphanum
  | "upper" => c.isUpper
  | "lower" => c.isLower
  | "space" => c = ' ' || ('\t' ≤ c && c ≤ '\r')
  | "blank" => c = ' ' || c = '\t'
  | "punct" => '!' ≤ c && c ≤ '~' && !c.isAlphanum
  | "print" => ' ' ≤ c && c ≤ '~'
  | "graph" => '!' ≤ c && c ≤ '~'
  | "cntrl" => c < ' ' || c = '\x7f'
  | "xdigit" => c.isDigit || ('a' ≤ c && c ≤ 'f') || ('A' ≤ c && c ≤ 'F')
  | _ => false

/-- Whether a character is in a range. -/
def Range.has (r : Range) (c : Char) : Bool :=
  match r with
  | .between low high => low ≤ c && c ≤ high
  | .kind name => isOfKind name c

/-- The name of a kind behind its opening, and the glyphs behind its end. -/
def takeKind? (gs : List Glyph) : Option (List Char × List Glyph) :=
  let name := gs.takeWhile fun g => g.char.isAlpha
  match gs.drop name.length with
  | ⟨':', _⟩ :: ⟨']', _⟩ :: rest => some (textOf name, rest)
  | _ => none

/-- The ranges of a set and the glyphs behind its end; none if it has no end. In front of the first
range the end has no meaning. -/
def takeRanges? : Nat → Bool → List Glyph → Option (List Range × List Glyph)
  | 0, _, _ => none
  | _ + 1, _, [] => none
  | fuel + 1, first, g :: rest =>
    let go (r : Range) (rest : List Glyph) :=
      (takeRanges? fuel false rest).map fun t => (r :: t.1, t.2)
    if g.isMark ']' && !first then some ([], rest)
    else
      match g, rest with
      | ⟨'[', true⟩, ⟨':', true⟩ :: more =>
        match takeKind? more with
        | some (name, rest) => go (.kind name) rest
        | none => go (.between '[' '[') rest
      | _, dash :: high :: more =>
        if dash.isMark '-' && !high.isMark ']' then go (.between g.char high.char) more
        else go (.between g.char g.char) rest
      | _, _ => go (.between g.char g.char) rest

/-- The set behind an opening bracket, and the glyphs behind it. -/
def takeSet? (gs : List Glyph) : Option (Atom × List Glyph) :=
  let negated := (gs.head?.map fun g => g.isMark '!').getD false
  let gs := if negated then gs.drop 1 else gs
  (takeRanges? (gs.length + 1) true gs).map fun r => (.set negated r.1, r.2)

/-- The pattern that glyphs write. -/
def patternWith : Nat → List Glyph → Pattern
  | 0, _ => []
  | _ + 1, [] => []
  | fuel + 1, g :: rest =>
    if g.isMark '*' then .many :: patternWith fuel rest
    else if g.isMark '?' then .any :: patternWith fuel rest
    else if g.isMark '[' then
      match takeSet? rest with
      | some (set, rest) => set :: patternWith fuel rest
      | none => .one '[' :: patternWith fuel rest
    else .one g.char :: patternWith fuel rest

/-- The pattern that glyphs write. -/
def Pattern.ofGlyphs (gs : List Glyph) : Pattern := patternWith gs.length (withoutEscapes gs)

/-- What stands between arguments that are put into words together. No value holds it. -/
def breakMark : Char := '\x00'

/-- A text and what is left of it after each of its characters. -/
def suffixes : List Char → List (List Char)
  | [] => [[]]
  | c :: rest => (c :: rest) :: suffixes rest

namespace Pattern

/-- Whether a pattern fits no text but one. -/
def isPlain (p : Pattern) : Bool :=
  p.all fun
    | .one _ => true
    | _ => false

/-- Whether a pattern fits a text. -/
def fits : Pattern → List Char → Bool
  | [], cs => cs.isEmpty
  | .many :: atoms, cs => (suffixes cs).any (fits atoms)
  | .one a :: atoms, c :: cs => a = c && fits atoms cs
  | .any :: atoms, _ :: cs => fits atoms cs
  | .set negated ranges :: atoms, c :: cs =>
    (ranges.any (·.has c) ≠ negated) && fits atoms cs
  | _, [] => false

/-- The numbers of characters of a text, from the fewest or from the most. -/
def counts (longest : Bool) (cs : List Char) : List Nat :=
  let ns := List.range (cs.length + 1)
  if longest then ns.reverse else ns

/-- Whether a pattern fits a part of a text; what is looked at ends with the first argument. -/
def fitsFirst (p : Pattern) (cs : List Char) : Bool := p.fits (cs.takeWhile (· ≠ breakMark))

/-- A text without what a pattern matches at its beginning. -/
def cutFront (p : Pattern) (longest : Bool) (cs : List Char) : List Char :=
  match (counts longest cs).find? fun n => p.fitsFirst (cs.take n) with
  | some n => cs.drop n
  | none => cs

/-- A text without what a pattern matches at its end. The longest match begins in the first
argument. -/
def cutBack (p : Pattern) (longest : Bool) (cs : List Char) : List Char :=
  let isSeen (n : Nat) : Bool := !longest || !(cs.take (cs.length - n)).contains breakMark
  match (counts longest cs).find? fun n => isSeen n && p.fitsFirst (cs.drop (cs.length - n)) with
  | some n => cs.take (cs.length - n)
  | none => cs

theorem fits_many (p : Pattern) (cs : List Char) :
    fits (.many :: p) cs = (suffixes cs).any p.fits := by
  cases cs <;> rfl

end Pattern

theorem withoutEscapes_glyphs (cs : List Char) :
    withoutEscapes (glyphs false cs) = glyphs false cs := by
  induction cs with
  | nil => rfl
  | cons c rest ih =>
    cases rest with
    | nil => rfl
    | cons d rest => simpa [glyphs, withoutEscapes, Glyph.isMark] using ih

theorem length_suffixes (cs : List Char) : (suffixes cs).length = cs.length + 1 := by
  induction cs with
  | nil => rfl
  | cons c rest ih => simp [suffixes, ih]

end ProbeBench.Shell
