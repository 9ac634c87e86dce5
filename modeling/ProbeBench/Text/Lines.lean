import ProbeBench.Text.LowerBound
import ProbeBench.Text.Position

/-!
# Lines of a text

A line feed, a carriage return and the pair of both each end a line. `lineStarts` lists the offset
at which every line begins, and closes the list with the length of the text when the text does not
end on a line boundary; so the list is strictly increasing and every segment between two neighbours
is one line with its terminator. A `LineTable` answers which line and column an offset has, and the
other way round. Lines and columns are counted from 1 in a `Place`, lines from 0 elsewhere.

* `flatten_segments`: the lines one after the other are the text.
-/

namespace ProbeBench.Text

/-- The offsets just after each line terminator of a text that begins at offset `start`. -/
def lineBreaks : Nat → List Char → List Nat
  | _, [] => []
  | start, '\r' :: '\n' :: rest => (start + 2) :: lineBreaks (start + 2) rest
  | start, c :: rest =>
    if c = '\n' ∨ c = '\r' then (start + 1) :: lineBreaks (start + 1) rest
    else lineBreaks (start + 1) rest

/-- The offset of every line start, closed by the text's length where no line starts there. -/
def lineStarts (text : List Char) : List Nat :=
  let starts := 0 :: lineBreaks 0 text
  if starts.getLast? = some text.length then starts else starts ++ [text.length]

/-- Ends lines the same way everywhere: a return, alone or before a feed, becomes a feed. -/
def unifyLineEnds : List Char → List Char
  | [] => []
  | '\r' :: '\n' :: rest => '\n' :: unifyLineEnds rest
  | c :: rest => (if c = '\r' then '\n' else c) :: unifyLineEnds rest

/-- A text together with the offsets of its line starts. -/
structure LineTable where
  text : List Char
  starts : Array Nat
  deriving Inhabited

/-- A line and a column, both counted from 1; an offset before the text has a column below 1. -/
structure Place where
  line : Nat
  column : Int
  deriving DecidableEq, Repr

namespace LineTable

/-- The table of a text. -/
def ofText (text : List Char) : LineTable :=
  { text, starts := (lineStarts text).toArray }

/-- The offset at which a line begins. -/
def startOfLine? (t : LineTable) (line : Int) : Option Nat :=
  item? t.starts.toList line

/-- The line that holds an offset; offsets before the text belong to the first line. -/
def lineOf (t : LineTable) (offset : Int) : Nat :=
  (lowerBound? t.starts offset.toNat).getD 0

/-- The distance of an offset from the beginning of a line. -/
def columnIn? (t : LineTable) (line offset : Int) : Option Int :=
  (t.startOfLine? line).map fun start => offset - start

/-- The line and column of an offset. -/
def place (t : LineTable) (offset : Int) : Place :=
  let line := t.lineOf offset
  { line := line + 1, column := offset - t.starts.getD line 0 + 1 }

/-- A text that begins at an offset, cut at others that ascend. -/
def cutAt (offset : Nat) : List Nat → List Char → List (List Char)
  | [], text => [text]
  | next :: rest, text => text.take (next - offset) :: cutAt next rest (text.drop (next - offset))

/-- All lines in order, each with its terminator. -/
def segments (t : LineTable) : List (List Char) :=
  cutAt 0 (t.starts.toList.drop 1) t.text

theorem flatten_cutAt (offset : Nat) (places : List Nat) (text : List Char) :
    (cutAt offset places text).flatten = text := by
  induction places generalizing offset text with
  | nil => simp [cutAt]
  | cons next rest ih => simp [cutAt, ih]

theorem flatten_segments (t : LineTable) : t.segments.flatten = t.text :=
  flatten_cutAt 0 _ t.text

/-- A segment without the terminator characters at its end. -/
def withoutBreak (segment : List Char) : List Char :=
  (segment.reverse.dropWhile fun c => c = '\n' ∨ c = '\r').reverse

/-- The text of a line without its terminator. The line before the first counts as ending where
the first begins. -/
def lineText? (t : LineTable) (line : Int) : Option (List Char) :=
  (t.startOfLine? line).map fun start =>
    let stop :=
      if line + 1 < t.starts.size then (t.startOfLine? (line + 1)).getD t.text.length
      else t.text.length
    withoutBreak (slice t.text start stop)

end LineTable

end ProbeBench.Text
