import ProbeBench.Probe.Mode
import ProbeBench.Text.Blank
import ProbeBench.Text.Lines
import ProbeBench.Text.Units
import ProbeBench.Text.Word

/-!
# Probes

A text is probed at each of its words that stand outside comment lines: the `candidates`. In
completion mode the probe takes the word away, in definition mode it puts a blank behind it
(`probeText`). The server is asked at the beginning of the word, which the protocol writes as a line
and a count of 16-bit units in that line (`spot?`).
-/

namespace ProbeBench.Probe

/-- A word to probe: its offsets, and the line and column of its beginning, both from 1. -/
structure Candidate where
  start : Int
  stop : Int
  line : Int
  column : Int
  deriving DecidableEq, Repr

/-- Whether a line is a comment as a whole: it begins, after blanks, with a comment mark or with the
star that continues a comment. -/
def isCommentLine (line : List Char) : Bool :=
  match line.dropWhile Text.isBlank with
  | '*' :: _ => true
  | '/' :: '*' :: _ => true
  | '/' :: '/' :: _ => true
  | _ => false

/-- Which lines of a text are comments, from the first on. -/
def commentLines (t : Text.LineTable) : Array Bool :=
  (t.segments.map isCommentLine).toArray

/-- The candidate for a word, unless its line is one of the comments. -/
def candidate? (t : Text.LineTable) (comments : Array Bool) (start : Nat) (word : List Char) :
    Option Candidate :=
  let place := t.place start
  if comments.getD (place.line - 1) false then none
  else some ⟨start, start + word.length, place.line, place.column⟩

/-- The words of a text outside its comment lines, in order. -/
def candidates (t : Text.LineTable) : List Candidate :=
  let comments := commentLines t
  (Text.wordsFrom 0 t.text).filterMap fun w => candidate? t comments w.1 w.2

/-- The text with a probe at a candidate. -/
def probeText (text : List Char) (c : Candidate) : Mode → List Char
  | .definition => Text.upTo text c.stop ++ ' ' :: Text.fromOn text c.stop
  | .completion => Text.upTo text c.start ++ Text.fromOn text c.stop

/-- The line, from 0, and the 16-bit units before the candidate in it. -/
def spot? (t : Text.LineTable) (c : Candidate) : Option (Int × Nat) :=
  (t.startOfLine? (c.line - 1)).map fun start =>
    (c.line - 1, Text.units (Text.slice t.text start c.start))

end ProbeBench.Probe
