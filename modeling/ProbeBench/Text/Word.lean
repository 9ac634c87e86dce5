/-!
# Words

A word is an ASCII letter or underscore and the ASCII letters, digits and underscores after it.
`words` reads the words of a text from left to right, each as long as it can be. A letter that
follows a digit begins a word too when no word is being read.
-/

namespace ProbeBench.Text

/-- Whether a word may begin with `c`. -/
def isWordStart (c : Char) : Bool :=
  ('a' ≤ c && c ≤ 'z') || ('A' ≤ c && c ≤ 'Z') || c = '_'

/-- Whether a word may go on with `c`. -/
def isWordChar (c : Char) : Bool :=
  isWordStart c || ('0' ≤ c && c ≤ '9')

/-- The words of a text that begins at offset `start`, each with its first offset. -/
def wordsFrom (start : Nat) : List Char → List (Nat × List Char)
  | [] => []
  | c :: rest =>
    if isWordStart c then
      let tail := rest.takeWhile isWordChar
      (start, c :: tail) :: wordsFrom (start + 1 + tail.length) (rest.drop tail.length)
    else wordsFrom (start + 1) rest
termination_by cs => cs.length
decreasing_by
  all_goals
    simp only [List.length_cons, List.length_drop]
    omega

/-- The words of a text in order. -/
def words (text : List Char) : List (List Char) :=
  (wordsFrom 0 text).map (·.2)

/-- Whether a text is one word and nothing else. -/
def isWord : List Char → Bool
  | [] => false
  | c :: rest => isWordStart c && rest.all isWordChar

end ProbeBench.Text
