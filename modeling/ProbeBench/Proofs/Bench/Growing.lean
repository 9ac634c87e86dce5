import ProbeBench.Bench.Benchmark
import ProbeBench.Proofs.Loop.Extending
import ProbeBench.Proofs.Loop.Releasing

/-!
# What a run does not take back

No part of a benchmark takes back what was written, measured or printed before, behind any server
and in whatever way it ends (`Run.Growing`). Nor does it release a stream twice.

* `Growing.bind`, `Growing.attempt`: parts one after the other.
* `perform_growing`, `probe_growing`, `measureFiles_growing`: from a call to all files.
* `measureAll_growing`, `closeIfOpen_growing`: the end of a run.
-/

namespace ProbeBench

variable {σ α β : Type} {serve : Server σ}

/-- More is written, measured and printed, if anything, and what was tidy is so. -/
structure World.Grows (w w' : World σ) : Prop where
  loop : Loop.Extends w.loop w'.loop
  tidy : w.loop.Tidy → w'.loop.Tidy
  measured : w.measured <+: w'.measured
  printed : w.printed <+: w'.printed

theorem World.Grows.trans {w v u : World σ} (h : w.Grows v) (h' : v.Grows u) : w.Grows u :=
  ⟨h.loop.trans h'.loop, h'.tidy ∘ h.tidy, h.measured.trans h'.measured, h.printed.trans h'.printed⟩

theorem World.Grows.refl (w : World σ) : w.Grows w :=
  ⟨.refl _, id, List.prefix_refl _, List.prefix_refl _⟩

/-- Neither the clock nor warnings matter. -/
theorem World.Grows.noted (w : World σ) (clock : List Seconds) (warnings : List String) :
    w.Grows { w with clock, loop.session.warnings := warnings } where
  loop := ⟨List.prefix_refl _, rfl, id⟩
  tidy := fun h => h.exchange (h.session.congr ⟨rfl, rfl, rfl, rfl, rfl⟩ rfl h.session.timed)
  measured := List.prefix_refl _
  printed := List.prefix_refl _

/-- A part of a benchmark that takes nothing back. -/
def Run.Growing (x : Run σ α) : Prop := ∀ w : World σ, w.Grows (x w).2

namespace Run

theorem Growing.grows {x : Run σ α} (h : Growing x) {w v : World σ} {r : Except Stop α}
    (run : x w = (r, v)) : w.Grows v := by
  have grown := h w
  rw [run] at grown
  exact grown

theorem Growing.pure (a : α) : Growing (Pure.pure a : Run σ α) := fun w => .refl w

theorem Growing.stop (e : Stop) : Growing (Run.stop e : Run σ α) := fun w => .refl w

/-- **Parts one after the other** take nothing back if none of them does. -/
theorem Growing.bind {x : Run σ α} {f : α → Run σ β} (h : Growing x) (next : ∀ a, Growing (f a)) :
    Growing (x >>= f) := by
  intro w
  have first := h w
  cases ended : (x w).1 with
  | ok a =>
    have run : (x >>= f) w = f a (x w).2 := run_bind_ok (Prod.ext ended rfl)
    rw [run]
    exact first.trans (next a _)
  | error e =>
    have run : (x >>= f) w = (.error e, (x w).2) := run_bind_error (Prod.ext ended rfl)
    rw [run]
    exact first

theorem Growing.attempt {x : Run σ α} (h : Growing x) : Growing (Run.attempt x) := h

theorem Growing.lift (x : Except Failure α) : Growing (Run.lift x : Run σ α) := by
  cases x with
  | ok a => exact .pure a
  | error f => exact .stop _

theorem Growing.resume (x : Except Stop α) : Growing (Run.resume x : Run σ α) := by
  cases x with
  | ok a => exact .pure a
  | error e => exact .stop e

theorem Growing.read (f : World σ → α) : Growing (Run.read f) := fun w => .refl w

/-- A change that takes nothing back. -/
theorem Growing.change {f : World σ → World σ} (h : ∀ w : World σ, w.Grows (f w)) :
    Growing (Run.change f) := h

theorem Growing.enter (phase : Phase) : Growing (Run.enter phase : Run σ Unit) :=
  .change fun _ => ⟨.refl _, id, List.prefix_refl _, List.prefix_refl _⟩

theorem Growing.now : Growing (Run.now : Run σ Seconds) := by
  intro w
  unfold Run.now
  split
  · exact .refl w
  · exact .refl w
  · exact ⟨.refl _, id, List.prefix_refl _, List.prefix_refl _⟩

theorem Growing.warn (text : String) : Growing (Run.warn text : Run σ Unit) := by
  refine .change fun w => ?_
  split
  · exact .noted w w.clock _
  · exact .refl w

end Run

open Run (Growing)

theorem perform_growing (serve : Server σ) (call : Call) : Growing (Run.perform serve call) :=
  fun w => ⟨Loop.perform_extends serve w.loop call, fun h => Loop.perform_tidy serve h call,
    List.prefix_refl _, List.prefix_refl _⟩

theorem close_growing (serve : Server σ) : Growing (Run.close serve) :=
  fun w => ⟨Loop.close_extends serve w.loop, Loop.close_tidy serve, List.prefix_refl _,
    List.prefix_refl _⟩

theorem notify_growing (serve : Server σ) (method : String) (params : Json) :
    Growing (Run.notify serve method params) :=
  (perform_growing serve _).bind fun _ => .pure ()

/-! ## Documents -/

namespace Document

theorem open_growing (serve : Server σ) (d : Document) : Growing (d.open_ serve) := by
  refine Growing.bind (.read _) fun _ => ?_
  refine Growing.bind (.lift _) fun _ => ?_
  refine Growing.bind (.lift _) fun params => ?_
  exact notify_growing serve _ params

theorem replace_growing (serve : Server σ) (d : Document) (text : String) :
    Growing (d.replace serve text) := by
  have counted : Growing (d.nextVersion : Run σ Int) :=
    Growing.bind (.change fun _ => ⟨.refl _, id, List.prefix_refl _, List.prefix_refl _⟩)
      fun _ => .read _
  refine counted.bind fun version => ?_
  refine Growing.bind (.lift _) fun params => ?_
  exact (notify_growing serve _ params).bind fun _ => .pure version

theorem close_growing (serve : Server σ) (d : Document) : Growing (d.close serve) :=
  Growing.bind (.lift _) fun params => notify_growing serve _ params

end Document

/-! ## Probes -/

namespace Probing

theorem query_growing (serve : Server σ) (p : Probing) (d : Document) (line character : Int) :
    Growing (query serve p d line character) := by
  refine Growing.bind (.lift _) fun params => ?_
  refine (perform_growing serve _).attempt.bind fun r => ?_
  cases r with
  | ok v => exact .pure _
  | error e =>
    cases e with
    | hung => exact .stop _
    | failed f =>
      dsimp only
      split
      · exact .pure _
      · exact .stop _

theorem conclude_growing (p : Probing) (d : Document) (c : Probe.Candidate) (started : Seconds)
    (answer : Except Failure Json) :
    Growing (conclude p d c started answer : Run σ Measurement) := by
  refine Growing.now.bind fun ended => ?_
  refine Growing.bind (.lift _) fun elapsed => ?_
  refine Growing.bind (.enter _) fun _ => ?_
  cases answer with
  | ok v => exact .pure _
  | error f =>
    dsimp only
    split
    · exact .stop _
    · exact (Growing.warn _).bind fun _ => .pure _

/-- **A probe takes nothing back.** -/
theorem probe_growing (serve : Server σ) (p : Probing) (d : Document) (c : Probe.Candidate) :
    Growing (probe serve p d c) := by
  refine Growing.bind (.read _) fun phase => ?_
  refine Growing.bind (.lift _) fun _ => ?_
  refine Growing.bind (.lift _) fun spot => ?_
  refine Growing.bind (.lift _) fun _ => ?_
  refine Growing.now.bind fun started => ?_
  refine (d.replace_growing serve _).bind fun _ => ?_
  refine Growing.bind (.enter _) fun _ => ?_
  refine Growing.bind (.enter _) fun _ => ?_
  refine (query_growing serve p d _ _).bind fun answer => ?_
  refine Growing.bind (.enter _) fun _ => ?_
  refine (d.replace_growing serve d.text).bind fun _ => ?_
  exact conclude_growing p d c started answer

end Probing

/-! ## Benchmarks -/

namespace Benchmark

theorem reportTo_growing (format : Format) (m : Measurement) :
    Growing (reportTo format m : Run σ Unit) := by
  have kept : Growing (Probing.keep m : Run σ Unit) :=
    .change fun _ => ⟨.refl _, id, List.prefix_append _ _, List.prefix_refl _⟩
  refine kept.bind fun _ => ?_
  refine Growing.bind (.lift _) fun line => ?_
  exact .change fun _ => ⟨.refl _, id, List.prefix_refl _, List.prefix_append _ _⟩

theorem probeEach_growing (serve : Server σ) (p : Probing) (d : Document) (format : Format)
    (cs : List Probe.Candidate) : Growing (Probing.probeEach serve p d (reportTo format) cs) := by
  induction cs with
  | nil => exact .pure 0
  | cons c rest ih =>
    refine (Probing.probe_growing serve p d c).bind fun m => ?_
    refine (reportTo_growing format m).bind fun _ => ?_
    exact ih.bind fun n => .pure (n + 1)

theorem measureFile_growing (serve : Server σ) (c : Config) (d : Document) :
    Growing (measureFile serve c d) := by
  refine (d.open_growing serve).bind fun _ => ?_
  refine (probeEach_growing serve _ d c.format _).bind fun n => ?_
  exact (d.close_growing serve).bind fun _ => .pure n

theorem measureFiles_growing (serve : Server σ) (cwd : Path) (c : Config) (number : Nat)
    (sources : List (Path × String)) : Growing (measureFiles serve cwd c number sources) := by
  induction sources generalizing number with
  | nil => exact .pure 0
  | cons f rest ih =>
    refine Growing.bind (.lift _) fun d => ?_
    refine (measureFile_growing serve c d).bind fun n => ?_
    exact (ih (number + 1)).bind fun m => .pure (n + m)

/-- **Probing all files and shutting the server down takes nothing back.** -/
theorem measureAll_growing (serve : Server σ) (s : Surroundings) (c : Config)
    (sources : List (Path × String)) : Growing (measureAll serve s c sources) := by
  refine (measureFiles_growing serve s.cwd c 0 sources).bind fun n => ?_
  exact (perform_growing serve _).bind fun _ => .pure n

theorem closeSession_growing (serve : Server σ) : Growing (closeSession serve) := by
  have given_up : Growing (Run.change fun w : World σ => { w with loop := w.loop.abandon 0 }) :=
    .change fun w => ⟨Loop.abandon_extends w.loop 0, fun h => Loop.abandon_tidy h 0,
      List.prefix_refl _, List.prefix_refl _⟩
  refine given_up.bind fun _ => ?_
  exact (close_growing serve).bind fun _ => .pure ()

/-- **The handshake takes nothing back.** -/
theorem connect_growing (serve : Server σ) (s : Surroundings) (c : Config) :
    Growing (connect serve s c) := by
  refine Growing.bind (.change fun w => ?_) fun _ => ?_
  · refine ⟨⟨List.prefix_refl _, rfl, id⟩, fun h => h.exchange ?_, List.prefix_refl _,
      List.prefix_refl _⟩
    refine h.session.congr ⟨rfl, rfl, rfl, rfl, rfl⟩ rfl fun x given => ?_
    obtain ⟨seconds, -, rfl⟩ := Option.map_eq_some_iff.mp given
    rfl
  refine Growing.bind (.lift _) fun params => ?_
  refine (perform_growing serve _).attempt.bind fun r => ?_
  cases r with
  | ok v => exact .pure _
  | error e =>
    cases e with
    | failed f => exact .stop _
    | hung => exact (closeSession_growing serve).bind fun _ => .stop _

end Benchmark

end ProbeBench
