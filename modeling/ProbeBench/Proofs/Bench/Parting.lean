import ProbeBench.Proofs.Bench.Driving
import ProbeBench.Proofs.Bench.Growing

/-!
# Where policies part

Two benchmarks of the same sources behind the same server: one ends with the first request that
fails, the other one measures the failure and goes on. Until then both do the same, and the first
one stops behind the message that gives the document its own text again.

* `Failed`: where the first failure leaves a run.
* `Parting`: how two runs from one world end, with `Parting.bind` for parts one after the other.
* `probe_parts`, `probeEach_parts`, `measureFile_parts`, `measureFiles_parts`: from a probe to all
  files.
* `measureAll_parts`: the result.
-/

namespace ProbeBench

variable {σ α β : Type} {serve : Server σ} {cwd : Path} {c : Config}
  {sources : List (Path × String)} {w v u : World σ}

/-- No measurement has failed. -/
def World.Faultless (w : World σ) : Prop := ∀ m ∈ w.measured, m.error = none

/-- Every measurement has its line in the report. -/
def World.Reported (format : Format) (w : World σ) : Prop :=
  w.measured.map (·.report format) = w.printed.map .ok

/-- The session is live, no call is open on it, and nothing keeps it from being closed at once. -/
structure World.Leavable (seconds : Option Float) (w : World σ) : Prop where
  live : ∃ told, w.At told seconds
  heedful : w.loop.Heedful
  whole : w.loop.session.transport.wire.closeFault = none

theorem World.Leavable.grows {seconds : Option Float} (h : w.Leavable seconds) (grows : w.Grows v)
    {told : List Members} (live : v.At told seconds) : v.Leavable seconds :=
  ⟨⟨told, live⟩, grows.loop.heedful h.heedful, grows.loop.closeFault.trans h.whole⟩

theorem World.Leavable.of_loop {seconds : Option Float} (h : w.Leavable seconds)
    (same : v.loop = w.loop) : v.Leavable seconds := by
  obtain ⟨⟨told, live⟩, heedful, whole⟩ := h
  exact ⟨⟨told, live.of_loop same⟩, same ▸ heedful, same ▸ whole⟩

theorem World.Faultless.congr (h : w.Faultless) (measured : v.measured = w.measured) :
    v.Faultless := by
  unfold Faultless
  rw [measured]
  exact h

theorem World.Faultless.append (h : w.Faultless) {m : Measurement} (faultless : m.error = none)
    (measured : v.measured = w.measured ++ [m]) : v.Faultless := by
  unfold Faultless
  rw [measured]
  intro m' hm
  rcases List.mem_append.mp hm with before | last
  · exact h m' before
  · rw [List.mem_singleton.mp last]
    exact faultless

/-- The document of one of the sources. -/
structure Document.Listed (cwd : Path) (c : Config) (sources : List (Path × String))
    (d : Document) : Prop where
  source : sources[d.number]? = some (d.path, d.text)
  located : Document.ofFile cwd d.number d.path c.language d.text = .ok d

/-- A run has come to the first request that fails, which is that of the `k`-th candidate of a
source. All candidates before it are measured and reported. The server has been given the document's
own text again, and has been told nothing since. With the failure, the candidate would be measured
as said. -/
inductive Failed (serve : Server σ) (cwd : Path) (c : Config) (sources : List (Path × String))
    (failure : Failure) : Measurement → World σ → Prop
  | intro {d : Document} {k : Nat} {candidate : Probe.Candidate} (q : Question d candidate)
      (elapsed : Float) {before reverted : Loop σ} {w : World σ}
      (listed : d.Listed cwd c sources) (there : (Probe.candidates d.lines)[k]? = some candidate)
      (reply : IsReply (.error failure))
      (exchange : Exchange serve ⟨c.mode, .abort⟩ c.timeout d (k + 1) q (.error failure) before
        reverted)
      (written : w.loop.session.transport.wire.sent = reverted.session.transport.wire.sent)
      (last : w.loop.session.transport.wire.sent.getLast? =
        some (d.changed (2 * (k + 1 : Nat) + 1) d.text))
      (count : w.measured.length = (placesOf (sources.take d.number)).length + k)
      (faultless : w.Faultless) (reported : w.Reported c.format) :
      Failed serve cwd c sources failure
        (Probing.measured d candidate elapsed (.error failure)) w

/-- Nothing but what is written, measured and printed matters. -/
theorem Failed.congr {failure : Failure} {m : Measurement}
    (h : Failed serve cwd c sources failure m w)
    (sent : v.loop.session.transport.wire.sent = w.loop.session.transport.wire.sent)
    (measured : v.measured = w.measured) (printed : v.printed = w.printed) :
    Failed serve cwd c sources failure m v := by
  cases h with
  | intro q elapsed listed there reply exchange written last count faultless reported =>
    refine .intro q elapsed listed there reply exchange (sent.trans written) (sent ▸ last)
      (measured ▸ count) (faultless.congr measured) ?_
    unfold World.Reported
    rw [measured, printed]
    exact reported

/-- One run stands behind another one that has gone on from there with the measurement `m`. -/
structure World.Behind (m : Measurement) (w u : World σ) : Prop where
  sent : w.loop.session.transport.wire.sent <+: u.loop.session.transport.wire.sent
  measured : w.measured ++ [m] <+: u.measured
  printed : w.printed <+: u.printed

theorem World.Behind.grows {m : Measurement} (h : w.Behind m v) (grows : v.Grows u) :
    w.Behind m u :=
  ⟨h.sent.trans grows.loop.sent, h.measured.trans grows.measured, h.printed.trans grows.printed⟩

/-- How two runs from one world end, of which the first stops at the first failure: both alike,
without a failure that is measured; or the first one stops with a failure, where `F` holds, and the
second one goes on with the measurement of it. -/
inductive Parting (F : Failure → Measurement → World σ → Prop) (Q : α → World σ → Prop) :
    Except Stop α × World σ → Except Stop α × World σ → Prop
  | goes {a : α} {v : World σ} (holds : Q a v) : Parting F Q (.ok a, v) (.ok a, v)
  | stops {e : Stop} {v : World σ} (faultless : v.Faultless) :
      Parting F Q (.error e, v) (.error e, v)
  | parts {failure : Failure} {m : Measurement} {v u : World σ} {r : Except Stop α}
      (failed : F failure m v) (behind : v.Behind m u) :
      Parting F Q (.error (.failed failure), v) (r, u)

namespace Parting

variable {F : Failure → Measurement → World σ → Prop} {Q : α → World σ → Prop}
  {R : β → World σ → Prop}

/-- **Parts one after the other.** Where the first run has stopped, the second one goes on alone. -/
theorem bind {x y : Run σ α} {f g : α → Run σ β} (h : Parting F Q (x w) (y w))
    (next : ∀ a v, Q a v → Parting F R (f a v) (g a v)) (growing : ∀ a, Run.Growing (g a)) :
    Parting F R ((x >>= f) w) ((y >>= g) w) := by
  generalize hx : x w = first at h
  generalize hy : y w = second at h
  cases h with
  | goes holds =>
    rw [Run.run_bind_ok hx, Run.run_bind_ok hy]
    exact next _ _ holds
  | stops faultless =>
    rw [Run.run_bind_error hx, Run.run_bind_error hy]
    exact .stops faultless
  | @parts failure m v u r failed behind =>
    rw [Run.run_bind_error hx]
    cases r with
    | ok a =>
      rw [Run.run_bind_ok hy]
      exact .parts failed (behind.grows (growing a u))
    | error e =>
      rw [Run.run_bind_error hy]
      exact .parts failed behind

/-- Two runs that are the same, and measure nothing. -/
theorem same {x : Run σ α} (faultless : w.Faultless) (measured : (x w).2.measured = w.measured) :
    Parting F (fun _ v => v.Faultless) (x w) (x w) := by
  cases ended : (x w).1 with
  | ok a =>
    rw [show x w = (.ok a, (x w).2) from Prod.ext ended rfl]
    exact .goes (faultless.congr measured)
  | error e =>
    rw [show x w = (.error e, (x w).2) from Prod.ext ended rfl]
    exact .stops (faultless.congr measured)

end Parting

namespace Benchmark

/-- Files are being measured: so many measurements have been made, none of which has failed, and no
probe is going on. -/
structure Underway (c : Config) (done : Nat) (w : World σ) : Prop
    extends World.Leavable c.timeout w where
  sound : w.loop.session.Sound
  phase : w.phase = .idle
  count : w.measured.length = done
  faultless : w.Faultless
  reported : w.Reported c.format

/-- What measures and prints nothing, and leaves the session live. -/
theorem Underway.keeps {done : Nat} (h : Underway c done w) (grows : w.Grows v)
    {told : List Members} (live : v.At told c.timeout) (sound : v.loop.session.Sound)
    (phase : v.phase = w.phase) (measured : v.measured = w.measured)
    (printed : v.printed = w.printed) : Underway c done v where
  toLeavable := h.toLeavable.grows grows live
  sound := sound
  phase := phase.trans h.phase
  count := measured ▸ h.count
  faultless := h.faultless.congr measured
  reported := by
    unfold World.Reported
    rw [measured, printed]
    exact h.reported

/-- All sources before number `number` have been measured. -/
structure AtFile (c : Config) (sources : List (Path × String)) (number : Nat) (w : World σ) : Prop
    extends Underway c (placesOf (sources.take number)).length w where
  fresh : ∀ n, number ≤ n → w.version n = firstVersion

/-- Neither the clock nor warnings matter. -/
theorem AtFile.noted {number : Nat} (h : AtFile c sources number w) (clock : List Seconds)
    (warnings : List String) :
    AtFile c sources number { w with clock, loop.session.warnings := warnings } where
  toUnderway := by
    obtain ⟨told, live⟩ := h.live
    refine h.toUnderway.keeps (.noted w clock warnings) ((live.noted warnings).of_loop rfl) ?_
      rfl rfl rfl
    exact h.sound.congr ⟨rfl, rfl, rfl, rfl, rfl⟩
  fresh := h.fresh

/-- A document is being measured, and its `k`-th candidate is next. -/
structure Between (c : Config) (sources : List (Path × String)) (d : Document) (k : Nat)
    (w : World σ) : Prop
    extends Underway c ((placesOf (sources.take d.number)).length + k) w where
  version : w.version d.number + 1 = 2 * (k + 1 : Nat)
  later : ∀ n, d.number < n → w.version n = firstVersion

variable {d : Document} {k : Nat} {candidate : Probe.Candidate}

section

variable {p : Probing} {told : List Members} {q : Question d candidate} {answer : Outcome}
  {clock : List Seconds}

/-- A candidate has been measured without a failure, and its line is printed. -/
theorem Between.next (h : Between c sources d k w)
    (restored : Probing.Restored serve p c.timeout told d (k + 1) q answer w v)
    (grows : w.Grows { v with clock, phase := .idle }) {m : Measurement} {line : String}
    (faultless : m.error = none) (written : m.report c.format = .ok line) :
    Between c sources d (k + 1)
      { v with
        clock, phase := .idle, measured := v.measured ++ [m], printed := v.printed ++ [line] } where
  toLeavable := (h.toLeavable.grows grows (restored.live.of_loop rfl)).of_loop rfl
  sound := (restored.exchange h.sound).2
  phase := rfl
  count := by
    show (v.measured ++ [m]).length = _
    rw [restored.spares.measured, List.length_append, h.count]
    rfl
  faultless := h.faultless.append faultless (congrArg (· ++ [m]) restored.spares.measured)
  reported := by
    show (v.measured ++ [m]).map (·.report c.format) = (v.printed ++ [line]).map Except.ok
    rw [restored.spares.measured, restored.spares.printed, List.map_append, List.map_append,
      h.reported]
    simp [written]
  version := by
    have version := restored.version
    show v.version d.number + 1 = _
    omega
  later n later := (restored.spares.versions n (by omega)).trans (h.later n later)

end

end Benchmark

end ProbeBench
