import ProbeBench.Bench.Benchmark

/-!
# What a benchmark sees of its server

All that a benchmark gets to know of its server are the outcomes of its calls. Two sessions may
differ in whatever else goes on there; where calls end alike on both (`Mirrors`), two benchmarks of
the same sources with the same readings of the clock measure the same, report the same, and end
alike.

Runs on both sides are related (`Run.Mirrored`) as long as no call waits for ever.

* `Mirrored.bind`, `Mirrored.attempt`: runs one after the other.
* `Mirrors.probe`, `Mirrors.probeEach`, `Mirrors.measureFiles`: from a probe to all files.
* `Mirrors.measureAll`: the result.
-/

namespace ProbeBench

variable {σ τ α β : Type}

/-- Keeps a warning among those of the session. -/
def Loop.noting (l : Loop σ) (text : String) : Loop σ :=
  { l with session.warnings := l.session.warnings ++ [text] }

/-- Calls end alike on two loops that are related, and go on doing so until one waits for ever. -/
structure Mirrors (serve : Server σ) (serve' : Server τ) (R : Loop σ → Loop τ → Prop) : Prop where
  ends : ∀ {l l'}, R l l' → ∀ call, (l'.perform serve' call).2 = (l.perform serve call).2
  goesOn : ∀ {l l'}, R l l' → ∀ call, (l.perform serve call).2 ≠ none →
    R (l.perform serve call).1 (l'.perform serve' call).1
  notes : ∀ {l l'}, R l l' → ∀ text, R (l.noting text) (l'.noting text)

/-- Two worlds that differ in nothing but their loops, which are related. -/
structure World.Mirrored (R : Loop σ → Loop τ → Prop) (w : World σ) (w' : World τ) : Prop where
  loop : R w.loop w'.loop
  clock : w'.clock = w.clock
  phase : w'.phase = w.phase
  warns : w'.warns = w.warns
  versions : w'.versions = w.versions
  measured : w'.measured = w.measured
  printed : w'.printed = w.printed

/-- Two runs that end alike, with the same measurements and the same report, and leave worlds alike
unless they wait for ever. -/
structure Run.Mirrored (R : Loop σ → Loop τ → Prop) (x : Run σ α) (x' : Run τ α) (w : World σ)
    (w' : World τ) : Prop where
  result : (x' w').1 = (x w).1
  measured : (x' w').2.measured = (x w).2.measured
  printed : (x' w').2.printed = (x w).2.printed
  left : (x w).1 ≠ .error .hung → (x w).2.Mirrored R (x' w').2

namespace Run

variable {R : Loop σ → Loop τ → Prop} {w : World σ} {w' : World τ}

/-- Runs that leave worlds alike in any case. -/
theorem Mirrored.of_left {x : Run σ α} {x' : Run τ α} (result : (x' w').1 = (x w).1)
    (left : (x w).2.Mirrored R (x' w').2) : Mirrored R x x' w w' :=
  ⟨result, left.measured, left.printed, fun _ => left⟩

/-- Runs that come to the same as two that end alike. -/
theorem Mirrored.of_eq {x y : Run σ α} {x' y' : Run τ α} {v : World σ} {v' : World τ}
    (h : Mirrored R y y' v v') (same : x w = y v) (same' : x' w' = y' v') :
    Mirrored R x x' w w' := by
  refine ⟨?_, ?_, ?_, ?_⟩
  · rw [same, same']
    exact h.result
  · rw [same, same']
    exact h.measured
  · rw [same, same']
    exact h.printed
  · rw [same, same']
    exact h.left

theorem Mirrored.pure (h : w.Mirrored R w') (a : α) :
    Mirrored R (Pure.pure a : Run σ α) (Pure.pure a) w w' :=
  .of_left rfl h

theorem Mirrored.stop (h : w.Mirrored R w') (e : Stop) :
    Mirrored R (Run.stop e : Run σ α) (Run.stop e) w w' :=
  .of_left rfl h

/-- Where the first runs end early, both do. -/
theorem Mirrored.bind_error {x : Run σ α} {x' : Run τ α} (h : Mirrored R x x' w w') {e : Stop}
    (stopped : (x w).1 = .error e) (f : α → Run σ β) (f' : α → Run τ β) :
    Mirrored R (x >>= f) (x' >>= f') w w' := by
  have ended : x w = (.error e, (x w).2) := Prod.ext stopped rfl
  have ended' : x' w' = (.error e, (x' w').2) := Prod.ext (h.result.trans stopped) rfl
  have same : (x >>= f) w = (.error e, (x w).2) := run_bind_error ended
  have same' : (x' >>= f') w' = (.error e, (x' w').2) := run_bind_error ended'
  refine ⟨by rw [same, same'], by rw [same, same']; exact h.measured,
    by rw [same, same']; exact h.printed, fun ne => ?_⟩
  rw [same] at ne ⊢
  rw [same']
  exact h.left (stopped ▸ fun hung => ne (by cases hung; rfl))

/-- **Runs one after the other** end alike if each of them does. -/
theorem Mirrored.bind {x : Run σ α} {x' : Run τ α} {f : α → Run σ β} {f' : α → Run τ β}
    (h : Mirrored R x x' w w')
    (next : ∀ {v v'}, v.Mirrored R v' → ∀ a, Mirrored R (f a) (f' a) v v') :
    Mirrored R (x >>= f) (x' >>= f') w w' := by
  cases ended : (x w).1 with
  | error e => exact h.bind_error ended f f'
  | ok a =>
    have done : x w = (.ok a, (x w).2) := Prod.ext ended rfl
    have done' : x' w' = (.ok a, (x' w').2) := Prod.ext (h.result.trans ended) rfl
    have same : (x >>= f) w = f a (x w).2 := run_bind_ok done
    have same' : (x' >>= f') w' = f' a (x' w').2 := run_bind_ok done'
    exact (next (h.left (by rw [ended]; exact fun e => by cases e)) a).of_eq same same'

/-- Runs that go on with what a run has ended with, and stop as well if it waits for ever. -/
theorem Mirrored.attempt {x : Run σ α} {x' : Run τ α} {f : Except Stop α → Run σ β}
    {f' : Except Stop α → Run τ β} (h : Mirrored R x x' w w')
    (hung : f (.error .hung) = Run.stop .hung) (hung' : f' (.error .hung) = Run.stop .hung)
    (next : ∀ {v v'}, v.Mirrored R v' → ∀ r, Mirrored R (f r) (f' r) v v') :
    Mirrored R (Run.attempt x >>= f) (Run.attempt x' >>= f') w w' := by
  have same : (Run.attempt x >>= f) w = f (x w).1 (x w).2 := rfl
  have same' : (Run.attempt x' >>= f') w' = f' (x w).1 (x' w').2 := by
    rw [← h.result]
    rfl
  by_cases waits : (x w).1 = .error .hung
  · rw [waits] at same same'
    rw [hung] at same
    rw [hung'] at same'
    refine ⟨by rw [same, same']; rfl, by rw [same, same']; exact h.measured,
      by rw [same, same']; exact h.printed, fun ne => absurd ?_ ne⟩
    rw [same]
    rfl
  · exact (next (h.left waits) (x w).1).of_eq same same'

theorem Mirrored.lift (h : w.Mirrored R w') (r : Except Failure α) :
    Mirrored R (Run.lift r) (Run.lift r) w w' := by
  cases r with
  | ok a => exact .pure h a
  | error f => exact .stop h (.failed f)

theorem Mirrored.read (h : w.Mirrored R w') {f : World σ → α} {f' : World τ → α}
    (same : f' w' = f w) : Mirrored R (Run.read f) (Run.read f') w w' :=
  .of_left (congrArg Except.ok same) h

theorem Mirrored.change {f : World σ → World σ} {f' : World τ → World τ}
    (same : (f w).Mirrored R (f' w')) : Mirrored R (Run.change f) (Run.change f') w w' :=
  .of_left rfl same

theorem Mirrored.enter (h : w.Mirrored R w') (phase : Phase) :
    Mirrored R (Run.enter phase) (Run.enter phase) w w' :=
  .change { h with phase := rfl }

theorem Mirrored.now (h : w.Mirrored R w') : Mirrored R Run.now Run.now w w' := by
  rcases shown : w.clock with _ | ⟨t, _ | ⟨u, rest⟩⟩
  · have reads : Run.now w = (.ok (.real 0.0), w) := by rw [Run.now, shown]
    have reads' : Run.now w' = (.ok (.real 0.0), w') := by rw [Run.now, h.clock, shown]
    exact .of_left (by rw [reads, reads']) (by rw [reads, reads']; exact h)
  · have reads : Run.now w = (.ok t, w) := by rw [Run.now, shown]
    have reads' : Run.now w' = (.ok t, w') := by rw [Run.now, h.clock, shown]
    exact .of_left (by rw [reads, reads']) (by rw [reads, reads']; exact h)
  · have reads : Run.now w = (.ok t, { w with clock := u :: rest }) := by rw [Run.now, shown]
    have reads' : Run.now w' = (.ok t, { w' with clock := u :: rest }) := by
      rw [Run.now, h.clock, shown]
    exact .of_left (by rw [reads, reads']) (by rw [reads, reads']; exact { h with clock := rfl })

end Run

variable {serve : Server σ} {serve' : Server τ} {R : Loop σ → Loop τ → Prop} {w : World σ}
  {w' : World τ}

namespace Mirrors

open Run (Mirrored)

/-- **A call** ends alike on both sides. -/
theorem perform (m : Mirrors serve serve' R) (h : w.Mirrored R w') (call : Call) :
    Mirrored R (Run.perform serve call) (Run.perform serve' call) w w' := by
  have ends := m.ends h.loop call
  refine ⟨?_, h.measured, h.printed, fun goes => ?_⟩
  · unfold Run.perform
    simp only [ends]
  · refine { h with loop := m.goesOn h.loop call fun hung => goes ?_ }
    unfold Run.perform
    simp only [hung, Run.ofOutcome]

theorem notify (m : Mirrors serve serve' R) (h : w.Mirrored R w') (method : String)
    (params : Json) :
    Mirrored R (Run.notify serve method params) (Run.notify serve' method params) w w' :=
  (m.perform h (.notify method params)).bind fun h _ => .pure h ()

theorem warn (m : Mirrors serve serve' R) (h : w.Mirrored R w') (text : String) :
    Mirrored R (Run.warn text) (Run.warn text) w w' := by
  refine .change ?_
  by_cases kept : w.warns
  · rw [if_pos kept, if_pos (h.warns.trans kept)]
    exact { h with loop := m.notes h.loop text }
  · rw [if_neg kept, if_neg (h.warns ▸ kept)]
    exact h

theorem version (h : w.Mirrored R w') (number : Nat) : w'.version number = w.version number := by
  rw [World.version, h.versions, World.version]

theorem nextVersion (h : w.Mirrored R w') (d : Document) :
    Mirrored R d.nextVersion d.nextVersion w w' := by
  refine Mirrored.bind (.change ?_) fun h _ => .read h (version h d.number)
  refine { h with versions := ?_ }
  rw [World.setVersion, World.setVersion, version h, h.versions]

theorem open_ (m : Mirrors serve serve' R) (h : w.Mirrored R w') (d : Document) :
    Mirrored R (d.open_ serve) (d.open_ serve') w w' := by
  refine Mirrored.bind (.read h (version h d.number)) fun h first => ?_
  refine Mirrored.bind (.lift h _) fun h _ => ?_
  refine Mirrored.bind (.lift h _) fun h params => ?_
  exact m.notify h _ params

theorem replace (m : Mirrors serve serve' R) (h : w.Mirrored R w') (d : Document) (text : String) :
    Mirrored R (d.replace serve text) (d.replace serve' text) w w' := by
  refine Mirrored.bind (nextVersion h d) fun h version => ?_
  refine Mirrored.bind (.lift h _) fun h params => ?_
  exact (m.notify h _ params).bind fun h _ => .pure h version

theorem close (m : Mirrors serve serve' R) (h : w.Mirrored R w') (d : Document) :
    Mirrored R (d.close serve) (d.close serve') w w' := by
  refine Mirrored.bind (.lift h _) fun h params => ?_
  exact m.notify h _ params

theorem query (m : Mirrors serve serve' R) (h : w.Mirrored R w') (p : Probing) (d : Document)
    (line character : Int) :
    Mirrored R (Probing.query serve p d line character) (Probing.query serve' p d line character)
      w w' := by
  refine Mirrored.bind (.lift h _) fun h params => ?_
  refine (m.perform h _).attempt rfl rfl fun h r => ?_
  cases r with
  | ok v => exact .pure h _
  | error e =>
    cases e with
    | hung => exact .stop h _
    | failed f =>
      dsimp only
      split
      · exact .pure h _
      · exact .stop h _

theorem conclude (m : Mirrors serve serve' R) (h : w.Mirrored R w') (p : Probing) (d : Document)
    (c : Probe.Candidate) (started : Seconds) (answer : Except Failure Json) :
    Mirrored R (Probing.conclude p d c started answer) (Probing.conclude p d c started answer)
      w w' := by
  refine Mirrored.bind (.now h) fun h ended => ?_
  refine Mirrored.bind (.lift h _) fun h elapsed => ?_
  refine Mirrored.bind (.enter h _) fun h _ => ?_
  cases answer with
  | ok v => exact .pure h _
  | error f =>
    dsimp only
    split
    · exact .stop h _
    · exact (m.warn h _).bind fun h _ => .pure h _

/-- **A probe** measures the same on both sides. -/
theorem probe (m : Mirrors serve serve' R) (h : w.Mirrored R w') (p : Probing) (d : Document)
    (c : Probe.Candidate) :
    Mirrored R (Probing.probe serve p d c) (Probing.probe serve' p d c) w w' := by
  refine Mirrored.bind (.read h h.phase) fun h phase => ?_
  refine Mirrored.bind (.lift h _) fun h _ => ?_
  refine Mirrored.bind (.lift h _) fun h spot => ?_
  refine Mirrored.bind (.lift h _) fun h _ => ?_
  refine Mirrored.bind (.now h) fun h started => ?_
  refine Mirrored.bind (m.replace h d _) fun h _ => ?_
  refine Mirrored.bind (.enter h _) fun h _ => ?_
  refine Mirrored.bind (.enter h _) fun h _ => ?_
  refine Mirrored.bind (m.query h p d _ _) fun h answer => ?_
  refine Mirrored.bind (.enter h _) fun h _ => ?_
  refine Mirrored.bind (m.replace h d d.text) fun h _ => ?_
  exact m.conclude h p d c started answer

/-- A measurement is kept and reported alike. -/
theorem reportTo (h : w.Mirrored R w') (format : Format) (measurement : Measurement) :
    Mirrored R (Benchmark.reportTo format measurement) (Benchmark.reportTo format measurement)
      w w' := by
  refine Mirrored.bind (.change { h with measured := ?_ }) fun h _ => ?_
  · rw [h.measured]
  · refine Mirrored.bind (.lift h _) fun h line => ?_
    refine .change { h with printed := ?_ }
    rw [h.printed]

theorem probeEach (m : Mirrors serve serve' R) (p : Probing) (d : Document) (format : Format)
    (cs : List Probe.Candidate) {w : World σ} {w' : World τ} (h : w.Mirrored R w') :
    Mirrored R (Probing.probeEach serve p d (Benchmark.reportTo format) cs)
      (Probing.probeEach serve' p d (Benchmark.reportTo format) cs) w w' := by
  induction cs generalizing w w' with
  | nil => exact .pure h 0
  | cons c rest ih =>
    refine Mirrored.bind (m.probe h p d c) fun h measurement => ?_
    refine Mirrored.bind (reportTo h format measurement) fun h _ => ?_
    exact Mirrored.bind (ih h) fun h n => .pure h (n + 1)

theorem measureFile (m : Mirrors serve serve' R) (h : w.Mirrored R w') (c : Config)
    (d : Document) :
    Mirrored R (Benchmark.measureFile serve c d) (Benchmark.measureFile serve' c d) w w' := by
  refine Mirrored.bind (m.open_ h d) fun h _ => ?_
  refine Mirrored.bind (m.probeEach _ d c.format _ h) fun h n => ?_
  exact Mirrored.bind (m.close h d) fun h _ => .pure h n

theorem measureFiles (m : Mirrors serve serve' R) (cwd : Path) (c : Config)
    (sources : List (Path × String)) (number : Nat) {w : World σ} {w' : World τ}
    (h : w.Mirrored R w') :
    Mirrored R (Benchmark.measureFiles serve cwd c number sources)
      (Benchmark.measureFiles serve' cwd c number sources) w w' := by
  induction sources generalizing number w w' with
  | nil => exact .pure h 0
  | cons source rest ih =>
    refine Mirrored.bind (.lift h _) fun h d => ?_
    refine Mirrored.bind (m.measureFile h c d) fun h n => ?_
    exact Mirrored.bind (ih (number + 1) h) fun h k => .pure h (n + k)

/-- **A whole benchmark** measures and reports the same on both sides. -/
theorem measureAll (m : Mirrors serve serve' R) (h : w.Mirrored R w') (s : Surroundings)
    (c : Config) (sources : List (Path × String)) :
    Mirrored R (Benchmark.measureAll serve s c sources) (Benchmark.measureAll serve' s c sources)
      w w' := by
  refine Mirrored.bind (m.measureFiles s.cwd c sources 0 h) fun h n => ?_
  exact (m.perform h _).bind fun h _ => .pure h n

end Mirrors

end ProbeBench
