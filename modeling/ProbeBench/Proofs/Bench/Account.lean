import ProbeBench.Proofs.Bench.Script
import ProbeBench.Proofs.Loop.Answer

/-!
# What measurements are to be

The course of a benchmark and the measurements it hands over, world by world: every probe edits the
document, asks, waits for the answer and gives the document its text again, all of that before its
measurement is handed over and before the next probe begins. What is measured is the server's answer
to the request of this very probe (`Replies`), whatever else has arrived in the meantime.

* `Exchange`: the calls of one probe.
* `ProbeMeasured`, `ProbesMeasured`, `FileMeasured`, `FilesMeasured`: from a probe to all files.
* `Halts`: why a run stops early.
* `ProbesMeasured.covers`, `FilesMeasured.covers`: every candidate is measured once, in order.
-/

namespace ProbeBench

variable {σ : Type}

/-- The request that was told last waits for ever. -/
def World.Hangs (serve : Server σ) (seconds : Option Float) (w : World σ) : Prop :=
  ∃ id method params, w.loop.session.told.getLast? = some (requestMessage id method params) ∧
    w.loop.Hangs serve id method seconds

/-- The call that gives a document another text. -/
def Document.changing (d : Document) (version : Int) (text : String) : Call :=
  .notify "textDocument/didChange" (.obj
    [("textDocument", .obj [("version", .int version), ("uri", .str d.uri)]),
      ("contentChanges", .arr [.obj [("text", .str text)]])])

/-- The call that asks a question. -/
def Question.call {d : Document} {c : Probe.Candidate} (q : Question d c) (mode : Probe.Mode) :
    Call :=
  .request (Probing.method mode) (.obj [("textDocument", .obj [("uri", .str d.uri)]),
    ("position", .obj [("line", .int q.line), ("character", .int q.character)])]) .inherited

/-- The `i`-th probe of a document as the server sees it. The text is edited, the question is asked
under the next id, and the document's own text is given back; the answer is what arrives for this
request while it is pending, or that nothing does until its time is over. -/
inductive Exchange (serve : Server σ) (p : Probing) (seconds : Option Float) (d : Document)
    (i : Nat) {c : Probe.Candidate} (q : Question d c) (answer : Outcome) :
    Loop σ → Loop σ → Prop
  | intro {before edited asked reverted : Loop σ}
      (edits : before.perform serve (d.changing (2 * i) (d.probed p.mode c)) =
        (edited, some (.ok .null)))
      (id : q.id = edited.session.nextId)
      (asks : edited.perform serve (q.call p.mode) = (asked, some answer))
      (replies : Replies q.id (Probing.method p.mode) seconds
        (edited.arrivedDuring serve (q.call p.mode)) answer)
      (reverts : asked.perform serve (d.changing (2 * i + 1) d.text) =
        (reverted, some (.ok .null)))
      (told : reverted.session.told = before.session.told ++ p.telling d i q answer) :
      Exchange serve p seconds d i q answer before reverted

/-- The same loop, but for the warnings that are kept. -/
def Loop.SameButWarnings (l l' : Loop σ) : Prop :=
  ∃ warnings, l' = { l with session.warnings := warnings }

/-- The milliseconds from a reading of the clock to its next one. -/
def World.lap (w : World σ) (started : Seconds) : Except Stop Float :=
  ((Run.now >>= fun ended => Run.lift (ended.since started >>= Seconds.toMilliseconds)) w).1

theorem Loop.SameButWarnings.table {l l' : Loop σ} (h : l.SameButWarnings l') :
    Session.SameTable l.session l'.session := by
  obtain ⟨warnings, rfl⟩ := h
  exact ⟨rfl, rfl, rfl, rfl, rfl⟩

/-- The `i`-th probe of a document leads from one world to another one and gives a measurement of
the answer. -/
inductive ProbeMeasured (serve : Server σ) (p : Probing) (seconds : Option Float) (d : Document)
    (i : Nat) (c : Probe.Candidate) (w : World σ) : Measurement → World σ → Prop
  | intro (q : Question d c) {answer : Outcome} {started : Seconds} {elapsed : Float}
      {u v : World σ} {reverted : Loop σ}
      (exchange : Exchange serve p seconds d i q answer w.loop reverted)
      (same : reverted.SameButWarnings v.loop) (begins : Run.now w = (.ok started, u))
      (ends : u.lap started = .ok elapsed)
      (runs : Probing.probe serve p d c w = (.ok (Probing.measured d c elapsed answer), v)) :
      ProbeMeasured serve p seconds d i c w (Probing.measured d c elapsed answer) v

/-- Why a run stops at a probe that leads from one world to another one: its request waits for ever,
or the clock shows readings between which no time can be told. -/
inductive Halts (serve : Server σ) (seconds : Option Float) (w v : World σ) : Stop → Prop
  | hung (waits : v.Hangs serve seconds) : Halts serve seconds w v .hung
  | untimed {started : Seconds} {u : World σ} {failure : Failure}
      (begins : Run.now w = (.ok started, u)) (ends : u.lap started = .error (.failed failure)) :
      Halts serve seconds w v (.failed failure)

/-- Probes of a document from the `i`-th one on, each of which is handed over before the next one
begins: what they measure, and how they end. -/
inductive ProbesMeasured (serve : Server σ) (p : Probing) (seconds : Option Float) (format : Format)
    (d : Document) :
    Nat → List Probe.Candidate → World σ → List Measurement → Except Stop Nat → World σ → Prop
  | done {i : Nat} {w : World σ} : ProbesMeasured serve p seconds format d i [] w [] (.ok 0) w
  | next {i : Nat} {c : Probe.Candidate} {rest : List Probe.Candidate} {w v u w' : World σ}
      {m : Measurement} {ms : List Measurement} {r : Except Stop Nat}
      (probe : ProbeMeasured serve p seconds d i c w m v)
      (report : Benchmark.reportTo format m v = (.ok (), u)) (same : u.loop = v.loop)
      (later : ProbesMeasured serve p seconds format d (i + 1) rest u ms r w') :
      ProbesMeasured serve p seconds format d i (c :: rest) w (m :: ms) (r.map (· + 1)) w'
  | stopped {i : Nat} {c : Probe.Candidate} {rest : List Probe.Candidate} {w v : World σ} {e : Stop}
      (probe : Probing.probe serve p d c w = (.error e, v)) (cause : Halts serve seconds w v e) :
      ProbesMeasured serve p seconds format d i (c :: rest) w [] (.error e) v
  /-- The duration of a probe cannot be written. -/
  | unreported {i : Nat} {c : Probe.Candidate} {rest : List Probe.Candidate} {w v u : World σ}
      {m : Measurement} {failure : Failure} (probe : ProbeMeasured serve p seconds d i c w m v)
      (report : Benchmark.reportTo format m v = (.error (.failed failure), u))
      (clock : m.elapsed.round = .error failure) :
      ProbesMeasured serve p seconds format d i (c :: rest) w [m] (.error (.failed failure)) u

/-- A document is opened, probed and closed. -/
inductive FileMeasured (serve : Server σ) (c : Config) (d : Document) (w : World σ) :
    List Measurement → Except Stop Nat → World σ → Prop
  | done {v u w' : World σ} {ms : List Measurement} {n : Nat}
      (opens : d.open_ serve w = (.ok (), v))
      (probes : ProbesMeasured serve ⟨c.mode, c.onError⟩ c.timeout c.format d 1
        (Probe.candidates d.lines) v ms (.ok n) u)
      (closes : d.close serve u = (.ok (), w')) : FileMeasured serve c d w ms (.ok n) w'
  | stopped {v u : World σ} {ms : List Measurement} {e : Stop}
      (opens : d.open_ serve w = (.ok (), v))
      (probes : ProbesMeasured serve ⟨c.mode, c.onError⟩ c.timeout c.format d 1
        (Probe.candidates d.lines) v ms (.error e) u) : FileMeasured serve c d w ms (.error e) u

/-- Files are measured in turn, the first of which is document `number`. -/
inductive FilesMeasured (serve : Server σ) (cwd : Path) (c : Config) :
    Nat → List (Path × String) → World σ → List Measurement → Except Stop Nat → World σ → Prop
  | done {number : Nat} {w : World σ} : FilesMeasured serve cwd c number [] w [] (.ok 0) w
  | next {number : Nat} {path : Path} {text : String} {rest : List (Path × String)} {d : Document}
      {w v w' : World σ} {ms ms' : List Measurement} {n : Nat} {r : Except Stop Nat}
      (document : Document.ofFile cwd number path c.language text = .ok d)
      (file : FileMeasured serve c d w ms (.ok n) v)
      (later : FilesMeasured serve cwd c (number + 1) rest v ms' r w') :
      FilesMeasured serve cwd c number ((path, text) :: rest) w (ms ++ ms') (r.map (n + ·)) w'
  | stopped {number : Nat} {path : Path} {text : String} {rest : List (Path × String)}
      {d : Document} {w v : World σ} {ms : List Measurement} {e : Stop}
      (document : Document.ofFile cwd number path c.language text = .ok d)
      (file : FileMeasured serve c d w ms (.error e) v) :
      FilesMeasured serve cwd c number ((path, text) :: rest) w ms (.error e) v
  /-- The path is none that a file can have. -/
  | nowhere {number : Nat} {path : Path} {text : String} {rest : List (Path × String)} {w : World σ}
      {failure : Failure} (null : path.holdsNull = true)
      (document : Document.ofFile cwd number path c.language text = .error failure) :
      FilesMeasured serve cwd c number ((path, text) :: rest) w [] (.error (.failed failure)) w

/-! ## Every candidate once, in order -/

/-- Where a measurement was made: file, line and column. -/
def Measurement.place (m : Measurement) : String × Int × Int := (m.file, m.line, m.column)

/-- The places of a file's candidates, in the order of its text. -/
def placesIn (path : Path) (text : String) : List (String × Int × Int) :=
  (Probe.candidates (.ofText text.toList)).map fun c => (path.text, c.line, c.column)

/-- The places of the candidates of all files, in their order. -/
def placesOf (sources : List (Path × String)) : List (String × Int × Int) :=
  sources.flatMap fun (path, text) => placesIn path text

/-- What has been measured of so many places: all of them, or, if it was stopped, the first ones. -/
def Covers (places : List (String × Int × Int)) (ms : List Measurement) : Except Stop Nat → Prop
  | .ok n => n = ms.length ∧ ms.map Measurement.place = places
  | .error _ => ms.map Measurement.place <+: places

theorem place_measured (d : Document) (c : Probe.Candidate) (elapsed : Float) (answer : Outcome) :
    (Probing.measured d c elapsed answer).place = (d.path.text, c.line, c.column) := by
  cases answer <;> rfl

theorem ProbeMeasured.place {serve : Server σ} {p : Probing} {seconds : Option Float} {d : Document}
    {i : Nat} {c : Probe.Candidate} {w v : World σ} {m : Measurement}
    (h : ProbeMeasured serve p seconds d i c w m v) :
    m.place = (d.path.text, c.line, c.column) := by
  cases h with
  | intro q elapsed => exact place_measured _ _ _ _

/-- **Every candidate of a document is measured once, in the order of its text.** -/
theorem ProbesMeasured.covers {serve : Server σ} {p : Probing} {seconds : Option Float}
    {format : Format} {d : Document} {i : Nat} {cs : List Probe.Candidate} {w w' : World σ}
    {ms : List Measurement} {r : Except Stop Nat}
    (h : ProbesMeasured serve p seconds format d i cs w ms r w') :
    Covers (cs.map fun c => (d.path.text, c.line, c.column)) ms r := by
  induction h with
  | done => exact ⟨rfl, rfl⟩
  | @next _ _ _ _ _ _ _ _ _ r probe _ _ _ ih =>
    cases r with
    | ok n =>
      obtain ⟨count, places⟩ := ih
      refine ⟨congrArg (· + 1) count, ?_⟩
      rw [List.map_cons, List.map_cons, probe.place, places]
    | error e =>
      show List.map Measurement.place _ <+: _
      rw [List.map_cons, List.map_cons, probe.place]
      exact (List.prefix_cons_inj _).mpr ih
  | stopped => exact List.nil_prefix
  | unreported probe =>
    show List.map Measurement.place _ <+: _
    rw [List.map_cons, List.map_cons, probe.place]
    exact (List.prefix_cons_inj _).mpr List.nil_prefix

theorem FileMeasured.covers {serve : Server σ} {c : Config} {d : Document} {w w' : World σ}
    {ms : List Measurement} {r : Except Stop Nat} (h : FileMeasured serve c d w ms r w') :
    Covers (placesIn d.path d.text) ms r := by
  cases h with
  | done _ probes => exact probes.covers
  | stopped _ probes => exact probes.covers

/-- **Every candidate of all files is measured once**, in the order of the files and their texts. -/
theorem FilesMeasured.covers {serve : Server σ} {cwd : Path} {c : Config} {number : Nat}
    {sources : List (Path × String)} {w w' : World σ} {ms : List Measurement}
    {r : Except Stop Nat} (h : FilesMeasured serve cwd c number sources w ms r w') :
    Covers (placesOf sources) ms r := by
  have named {number : Nat} {path : Path} {text : String} {d : Document}
      (hd : Document.ofFile cwd number path c.language text = .ok d) :
      placesIn d.path d.text = placesIn path text := by
    rw [Document.of_ofFile hd]
  induction h with
  | done => exact ⟨rfl, rfl⟩
  | @next _ _ _ _ _ _ _ _ _ _ _ r document file _ ih =>
    obtain ⟨count, places⟩ := file.covers
    rw [named document] at places
    cases r with
    | ok m =>
      obtain ⟨count', places'⟩ := ih
      constructor
      · rw [List.length_append, ← count, ← count']
      · rw [List.map_append, places, places']
        rfl
    | error e =>
      show List.map Measurement.place _ <+: _
      rw [List.map_append, places]
      exact (List.prefix_append_right_inj _).mpr ih
  | stopped document file =>
    have first : _ <+: _ := file.covers
    rw [named document] at first
    exact first.trans (List.prefix_append _ _)
  | nowhere => exact List.nil_prefix

end ProbeBench
