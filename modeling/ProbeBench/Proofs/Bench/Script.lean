import ProbeBench.Bench.Benchmark
import ProbeBench.Proofs.Session.Live

/-!
# What a server is to be told of documents

The messages about documents that a benchmark should write, with the measurements it gives and the
way it ends. They depend on nothing but the sources, the mode, the policy and what the server makes
of each request.

* `ProbeTells`: one probe edits the document, asks, withdraws the request if it was not answered in
  time, and gives the document its own text again.
* `ProbesTell`: a document is probed at candidates in turn. A run that stops early stops behind a
  probe, unless a request is never answered and has no limit.
* `FileTells`, `FilesTell`: every document is opened, probed and closed before the next one.
-/

namespace ProbeBench

namespace Document

/-- The message that opens a document. -/
def opened (d : Document) : Members :=
  notification "textDocument/didOpen" (.obj [("textDocument",
    .obj [("uri", .str d.uri), ("languageId", .str d.language), ("version", .int firstVersion),
      ("text", .str d.text)])])

/-- The message that gives a document another text. -/
def changed (d : Document) (version : Int) (text : String) : Members :=
  notification "textDocument/didChange" (.obj
    [("textDocument", .obj [("version", .int version), ("uri", .str d.uri)]),
      ("contentChanges", .arr [.obj [("text", .str text)]])])

/-- The message that closes a document. -/
def closed (d : Document) : Members :=
  notification "textDocument/didClose" (.obj [("textDocument", .obj [("uri", .str d.uri)])])

/-- What the document of a file is, if there is one. -/
theorem of_ofFile {cwd path : Path} {number : Nat} {language text : String} {d : Document}
    (h : ofFile cwd number path language text = .ok d) :
    d = ⟨number, path, (path.resolve cwd).uri, language, text⟩ := by
  unfold ofFile Protocol.located at h
  split at h
  · cases h
  · cases h
    rfl

/-- The text that a probe shows the server. -/
def probed (d : Document) (mode : Probe.Mode) (c : Probe.Candidate) : String :=
  String.ofList (Probe.probeText d.text.toList c mode)

end Document

/-- What the server is asked at a candidate: a request, and the candidate's position as the protocol
writes it. -/
structure Question (d : Document) (c : Probe.Candidate) where
  id : Nat
  line : Int
  character : Nat
  spot : Probe.spot? d.lines c = some (line, character)

/-- The request. -/
def Question.message {d : Document} {c : Probe.Candidate} (q : Question d c) (mode : Probe.Mode) :
    Members :=
  requestMessage q.id (Probing.method mode) (.obj [("textDocument", .obj [("uri", .str d.uri)]),
    ("position", .obj [("line", .int q.line), ("character", .int q.character)])])

namespace Probing

/-- What the `i`-th probe of a document tells the server until it is answered. -/
def asking (p : Probing) (d : Document) (i : Nat) {c : Probe.Candidate} (q : Question d c) :
    List Members :=
  [d.changed (2 * i) (d.probed p.mode c), q.message p.mode]

/-- What the `i`-th probe of a document tells the server. -/
def telling (p : Probing) (d : Document) (i : Nat) {c : Probe.Candidate} (q : Question d c)
    (answer : Outcome) : List Members :=
  p.asking d i q ++ cancellations q.id answer ++ [d.changed (2 * i + 1) d.text]

/-- The measurement of a probe by the answer of the server. -/
def measured (d : Document) (c : Probe.Candidate) (elapsed : Float) : Outcome → Measurement
  | .ok v => measurement d c elapsed (Protocol.resultCount v) none
  | .error f => measurement d c elapsed 0 (some f.message)

/-- Whether a run goes on behind a probe with this answer. -/
def goesOn (p : Probing) : Outcome → Prop
  | .ok _ => True
  | .error _ => p.policy = .skip

end Probing

/-- What the `i`-th probe of a document tells, and how it ends. -/
inductive ProbeTells (p : Probing) (d : Document) (i : Nat) (c : Probe.Candidate) :
    List Members → Except Stop Measurement → Prop
  /-- It is measured. -/
  | measured (q : Question d c) {answer : Outcome} (reply : IsReply answer) (goes : p.goesOn answer)
      (elapsed : Float) :
      ProbeTells p d i c (p.telling d i q answer) (.ok (Probing.measured d c elapsed answer))
  /-- It fails, and the run is to end with the first failure. -/
  | aborted (q : Question d c) {failure : Failure} (reply : IsReply (.error failure))
      (abort : p.policy = .abort) :
      ProbeTells p d i c (p.telling d i q (.error failure)) (.error (.failed failure))
  /-- The clock shows readings between which no time can be told. -/
  | unmeasured (q : Question d c) {answer : Outcome} (reply : IsReply answer)
      {started ended : Seconds} {failure : Failure}
      (clock : ended.since started >>= Seconds.toMilliseconds = .error failure) :
      ProbeTells p d i c (p.telling d i q answer) (.error (.failed failure))
  /-- It waits for ever. -/
  | hung (q : Question d c) : ProbeTells p d i c (p.asking d i q) (.error .hung)

/-- What probes of a document from the `i`-th one on tell, what they measure, and how they end. -/
inductive ProbesTell (p : Probing) (d : Document) :
    Nat → List Probe.Candidate → List Members → List Measurement → Except Stop Nat → Prop
  | done {i : Nat} : ProbesTell p d i [] [] [] (.ok 0)
  | next {i : Nat} {c : Probe.Candidate} {rest : List Probe.Candidate} {told more : List Members}
      {m : Measurement} {ms : List Measurement} {r : Except Stop Nat}
      (probe : ProbeTells p d i c told (.ok m)) (later : ProbesTell p d (i + 1) rest more ms r) :
      ProbesTell p d i (c :: rest) (told ++ more) (m :: ms) (r.map (· + 1))
  | stopped {i : Nat} {c : Probe.Candidate} {rest : List Probe.Candidate} {told : List Members}
      {e : Stop} (probe : ProbeTells p d i c told (.error e)) :
      ProbesTell p d i (c :: rest) told [] (.error e)
  /-- The duration of a probe cannot be written. -/
  | unreported {i : Nat} {c : Probe.Candidate} {rest : List Probe.Candidate} {told : List Members}
      {m : Measurement} {failure : Failure} (probe : ProbeTells p d i c told (.ok m))
      (clock : m.elapsed.round = .error failure) :
      ProbesTell p d i (c :: rest) told [m] (.error (.failed failure))

/-- What a document tells from its opening to its closing, or until the run stops. -/
inductive FileTells (p : Probing) (d : Document) :
    List Members → List Measurement → Except Stop Nat → Prop
  | done {told : List Members} {ms : List Measurement} {n : Nat}
      (probes : ProbesTell p d 1 (Probe.candidates d.lines) told ms (.ok n)) :
      FileTells p d (d.opened :: (told ++ [d.closed])) ms (.ok n)
  | stopped {told : List Members} {ms : List Measurement} {e : Stop}
      (probes : ProbesTell p d 1 (Probe.candidates d.lines) told ms (.error e)) :
      FileTells p d (d.opened :: told) ms (.error e)

/-- What files tell in turn, the first of which is document `number`. -/
inductive FilesTell (cwd : Path) (c : Config) :
    Nat → List (Path × String) → List Members → List Measurement → Except Stop Nat → Prop
  | done {number : Nat} : FilesTell cwd c number [] [] [] (.ok 0)
  | next {number : Nat} {path : Path} {text : String} {rest : List (Path × String)} {d : Document}
      {told more : List Members} {ms ms' : List Measurement} {n : Nat} {r : Except Stop Nat}
      (document : Document.ofFile cwd number path c.language text = .ok d)
      (file : FileTells ⟨c.mode, c.onError⟩ d told ms (.ok n))
      (later : FilesTell cwd c (number + 1) rest more ms' r) :
      FilesTell cwd c number ((path, text) :: rest) (told ++ more) (ms ++ ms') (r.map (n + ·))
  | stopped {number : Nat} {path : Path} {text : String} {rest : List (Path × String)}
      {d : Document} {told : List Members} {ms : List Measurement} {e : Stop}
      (document : Document.ofFile cwd number path c.language text = .ok d)
      (file : FileTells ⟨c.mode, c.onError⟩ d told ms (.error e)) :
      FilesTell cwd c number ((path, text) :: rest) told ms (.error e)

end ProbeBench
