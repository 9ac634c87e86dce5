import ProbeBench.Bench.Document
import ProbeBench.Probe.Candidate

/-!
# Probing a document

One probe edits the document at a word, asks the server there, and gives the document its own text
again, whatever the server answered; its duration is the time from before the edit until after the
text was restored. A request that the server refuses or does not answer in time is a measurement
with an error under the policy `skip`, and the end of the run under `abort`. Any other failure ends
the run where it happens.
-/

namespace ProbeBench

/-- How documents are probed. -/
structure Probing where
  mode : Probe.Mode
  policy : Probe.Policy

namespace Probing

variable {σ : Type}

/-- The method that a mode asks for. -/
def method : Probe.Mode → String
  | .completion => "textDocument/completion"
  | .definition => "textDocument/definition"

/-- Whether a probe that fails in this way still gives the document its text again. -/
def isAnswer : Failure → Bool
  | .request .. => true
  | .timeout .. => true
  | _ => false

/-- Asks the server at a position of a document: its answer, or the failure it answered with. -/
def query (serve : Server σ) (p : Probing) (d : Document) (line character : Int) :
    Run σ (Except Failure Json) := do
  let params ← Run.lift (Protocol.atPosition (.str d.uri) (.int line) (.int character))
  match ← Run.attempt (Run.perform serve (.request (method p.mode) params .inherited)) with
  | .ok v => return .ok v
  | .error (.failed f) => if isAnswer f then return .error f else Run.fail f
  | .error .hung => Run.stop .hung

/-- The place of a candidate in a document, as reports show it. -/
def placeText (d : Document) (c : Probe.Candidate) : String :=
  d.path.text ++ ":" ++ toString c.line ++ ":" ++ toString c.column

/-- The measurement of a probe that took `elapsed` milliseconds. -/
def measurement (d : Document) (c : Probe.Candidate) (elapsed : Float) (count : Nat)
    (error : Option String) : Measurement :=
  ⟨d.path.text, c.line, c.column, .real elapsed, count, error⟩

/-- The end of a probe that began at `started`, once the text is restored: its measurement. -/
def conclude (p : Probing) (d : Document) (c : Probe.Candidate) (started : Seconds)
    (answer : Except Failure Json) : Run σ Measurement := do
  let ended ← Run.now
  let elapsed ← Run.lift (ended.since started >>= Seconds.toMilliseconds)
  Run.enter .idle
  match answer with
  | .ok v => return measurement d c elapsed (Protocol.resultCount v) none
  | .error f =>
    match p.policy with
    | .abort => Run.fail f
    | .skip =>
      Run.warn ("Request failed at " ++ placeText d c ++ ": " ++ f.message)
      return measurement d c elapsed 0 (some f.message)

/-- Probes a document at a candidate. -/
def probe (serve : Server σ) (p : Probing) (d : Document) (c : Probe.Candidate) :
    Run σ Measurement := do
  let phase ← Run.read (·.phase)
  Run.lift (require (phase = .idle) "probe started before the previous one was reverted"
    [("state", .str phase.name)])
  let (line, character) ← Run.lift ((Probe.spot? d.lines c).elim (.error .outside) .ok)
  let _ ← Run.lift (Protocol.position (.int line) (.int character))
  let started ← Run.now
  let _ ← d.replace serve (String.ofList (Probe.probeText d.text.toList c p.mode))
  Run.enter .edited
  Run.enter .awaiting
  let answer ← query serve p d line character
  Run.enter .reverting
  let _ ← d.restore serve
  conclude p d c started answer

/-- Probes a document at candidates in turn and takes each measurement with `take`; how many there
were. -/
def probeEach (serve : Server σ) (p : Probing) (d : Document) (take : Measurement → Run σ Unit) :
    List Probe.Candidate → Run σ Nat
  | [] => return 0
  | c :: rest => do
    take (← probe serve p d c)
    let n ← probeEach serve p d take rest
    return n + 1

/-- Probes a document at all its candidates. -/
def measure (serve : Server σ) (p : Probing) (d : Document) (take : Measurement → Run σ Unit) :
    Run σ Nat :=
  probeEach serve p d take (Probe.candidates d.lines)

/-- Keeps a measurement. -/
def keep (m : Measurement) : Run σ Unit :=
  Run.change fun w => { w with measured := w.measured ++ [m] }

end Probing

end ProbeBench
