import ProbeBench.Bench.Probing

/-!
# A benchmark

A whole run: all inputs are read before the server's program is started; then the handshake, every
file in turn, and the shutdown. Measurements are reported as they come. Whatever a run ends with,
the session is closed and the program is ended.
-/

namespace ProbeBench

/-- What stands around a run: its files and the process it is. -/
structure Surroundings where
  files : FileTree
  cwd : Path
  processId : Int

/-- What a run talks to: a state that reacts to messages, and the start of a program as a change of
that state. -/
structure Host (σ : Type) where
  serve : Server σ
  launch : σ → List String → Except Failure σ

namespace Benchmark

/-- The text of an input file. -/
def readSource (s : Surroundings) (path : Path) : Except Failure String :=
  match s.files.read s.cwd path with
  | .error .nullCharacter => .error .nullCharacter
  | .error fault => .error (.config (.unreadableInput path fault))
  | .ok octets =>
    match Text.Utf8.decode octets with
    | .ok text => .ok (String.ofList text)
    | .error fault => .error (.config (.undecodableInput path fault))

/-- The texts of input files. -/
def readSources (s : Surroundings) (paths : List Path) : Except Failure (List (Path × String)) :=
  paths.mapM fun path => (readSource s path).map fun text => (path, text)

variable {σ : Type}

/-- Keeps a measurement and adds its line to the report. -/
def reportTo (format : Format) (m : Measurement) : Run σ Unit := do
  Probing.keep m
  let line ← Run.lift (m.report format)
  Run.change fun w => { w with printed := w.printed ++ [line] }

/-- Probes a file from its opening to its closing; how many measurements it gave. -/
def measureFile (serve : Server σ) (c : Config) (d : Document) : Run σ Nat := do
  d.open_ serve
  let n ← Probing.measure serve ⟨c.mode, c.onError⟩ d (reportTo c.format)
  d.close serve
  return n

/-- Probes files in turn, the first of which is document `number`. -/
def measureFiles (serve : Server σ) (cwd : Path) (c : Config) (number : Nat) :
    List (Path × String) → Run σ Nat
  | [] => return 0
  | (path, text) :: rest => do
    let d ← Run.lift (Document.ofFile cwd number path c.language text)
    let n ← measureFile serve c d
    let m ← measureFiles serve cwd c (number + 1) rest
    return n + m

/-- Closes the session. A call that waits for what never comes is given up. -/
def closeSession (serve : Server σ) : Run σ Unit := do
  Run.change fun w => { w with loop := w.loop.abandon 0 }
  let _ ← Run.close serve
  return ()

/-- Closes the session unless it has ended by itself. -/
def closeIfOpen (serve : Server σ) : Run σ Unit := do
  if !(← Run.read (·.loop.session.closed)) then closeSession serve

/-- Makes the handshake. A handshake that would wait for ever closes the session. -/
def connect (serve : Server σ) (s : Surroundings) (c : Config) : Run σ Unit := do
  Run.change fun w =>
    { w with
      loop.session.limit := c.timeout.map .seconds
      loop.session.listener := if c.verbose then .announce else .ignore }
  let params ← Run.lift (Protocol.handshake s.processId s.cwd c.workspaceFolders)
  match ← Run.attempt (Run.perform serve (.connect params)) with
  | .ok _ => return ()
  | .error .hung =>
    closeSession serve
    Run.stop .hung
  | .error e => Run.stop e

/-- Probes all files and shuts the server down. -/
def measureAll (serve : Server σ) (s : Surroundings) (c : Config) (sources : List (Path × String)) :
    Run σ Nat := do
  let n ← measureFiles serve s.cwd c 0 sources
  let _ ← Run.perform serve (.shutdown .inherited)
  return n

/-- What happens while the server's program runs. -/
def withServer (serve : Server σ) (s : Surroundings) (c : Config) (started : Seconds)
    (sources : List (Path × String)) : Run σ Nat := do
  connect serve s c
  let ready ← Run.now
  let ms ← Run.lift ((ready.since started).bind (·.milliseconds.round))
  Run.lift (if Decimal.isWritable ms then .ok () else .error .unwritable)
  Run.warn ("Now listening (took " ++ toString ms ++ " ms)")
  let result ← Run.attempt (measureAll serve s c sources)
  closeIfOpen serve
  Run.resume result

/-- Starts the server's program. -/
def launch (host : Host σ) (command : List String) : Run σ Unit := do
  let state ← Run.read (·.loop.server)
  match host.launch state command with
  | .ok state =>
    Run.change fun w => { w with loop.server := state, commands := w.commands ++ [command] }
  | .error failure => Run.fail failure

/-- Runs the benchmark; the number of measurements. -/
def run (host : Host σ) (s : Surroundings) (c : Config) : Run σ Nat := do
  let sources ← Run.lift (readSources s c.files)
  Run.warn ("Starting command: " ++ " ".intercalate c.command)
  let started ← Run.now
  launch host c.command
  let result ← Run.attempt (withServer host.serve s c started sources)
  Run.change fun w => { w with stopped := true }
  Run.resume result

end Benchmark

end ProbeBench
