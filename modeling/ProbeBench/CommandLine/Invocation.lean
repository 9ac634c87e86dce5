import ProbeBench.Bench.Benchmark
import ProbeBench.CommandLine.Console
import ProbeBench.CommandLine.Options

/-!
# Invocations

The whole program, from the words of its command line to what it writes and its exit code. Without a
double dash among the words there is no command for the server, and the program says how it is used;
a configuration that is wrong, like a run that fails, is reported in one line and ends the program
with code 1; words that cannot be read end it with code 2.
-/

namespace ProbeBench.CommandLine

/-- How the program ends. -/
inductive Ending where
  | exit (code : Nat)
  /-- The program explains its options. -/
  | help
  /-- The words cannot be read. -/
  | misuse
  /-- A run stops in a way that the program does not report. -/
  | stopped (stop : Stop)

/-- The exit code. -/
def Ending.code : Ending → Nat
  | .exit code => code
  | .help => 0
  | .misuse => 2
  | .stopped _ => 1

/-- What an invocation leaves behind. -/
structure Invocation (σ : Type) where
  ending : Ending
  /-- The configuration that reached the benchmark. -/
  config : Option Config
  /-- The lines of standard output … -/
  output : List String
  /-- … and of standard error. -/
  errors : List String
  world : World σ

/-- Whether the program reports a failure in one line. -/
def isReported : Failure → Bool
  | .never .. => true
  | .request .. => true
  | .timeout .. => true
  | .lost _ => true
  | .closed => true
  | .config _ => true
  | .launch .. => true
  | _ => false

/-- How a failure ends the program, and the lines that report it. -/
def endingOf (f : Failure) : Ending × List String :=
  if isReported f then (.exit 1, [f.message]) else (.stopped (.failed f), [])

variable {σ : Type}

/-- An invocation that ends before a run. -/
def withoutRun (w : World σ) (ending : Ending) (errors : List String) : Invocation σ :=
  ⟨ending, none, [], errors, w⟩

/-- Runs the benchmark of a configuration. -/
def runConfig (host : Host σ) (s : Surroundings) (w : World σ) (c : Config) : Invocation σ :=
  let (result, w) := Benchmark.run host s c w
  let (ending, report) :=
    match result with
    | .ok _ => (Ending.exit 0, [])
    | .error (.failed f) => endingOf f
    | .error .hung => (.stopped .hung, [])
  ⟨ending, some c, w.printed, w.loop.session.warnings ++ report, w⟩

/-- Goes on with words that set no command apart, or one. -/
def runWords (host : Host σ) (s : Surroundings) (w : World σ) (words command : List String) :
    Invocation σ :=
  match Options.read words with
  | .wrong => withoutRun w .misuse []
  | .help => withoutRun w .help []
  | .options o =>
    match o.resolve s.files s.cwd command with
    | .ok c => runConfig host s w c
    | .error f =>
      let (ending, report) := endingOf f
      withoutRun w ending report

/-- Whether a word asks for help. -/
def asksHelp (word : String) : Bool := word = "-h" || word = "--help"

/-- The program. -/
def invoke (host : Host σ) (s : Surroundings) (w : World σ) (words : List String) : Invocation σ :=
  match splitCommand words with
  | .ok (words, command) => runWords host s w words command
  | .error f =>
    if words.any asksHelp then runWords host s w words []
    else withoutRun w (.exit 1) [f.message, usage]

end ProbeBench.CommandLine
