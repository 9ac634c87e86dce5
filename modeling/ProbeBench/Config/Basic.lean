import ProbeBench.Path
import ProbeBench.Probe.Mode

/-!
# The configuration of a run

What a run needs to know, checked, and the values of what nobody sets.
-/

namespace ProbeBench

/-- The formats of reports. -/
inductive Format where
  | human
  | csv
  deriving DecidableEq, Repr, Inhabited

/-- The name of a format. -/
def Format.name : Format → String
  | .human => "human"
  | .csv => "csv"

/-- All formats. -/
def Format.all : List Format := [.human, .csv]

/-- The format of a name. -/
def Format.ofName? (name : String) : Option Format :=
  Format.all.find? (·.name = name)

theorem Format.ofName?_name (f : Format) : Format.ofName? f.name = some f := by
  cases f <;> decide

/-- A checked configuration. -/
structure Config where
  files : List Path
  /-- The program that is the server, and its arguments. -/
  command : List String
  mode : Probe.Mode
  language : String
  workspaceFolders : List Path
  format : Format
  /-- How many seconds a request may take; none is for ever. -/
  timeout : Option Float
  onError : Probe.Policy
  verbose : Bool

namespace Config

/-- The language that nobody names. -/
def defaultLanguage : String := "codeql"

/-- The seconds that a request may take where nobody says. -/
def defaultTimeout : Float := 60.0

/-- The name of the configuration file in the current directory. -/
def defaultFile : String := "lsp-bench.toml"

end Config

end ProbeBench
