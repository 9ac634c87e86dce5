import ProbeBench.Failure
import ProbeBench.Text.Lines
import ProbeBench.Toml.Document

/-!
# The configuration file

A TOML document with the settings of the command line as defaults, in its table `bench`. A file that
was named has to exist; the file in the current directory need not. Its names of settings differ
from those of the fields; `Config.defaults` maps them, and `Config.merge` puts what the command line
gives over them.
-/

namespace ProbeBench.Config

/-- The failure of a configuration file that is no document. -/
def malformedFailure (path : Path) : Toml.Fault → Failure
  | .digits count => .digits count
  | fault => .config (.malformed path fault)

/-- The table that the octets of a configuration file describe. -/
def readOctets (path : Path) (octets : List UInt8) : Except Failure Table :=
  match Text.Utf8.decode octets with
  | .error fault => .error (.undecodable fault)
  | .ok text => (Toml.parse (Text.unifyLineEnds text)).mapError (malformedFailure path)

/-- The table in a configuration file; one that does not exist is empty unless it is required. -/
def readFile (tree : FileTree) (cwd path : Path) (isRequired : Bool) : Except Failure Table :=
  match tree.read cwd path with
  | .ok octets => readOctets path octets
  | .error .missing => if isRequired then .error (.config (.noFile path)) else .ok []
  | .error .nullCharacter => .error .nullCharacter
  | .error fault => .error (.config (.unreadable path fault))

/-- Where the configuration is: in a file that was named, or in the one that may lie in a
directory. -/
inductive Source where
  | named (path : Path)
  | directory (path : Path)

/-- The table of a source. -/
def load (tree : FileTree) (cwd : Path) : Source → Except Failure Table
  | .named path => readFile tree cwd path true
  | .directory path => readFile tree cwd (path.under (Path.ofText defaultFile)) false

/-- The table of the settings in a document. -/
def settingsOf (document : Table) : Except Failure Table :=
  match document.get? "bench" with
  | none => .ok []
  | some (.table t) => .ok t
  | some _ => .error (.config .noTable)

/-- The settings of a source. -/
def loadSettings (tree : FileTree) (cwd : Path) (source : Source) : Except Failure Table := do
  settingsOf (← load tree cwd source)

/-- A setting of a table under its name. -/
def kept (t : Table) (name : String) : Table :=
  ((t.get? name).map fun v => (name, v)).toList

/-- The mode that asking for jumps, or not, means. -/
def modeOfJump (jump : Bool) : Setting :=
  .text (if jump then Probe.Mode.definition else .completion).name

/-- The fields that the settings of a configuration file give. -/
def defaults (t : Table) : Except Failure Table := do
  let plain := ["language", "format", "on_error", "verbose"].flatMap (kept t)
  let folders : Table :=
    match t.get? "workspace" with
    | none => []
    | some (.text s) => [("workspace_folders", .list [.text s])]
    | some v => [("workspace_folders", v)]
  let mode : Table ←
    match t.get? "jump" with
    | none => pure []
    | some (.bool b) => pure [("mode", modeOfJump b)]
    | some v => throw (if v.isWritable then .config (.jump v) else .unwritable)
  let timeout : Table :=
    match t.get? "timeout" with
    | none => []
    | some v => [("request_timeout", v)]
  return plain ++ folders ++ mode ++ timeout

/-- Puts values over defaults, except those that say nothing. -/
def merge (values defaults : Table) : Table :=
  values.foldl (fun t e => if e.2.isNull then t else t.put e.1 e.2) defaults

end ProbeBench.Config
