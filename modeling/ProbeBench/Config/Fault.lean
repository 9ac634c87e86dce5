import ProbeBench.Config.Basic
import ProbeBench.Config.Setting
import ProbeBench.Files.Tree
import ProbeBench.Toml.Fault

/-!
# Faults of a configuration

What can be wrong before a run begins: files that cannot be read, a configuration file that is no
TOML document or says what cannot be, values that a field does not take. One check reports all the
fields that are wrong, in the order of the fields; `Issue` is one of them.
-/

namespace ProbeBench.Config

/-- What a field takes. -/
inductive Shape where
  | list
  | text
  | path
  | mode
  | policy
  | number
  /-- A truth value. -/
  | truth
  /-- A truth value, or a text or a number that means one. -/
  | truthWord
  deriving DecidableEq, Repr

/-- What a field takes, in words. -/
def Shape.message : Shape → String
  | .list => "Input should be a valid list"
  | .text => "Input should be a valid string"
  | .path => "Input is not a valid path for <class 'pathlib.Path'>"
  | .mode => "Input should be 'completion' or 'definition'"
  | .policy => "Input should be 'skip' or 'abort'"
  | .number => "Input should be a valid number"
  | .truth => "Input should be a valid boolean"
  | .truthWord => "Input should be a valid boolean, unable to interpret input"

/-- What is wrong with one field. -/
inductive Issue where
  /-- The field has no value, and needs one. -/
  | required (field : String)
  /-- There is no such field. -/
  | unknown (field : String)
  /-- The value at a place is of another shape. -/
  | shape (place : String) (wanted : Shape)
  | noFile (path : Path)
  | directory (path : Path)
  | noCommand
  | format (name : String)
  | timeoutKind (value : Setting)
  | timeoutNegative (value : Setting)
  /-- A value that a message cannot show, because of a whole number of too many digits. -/
  | unwritable

/-- A complaint about a place, which may have no name. -/
def placed (place text : String) : String :=
  if place.isEmpty then text else place ++ ": " ++ text

/-- The issue in words. -/
def Issue.message : Issue → String
  | .required field => placed field "Field required"
  | .unknown field => placed field "Extra inputs are not permitted"
  | .shape place wanted => placed place wanted.message
  | .noFile path => "File not found: " ++ path.text
  | .directory path => "Input must be a file, not a directory: " ++ path.text
  | .noCommand => "Missing language server command after '--'"
  | .format name => "Unrecognized format: " ++ name
  | .timeoutKind value => "Timeout must be a number of seconds, not " ++ value.literal
  | .timeoutNegative value => "Timeout must not be negative: " ++ value.literal
  | .unwritable => Decimal.unwritable

/-- What is wrong with a configuration. -/
inductive Fault where
  /-- No double dash sets the server's command apart. -/
  | noSeparator
  | unreadableInput (path : Path) (fault : FileFault)
  | undecodableInput (path : Path) (fault : Text.Utf8.Fault)
  /-- The configuration file that was named does not exist. -/
  | noFile (path : Path)
  | unreadable (path : Path) (fault : FileFault)
  /-- The configuration file is no TOML document. -/
  | malformed (path : Path) (fault : Toml.Fault)
  /-- What should be a table of settings is none. -/
  | noTable
  | jump (value : Setting)
  | invalid (issues : List Issue)

/-- The fault in words. -/
def Fault.message : Fault → String
  | .noSeparator => "Missing '--' before the language server command"
  | .unreadableInput path fault => "Cannot read input file " ++ path.text ++ ": " ++ fault.reason
  | .undecodableInput path fault =>
    "Input is not valid UTF-8: " ++ path.text ++ " (" ++ fault.reason.message ++ ")"
  | .noFile path => "Config file not found: " ++ path.text
  | .unreadable path fault =>
    "Cannot read config file " ++ path.text ++ ": " ++ fault.describe path.text
  | .malformed path fault => "Invalid config file " ++ path.text ++ ": " ++ fault.message
  | .noTable => "[bench] in the config file must be a table"
  | .jump value => "jump must be true or false, not " ++ value.literal
  | .invalid issues => "; ".intercalate (issues.map Issue.message)

end ProbeBench.Config
