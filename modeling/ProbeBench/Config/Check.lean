import ProbeBench.Failure

/-!
# Checking a configuration

`Config.check` turns settings by name into a configuration. Every field is checked by itself and all
complaints are reported, those of the fields in their order and then the names that are no field.
Within one field the first complaint that depends on the world outside (a file that does not exist)
ends the check of the field; complaints about the shape of several items are all reported.

A time limit of zero is no limit. A truth value is no number of seconds, although false counts as
zero.
-/

namespace ProbeBench.Config

/-- The complaints about a field, or its value. -/
abbrev Checked (α : Type) := Except (List Issue) α

/-- The place of an item of a list. -/
def itemPlace (field : String) (i : Nat) : String :=
  field ++ "." ++ toString i

/-- Checks the items of a list, from number `i` on, and collects all complaints. -/
def checkItems {α : Type} (check : String → Setting → Checked α) (field : String) (i : Nat) :
    List Setting → Checked (List α)
  | [] => .ok []
  | v :: rest =>
    match check (itemPlace field i) v, checkItems check field (i + 1) rest with
    | .ok x, .ok xs => .ok (x :: xs)
    | .ok _, .error issues => .error issues
    | .error issues, .ok _ => .error issues
    | .error issues, .error more => .error (issues ++ more)

/-- A list whose items pass a check. -/
def checkList {α : Type} (check : String → Setting → Checked α) (field : String) :
    Setting → Checked (List α)
  | .list items => checkItems check field 0 items
  | _ => .error [.shape field .list]

/-- A text. -/
def checkText (field : String) : Setting → Checked String
  | .text s => .ok s
  | _ => .error [.shape field .text]

/-- A path. -/
def checkPath (field : String) : Setting → Checked Path
  | .text s => .ok (Path.ofText s)
  | _ => .error [.shape field .path]

/-- The first complaint about paths that should lead to files. A path too long to be looked up ends
the whole check. -/
def fileIssue? (tree : FileTree) (cwd : Path) : List Path → Except Failure (Option Issue)
  | [] => .ok none
  | p :: rest =>
    match tree.find cwd p with
    | .ok (.file ..) | .ok (.device _) => fileIssue? tree cwd rest
    | .ok .directory => .ok (some (.directory p))
    | .error .nameTooLong => .error (.undecided .nameTooLong)
    | .error _ => .ok (some (.noFile p))

/-- Paths that lead to files. -/
def checkFiles (tree : FileTree) (cwd : Path) (v : Setting) :
    Except Failure (Checked (List Path)) :=
  match checkList checkPath "files" v with
  | .error issues => .ok (.error issues)
  | .ok paths =>
    (fileIssue? tree cwd paths).map fun
      | some issue => .error [issue]
      | none => .ok paths

/-- A command: a program, which has a name, and its arguments. -/
def checkCommand (v : Setting) : Checked (List String) := do
  let words ← checkList checkText "command" v
  if words.headD "" = "" then throw [.noCommand]
  return words

/-- A mode by its name. -/
def checkMode : Setting → Checked Probe.Mode
  | .text s =>
    match Probe.Mode.ofName? s with
    | some mode => .ok mode
    | none => .error [.shape "mode" .mode]
  | _ => .error [.shape "mode" .mode]

/-- A policy by its name. -/
def checkPolicy : Setting → Checked Probe.Policy
  | .text s =>
    match Probe.Policy.ofName? s with
    | some policy => .ok policy
    | none => .error [.shape "on_error" .policy]
  | _ => .error [.shape "on_error" .policy]

/-- The folders of the workspace; without any, the current directory. -/
def checkFolders (cwd : Path) (v : Setting) : Checked (List Path) := do
  let folders ← checkList checkPath "workspace_folders" v
  return if folders.isEmpty then [cwd] else folders

/-- A format by its name. -/
def checkFormat (v : Setting) : Checked Format := do
  let name ← checkText "format" v
  match Format.ofName? name with
  | some format => return format
  | none => throw [.format name]

/-- Whether a value counts as the number zero. -/
def isZero : Setting → Bool
  | .bool b => !b
  | .int n => n = 0
  | .float x => x == 0.0
  | _ => false

/-- A number of seconds; none is for ever. -/
def checkTimeout (v : Setting) : Checked (Option Float) :=
  if v.isNull || isZero v then .ok none
  else
    match v with
    | .int n =>
      if n < 0 then .error [if v.isWritable then .timeoutNegative v else .unwritable]
      else
        let x := Decimal.Numeral.toFloat ⟨false, n.natAbs, 0⟩
        if x.isInf then .error [.shape "request_timeout" .number] else .ok (some x)
    | .float x => if x < 0.0 then .error [.timeoutNegative v] else .ok (some x)
    | _ => .error [if v.isWritable then .timeoutKind v else .unwritable]

/-- The words that mean true and those that mean false. -/
def truthOfWord? (word : String) : Option Bool :=
  let w := String.ofList (word.toList.map Char.toLower)
  if ["1", "t", "y", "on", "yes", "true"].contains w then some true
  else if ["0", "f", "n", "no", "off", "false"].contains w then some false
  else none

/-- The truth value of a whole number. -/
def truthOfInt? (n : Int) : Option Bool :=
  if n = 0 then some false else if n = 1 then some true else none

/-- The first whole number that does not fit into 64 bits with a sign. -/
def wordSign : Int := 0x8000000000000000

/-- Whether a number fits into 64 bits with a sign. -/
def fitsWord (n : Int) : Bool := -wordSign ≤ n && n < wordSign

/-- A truth value, or a text or a number that means one. Numbers beyond 64 bits mean none. -/
def checkTruth (field : String) (v : Setting) : Checked Bool :=
  let meant : Option Bool → Checked Bool
    | some b => .ok b
    | none => .error [.shape field .truthWord]
  match v with
  | .bool b => .ok b
  | .text s => meant (truthOfWord? s)
  | .int n => if fitsWord n then meant (truthOfInt? n) else .error [.shape field .truth]
  | .float x =>
    if x.floor == x && x.abs < 9223372036854775808.0 then
      meant (if x == 0.0 then some false else if x == 1.0 then some true else none)
    else .error [.shape field .truth]
  | _ => .error [.shape field .truth]

/-- The names of the fields. -/
def fieldNames : List String :=
  ["files", "command", "mode", "language", "workspace_folders", "format", "request_timeout",
    "on_error", "verbose"]

/-- The value of a field that has to be set. -/
def needed {α : Type} (t : Table) (field : String) (check : Setting → Checked α) : Checked α :=
  match t.get? field with
  | some v => check v
  | none => .error [.required field]

/-- The value of a field that need not be set. -/
def optional {α : Type} (t : Table) (field : String) (otherwise : α) (check : Setting → Checked α) :
    Checked α :=
  match t.get? field with
  | some v => check v
  | none => .ok otherwise

/-- The complaints about a field. -/
def issues {α : Type} : Checked α → List Issue
  | .ok _ => []
  | .error issues => issues

/-- Names that are no field. -/
def unknownNames (t : Table) : List Issue :=
  ((t.map (·.1)).filter (!fieldNames.contains ·)).map .unknown

/-- The files that settings by name give. -/
def filesOf (tree : FileTree) (cwd : Path) (t : Table) : Except Failure (Checked (List Path)) :=
  match t.get? "files" with
  | some v => checkFiles tree cwd v
  | none => .ok (.error [.required "files"])

/-- The configuration that settings by name make with these files. -/
def checkWith (cwd : Path) (files : Checked (List Path)) (t : Table) : Except Failure Config :=
  let command := needed t "command" checkCommand
  let mode := optional t "mode" .completion checkMode
  let language := optional t "language" defaultLanguage (checkText "language")
  let folders := optional t "workspace_folders" [cwd] (checkFolders cwd)
  let format := optional t "format" .human checkFormat
  let timeout := optional t "request_timeout" (some defaultTimeout) checkTimeout
  let onError := optional t "on_error" .skip checkPolicy
  let verbose := optional t "verbose" false (checkTruth "verbose")
  let complaints :=
    issues files ++ issues command ++ issues mode ++ issues language ++ issues folders ++
      issues format ++ issues timeout ++ issues onError ++ issues verbose ++ unknownNames t
  match files, command, mode, language, folders, format, timeout, onError, verbose with
  | .ok files, .ok command, .ok mode, .ok language, .ok folders, .ok format, .ok timeout,
      .ok onError, .ok verbose =>
    if complaints.isEmpty then
      .ok ⟨files, command, mode, language, folders, format, timeout, onError, verbose⟩
    else .error (.config (.invalid complaints))
  | _, _, _, _, _, _, _, _, _ => .error (.config (.invalid complaints))

/-- The configuration that settings by name make. -/
def check (tree : FileTree) (cwd : Path) (t : Table) : Except Failure Config := do
  checkWith cwd (← filesOf tree cwd t) t

end ProbeBench.Config
