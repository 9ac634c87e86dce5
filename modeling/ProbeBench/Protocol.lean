import ProbeBench.Failure
import ProbeBench.Path

/-!
# Protocol parameters

The parameters of the messages that a client sends, checked before they are sent: a text has to be a
text, and whole numbers have to be in the range of their field. Truth values pass as whole numbers.
Checks run in the order of the fields, so the first field that is wrong decides the failure.
-/

namespace ProbeBench.Protocol

/-- The name and the version under which the client introduces itself. -/
def clientName : String := "lsp-bench"

/-- The version that the client states. -/
def clientVersion : String := "0.1.0"

/-- A whole number from `low` to `high`. -/
def checkInt (field : String) (low high : Int) (value : Json) : Except Failure Unit :=
  let inRange (n : Int) : Bool := low ≤ n && n ≤ high
  let good : Bool :=
    match value with
    | .int n => inRange n
    | .bool b => inRange (if b then 1 else 0)
    | _ => false
  if good then .ok () else .error (.range ⟨field, low, high, value⟩)

/-- A whole number that fits into 31 bits. -/
def checkUnsigned (field : String) (value : Json) : Except Failure Unit :=
  checkInt field 0 0x7fffffff value

/-- A whole number that fits into 32 bits with a sign. -/
def checkSigned (field : String) (value : Json) : Except Failure Unit :=
  checkInt field (-0x80000000) 0x7fffffff value

/-- A text. -/
def checkText : Json → Except Failure Unit
  | .str _ => .ok ()
  | _ => .error .wrongType

/-- A line and a character in it. -/
def position (line character : Json) : Except Failure Json := do
  checkUnsigned "Position.line" line
  checkUnsigned "Position.character" character
  return .obj [("line", line), ("character", character)]

/-- Asks something at a position of a document. -/
def atPosition (uri line character : Json) : Except Failure Json := do
  let at_ ← position line character
  checkText uri
  return .obj [("textDocument", .obj [("uri", uri)]), ("position", at_)]

/-- Opens a document. -/
def didOpen (uri language version text : Json) : Except Failure Json := do
  checkText uri
  checkSigned "TextDocumentItem.version" version
  checkText text
  return .obj [("textDocument",
    .obj [("uri", uri), ("languageId", language), ("version", version), ("text", text)])]

/-- Replaces the text of a document as a whole. -/
def didChange (uri version text : Json) : Except Failure Json := do
  checkSigned "VersionedTextDocumentIdentifier.version" version
  checkText uri
  checkText text
  return .obj [("textDocument", .obj [("version", version), ("uri", uri)]),
    ("contentChanges", .arr [.obj [("text", text)]])]

/-- Closes a document. -/
def didClose (uri : Json) : Except Failure Json := do
  checkText uri
  return .obj [("textDocument", .obj [("uri", uri)])]

/-- Where a path leads to, in full. -/
def located (cwd path : Path) : Except Failure Path :=
  if path.holdsNull then .error .nullCharacter else .ok (path.resolve cwd)

/-- A folder of the workspace. -/
def workspaceFolder (cwd path : Path) : Except Failure Json := do
  let full ← located cwd path
  let name := if full.name.isEmpty then full.text else full.name
  return .obj [("uri", .str full.uri), ("name", .str name)]

/-- The client's side of the handshake: it declares no capabilities. -/
def handshake (processId : Int) (cwd : Path) (roots : List Path) : Except Failure Json := do
  let folders ← roots.mapM (workspaceFolder cwd)
  let rootUri : Json :=
    match roots with
    | root :: _ => .str (root.resolve cwd).uri
    | [] => .null
  return .obj [("capabilities", .obj []), ("processId", .int processId),
    ("clientInfo", .obj [("name", .str clientName), ("version", .str clientVersion)]),
    ("rootPath", .null), ("rootUri", rootUri), ("workspaceFolders", .arr folders)]

/-- Parameters have to be an object; any other value counts as an empty one. -/
def parameters : Json → Json
  | .obj members => .obj members
  | _ => .obj []

/-- How many results an answer holds: none in `null`, the items of a list or of a list of
completions, one in anything else. -/
def resultCount : Json → Nat
  | .null => 0
  | .arr items => items.length
  | .obj members =>
    match (Json.obj members).get? "items" with
    | some (.arr items) => items.length
    | some _ => 0
    | none => 1
  | _ => 1

/-- The text of a message that the server wants to be shown or logged. -/
def serverMessage? (message : Members) : Option String :=
  match message.get? "method" with
  | some (.str method) =>
    if method = "window/logMessage" ∨ method = "window/showMessage" then
      match message.get? "params" with
      | some (.obj params) =>
        match (Json.obj params).get? "message" with
        | some (.str text) => some ("[server] " ++ text)
        | _ => none
      | _ => none
    else none
  | _ => none

end ProbeBench.Protocol
