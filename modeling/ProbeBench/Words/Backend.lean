import ProbeBench.Failure
import ProbeBench.Text.Lines
import ProbeBench.Words.Locator
import ProbeBench.Words.Lookup

/-!
# The word server

A small language server that knows words: completion offers every word of a document, definition
leads to the first place of the word under the cursor. `answer` handles one message. Documents are
kept by their URI with percent forms resolved, so two spellings of a URI mean one document. What is
asked about a document that is not open is read from the file that the URI leads to.
-/

namespace ProbeBench.Words

/-- A document as the client last sent it. -/
structure Stored where
  key : List Char
  uri : String
  text : List Char

/-- The documents that are open. -/
abbrev Backend := List Stored

/-- Why a message could not be answered. -/
inductive Trouble where
  /-- The document is not open, or the message lacks a member. -/
  | missing
  /-- The URI is none. -/
  | malformed
  /-- The file of a document that is not open cannot be read. -/
  | unread (fault : FileFault)
  /-- The file of a document that is not open is no text. -/
  | undecodable
  /-- The position lies outside its line. -/
  | outside
  deriving DecidableEq, Repr

/-- The name of the trouble in an error answer. -/
def Trouble.name : Trouble → String
  | .missing => "KeyError"
  | .malformed => "ValueError"
  | .unread .missing => "FileNotFoundError"
  | .unread .notDirectory => "NotADirectoryError"
  | .unread .isDirectory => "IsADirectoryError"
  | .unread .nameTooLong => "OSError"
  | .unread .noDevice => "OSError"
  | .unread .nullCharacter => "ValueError"
  | .undecodable => "UnicodeDecodeError"
  | .outside => "IndexError"

/-- The number of an error inside the server. -/
def internalError : Int := -32603

/-- What a URI names. -/
def keyOf (uri : String) : List Char := Text.Percent.decode uri.toList

/-- The member at the end of a chain of names. -/
def dig (v : Json) : List String → Option Json
  | [] => some v
  | key :: keys => (v.get? key).bind fun w => dig w keys

/-- The text at the end of a chain of names. -/
def digText? (v : Json) (keys : List String) : Option String :=
  (dig v keys).bind Json.str?

/-- The number at the end of a chain of names. -/
def digInt? (v : Json) (keys : List String) : Option Int :=
  (dig v keys).bind fun
    | .int n => some n
    | _ => none

namespace Backend

/-- The document that a URI names. -/
def find? (b : Backend) (uri : String) : Option Stored :=
  List.find? (fun d => d.key = keyOf uri) b

/-- Forgets a document. -/
def close (b : Backend) (uri : String) : Backend :=
  b.filter (·.key ≠ keyOf uri)

/-- Stores a document. -/
def put (b : Backend) (d : Stored) : Backend :=
  b.filter (·.key ≠ d.key) ++ [d]

/-- A character of a line. -/
def positionJson (line character : Nat) : Json :=
  .obj [("line", .int line), ("character", .int character)]

/-- The offer of every word of a document. -/
def completion (d : Stored) : Json :=
  .obj [("isIncomplete", .bool false),
    ("items", .arr ((vocabulary d.text).map fun word => .obj [("label", .str word)]))]

/-- The place of a definition. -/
def location (d : Stored) (s : Spot) : Json :=
  .arr [.obj [("uri", .str d.uri),
    ("range", .obj [("start", positionJson s.line s.start), ("end", positionJson s.line s.stop)])]]

/-- Where the word at a position is defined. -/
def definition (d : Stored) (line character : Int) : Except Trouble Json :=
  match definition? (lines d.text) line character with
  | none => .error .outside
  | some none => .ok .null
  | some (some spot) => .ok (location d spot)

/-- What the server declares in the handshake. -/
def capabilities : Json :=
  .obj [("capabilities", .obj [("completionProvider", .obj [])])]

/-- The document that parameters name, which has to be open. -/
def documentOf (b : Backend) (params : Json) : Except Trouble Stored :=
  match (digText? params ["textDocument", "uri"]).bind b.find? with
  | some d => .ok d
  | none => .error .missing

/-- The document in the file that a URI leads to. -/
def fetch (uri : String) : Except Trouble Stored :=
  match (Locator.ofText? uri.toList).map Locator.read with
  | none => .error .malformed
  | some (.error fault) => .error (.unread fault)
  | some (.ok octets) =>
    match Text.Utf8.decode octets with
    | .error _ => .error .undecodable
    | .ok text => .ok ⟨keyOf uri, uri, Text.unifyLineEnds text⟩

/-- The document that parameters name and something is asked about. -/
def askedOf (b : Backend) (params : Json) : Except Trouble Stored :=
  match digText? params ["textDocument", "uri"] with
  | none => .error .missing
  | some uri => (b.find? uri).elim (fetch uri) .ok

/-- The text after changes, each of which replaces it as a whole. -/
def changed (text : String) (changes : List Json) : String :=
  (changes.getLast?.bind fun c => digText? c ["text"]).getD text

/-- Handles a message: the documents afterwards and the result. -/
def handle (b : Backend) (method : String) (params : Json) : Except Trouble (Backend × Json) :=
  match method with
  | "initialize" => .ok (b, capabilities)
  | "textDocument/didOpen" =>
    match digText? params ["textDocument", "uri"], digText? params ["textDocument", "text"] with
    | some uri, some text =>
      if (Locator.ofText? uri.toList).isNone then .error .malformed
      else .ok (b.put ⟨keyOf uri, uri, text.toList⟩, .null)
    | _, _ => .error .missing
  | "textDocument/didChange" =>
    match dig params ["contentChanges"] with
    | some (.arr []) => .ok (b, .null)
    | some (.arr changes) => do
      let d ← b.documentOf params
      return (b.put { d with text := (changed (String.ofList d.text) changes).toList }, .null)
    | _ => .error .missing
  | "textDocument/didClose" =>
    match digText? params ["textDocument", "uri"] with
    | some uri => .ok (b.close uri, .null)
    | none => .error .missing
  | "textDocument/completion" => do
    let d ← b.askedOf params
    return (b, completion d)
  | "textDocument/definition" => do
    let d ← b.askedOf params
    match digInt? params ["position", "line"], digInt? params ["position", "character"] with
    | some line, some character => return (b, ← definition d line character)
    | _, _ => throw .missing
  | _ => .ok (b, .null)

/-- Handles a message: the documents afterwards and the members of the answer. -/
def answer (b : Backend) (message : Members) : Backend × Members :=
  let params := (message.get? "params").getD .null
  match b.handle (((message.get? "method").bind Json.str?).getD "") params with
  | .ok (b, result) => (b, [("result", result)])
  | .error trouble =>
    (b, [("error", .obj [("code", .int internalError), ("message", .str trouble.name)])])

end Backend

end ProbeBench.Words
