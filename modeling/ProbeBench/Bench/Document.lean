import ProbeBench.Bench.World
import ProbeBench.Text.Lines

/-!
# Documents

A document that the server is shown. Its text never changes here; the server gets other texts, each
whole and with the next version, and the document's own text again with `restore`.
-/

namespace ProbeBench

/-- A document. -/
structure Document where
  /-- Tells the documents of a run apart. -/
  number : Nat
  path : Path
  uri : String
  language : String
  text : String

namespace Document

/-- The lines of the document's own text. -/
def lines (d : Document) : Text.LineTable := .ofText d.text.toList

/-- The document of a file with this text. -/
def ofFile (cwd : Path) (number : Nat) (path : Path) (language text : String) :
    Except Failure Document := do
  return ⟨number, path, (← Protocol.located cwd path).uri, language, text⟩

variable {σ : Type}

/-- Counts the version up. -/
def nextVersion (d : Document) : Run σ Int := do
  Run.change fun w => w.setVersion d.number (w.version d.number + 1)
  Run.read fun w => w.version d.number

/-- Shows the server the document, which must not have been changed before. -/
def open_ (serve : Server σ) (d : Document) : Run σ Unit := do
  let version ← Run.read fun w => w.version d.number
  Run.lift (require (version = firstVersion) "document opened twice" [("uri", .str d.uri)])
  let params ←
    Run.lift (Protocol.didOpen (.str d.uri) (.str d.language) (.int version) (.str d.text))
  Run.notify serve "textDocument/didOpen" params

/-- Gives the server another text for the document, as its next version. -/
def replace (serve : Server σ) (d : Document) (text : String) : Run σ Int := do
  let version ← d.nextVersion
  let params ← Run.lift (Protocol.didChange (.str d.uri) (.int version) (.str text))
  Run.notify serve "textDocument/didChange" params
  return version

/-- Gives the server the document's own text again. -/
def restore (serve : Server σ) (d : Document) : Run σ Int :=
  d.replace serve d.text

/-- Tells the server that the document is done with. -/
def close (serve : Server σ) (d : Document) : Run σ Unit := do
  let params ← Run.lift (Protocol.didClose (.str d.uri))
  Run.notify serve "textDocument/didClose" params

end Document

end ProbeBench
