import ProbeBench.Toml.Value

/-!
# Documents

A TOML document is a sequence of statements, each on a line of its own: a key with its value, a
header that opens a table, or a header that adds a table to a list of tables. Keys of pairs are
relative to the header before them. `Toml.parse` reads a whole document.
-/

namespace ProbeBench.Toml

open ProbeBench.Config

/-- What the statements so far have said. -/
structure State where
  table : Table := []
  marks : Marks := []
  /-- Keys that count as declared from the next header on. -/
  opened : List Key := []
  header : Key := []

/-- A key with its value. -/
def pairStatement (size : Nat) (s : State) (cs : List Char) :
    Except Stop (State × List Char) := do
  let ((k, v), rest) ← pair size cs
  let name := k.getLast?.getD ""
  let inner := (List.range (k.length - 1)).map fun i => s.header ++ k.take (i + 1)
  match inner.find? s.marks.isDeclared with
  | some table => throw (.at (.redefined table) rest.length)
  | none => pure ()
  let parent := s.header ++ k.dropLast
  if s.marks.isFrozen parent then throw (.at (.frozen parent) rest.length)
  let t ← blame rest (change true (insert name v .overwritten) parent s.table)
  let marks := if isInPlace v then .frozen (s.header ++ k) :: s.marks else s.marks
  return ({ s with table := t, marks, opened := s.opened ++ inner }, rest)

/-- Counts the keys that were opened as declared. -/
def settleOpened (s : State) : State :=
  { s with marks := s.opened.map .declared ++ s.marks, opened := [] }

/-- A header that opens a table, read from behind its bracket. -/
def tableStatement (size : Nat) (s : State) (cs : List Char) :
    Except Stop (State × List Char) := do
  let (k, rest) ← key size (skipBlanks cs)
  if s.marks.isDeclared k || s.marks.isFrozen k then throw (.at (.declaredTwice k) rest.length)
  let t ← blame rest (change true .ok k s.table)
  match rest with
  | ']' :: more =>
    return ({ s with table := t, marks := .declared k :: s.marks, header := k }, more)
  | _ => throw (.at .tableEnd rest.length)

/-- A header that adds a table to a list of tables, read from behind its brackets. -/
def tableListStatement (size : Nat) (s : State) (cs : List Char) :
    Except Stop (State × List Char) := do
  let (k, rest) ← key size (skipBlanks cs)
  if s.marks.isFrozen k then throw (.at (.frozen k) rest.length)
  let t ← blame rest (change true (extend (k.getLast?.getD "")) k.dropLast s.table)
  match rest with
  | ']' :: ']' :: more =>
    return ({ s with table := t, marks := .declared k :: s.marks.release k, header := k }, more)
  | _ => throw (.at .tableListEnd rest.length)

/-- One statement, of at most `size` characters; a comment is none. -/
def statement (size : Nat) (s : State) (cs : List Char) : Except Stop (State × List Char) :=
  match cs with
  | '[' :: '[' :: rest => tableListStatement size (settleOpened s) rest
  | '[' :: rest => tableStatement size (settleOpened s) rest
  | '#' :: _ => .ok (s, cs)
  | c :: _ => if isKeyStart c then pairStatement size s cs else .error (.at .statement cs.length)
  | [] => .ok (s, [])

/-- The statements of a text. -/
def statements : Nat → State → List Char → Except Stop Table
  | 0, s, _ => .ok s.table
  | fuel + 1, s, cs =>
    match skipBlanks cs with
    | [] => .ok s.table
    | '\n' :: rest => statements fuel s rest
    | cs => do
      let (s, rest) ← statement fuel s cs
      match ← skipComment (skipBlanks rest) with
      | [] => return s.table
      | '\n' :: rest => statements fuel s rest
      | rest => throw (.at .statementEnd rest.length)

/-- The table that a document describes. -/
def parse (text : List Char) : Except Fault Table :=
  (statements (text.length + 1) {} text).mapError (Fault.locate text)

end ProbeBench.Toml
