import ProbeBench.Shell.Piece

/-!
# Tokens of a shell script

A script is a sequence of words, operators and redirections, and each knows the line in which it
ends. A document that is given to a command stands behind the line that asks for it; `Script.ofText`
puts it where it was asked for.

* `ofText_nil`: a script without text has no tokens.
-/

namespace ProbeBench.Shell

/-- What a token is. -/
inductive Sign where
  | word (pieces : Pieces)
  /-- An operator; the end of a line is one. -/
  | op (symbol : List Char)
  /-- A redirection of a stream; the next word says where to. -/
  | redirect (stream : Nat) (symbol : List Char)
  /-- A stream reads a text, which ends in a line. -/
  | document (stream : Nat) (text : Pieces) (last : Nat)
  /-- A stream reads the document with this number. -/
  | awaited (stream number : Nat)

/-- A token of a script. -/
structure Token where
  sign : Sign
  /-- The line in which it ends; that of the end of a line is the next one. -/
  line : Nat

/-- A document whose text has not come yet. -/
structure Awaited where
  number : Nat
  /-- The line behind its end. -/
  mark : List Char
  /-- Nothing is put in. -/
  quoted : Bool
  /-- Tabulators at the beginnings of its lines are left out. -/
  stripped : Bool

/-- The operator at the beginning of a text. -/
def operator? : List Char → Option (List Char × List Char)
  | '&' :: '&' :: rest => some (['&', '&'], rest)
  | '|' :: '|' :: rest => some (['|', '|'], rest)
  | ';' :: ';' :: rest => some ([';', ';'], rest)
  | c :: rest => if "\n;&|()".toList.contains c then some ([c], rest) else none
  | [] => none

/-- The symbol of a redirection at the beginning of a text. -/
def redirectSymbol? : List Char → Option (List Char × List Char)
  | '<' :: '<' :: '-' :: rest => some (['<', '<', '-'], rest)
  | '<' :: '<' :: rest => some (['<', '<'], rest)
  | '<' :: '&' :: rest => some (['<', '&'], rest)
  | '<' :: '>' :: rest => some (['<', '>'], rest)
  | '<' :: rest => some (['<'], rest)
  | '>' :: '>' :: rest => some (['>', '>'], rest)
  | '>' :: '&' :: rest => some (['>', '&'], rest)
  | '>' :: '|' :: rest => some (['>', '|'], rest)
  | '>' :: rest => some (['>'], rest)
  | _ => none

/-- The redirection at the beginning of a text: its stream, its symbol, and the text behind it. -/
def redirection? (cs : List Char) : Option (Nat × List Char × List Char) :=
  let (front, rest) := cs.span Char.isDigit
  match front, redirectSymbol? rest with
  | [], some (symbol, rest) => some (if symbol.head? = some '<' then 0 else 1, symbol, rest)
  | [d], some (symbol, rest) => some (d.toNat - 48, symbol, rest)
  | _, _ => none

/-- Whether a line goes on in the next one: an odd number of backslashes stands at its end. -/
def continues (line : List Char) : Bool :=
  (line.reverse.takeWhile (· = '\\')).length % 2 = 1

/-- The lines of a document up to its mark, and the text behind it; none if the mark is missing. A
line that goes on, unless nothing is put in, is one with the next. -/
def documentLines (a : Awaited) :
    Nat → Bool → List Char → List Char × Option (List Char)
  | 0, _, cs => (cs, none)
  | _ + 1, _, [] => ([], none)
  | fuel + 1, inside, c :: rest =>
    let (line, behind) := (c :: rest).span (· ≠ '\n')
    let line := if a.stripped && !inside then line.dropWhile (· = '\t') else line
    if line = a.mark && !inside then ([], some (behind.drop 1))
    else
      let (lines, rest) := documentLines a fuel (!a.quoted && continues line) (behind.drop 1)
      (line ++ behind.take 1 ++ lines, rest)

/-- What has been read of a script. -/
structure Reading where
  /-- The line that is being read. -/
  line : Nat
  /-- The tokens, last first. -/
  tokens : List Token := []
  /-- Documents that are to come, in order. -/
  awaited : List Awaited := []
  /-- The documents with their numbers and the lines in which they end. -/
  documents : List (Nat × Pieces × Nat) := []
  /-- How many documents were asked for. -/
  count : Nat := 0
  /-- The end of a document is missing. -/
  opened : Bool := false

namespace Reading

/-- Adds a token. -/
def add (r : Reading) (sign : Sign) : Reading := { r with tokens := ⟨sign, r.line⟩ :: r.tokens }

/-- Goes to the next line. -/
def nextLine (r : Reading) : Reading := { r with line := r.line + 1 }

/-- Reads the documents that are to come. -/
def takeDocuments (r : Reading) (cs : List Char) : Reading × List Char :=
  r.awaited.foldl
    (fun (r, cs) a =>
      let (text, rest) := documentLines a (cs.length + 1) false cs
      let pieces := if a.quoted then [.text text true] else documentPieces r.line text
      let last := r.line + text.count '\n'
      let line := if rest.isSome then last + 1 else last
      let shown := if pieces.any Piece.isUnclosed then line else last
      let documents := (a.number, pieces, shown) :: r.documents
      ({ r with line, documents, opened := r.opened || rest.isNone }, rest.getD []))
    ({ r with awaited := [] }, cs)

/-- Asks for a document whose mark stands at the beginning of a text. -/
def await (r : Reading) (stream : Nat) (stripped : Bool) (cs : List Char) : Reading × List Char :=
  let front := cs.dropWhile fun c => c = ' ' || c = '\t'
  let (mark, rest) := takeMark false front
  let a : Awaited := ⟨r.count, mark.text, mark.quoted, stripped⟩
  if rest.length = front.length then (r.add (.redirect stream "<<".toList), rest)
  else
    let taken := front.take (front.length - rest.length)
    let r := { r with line := r.line + taken.count '\n' }
    if !mark.closed then (r.add (.word [.unclosed .quote]), rest)
    else
      let r := r.add (.awaited stream r.count)
      ({ r with awaited := r.awaited ++ [a], count := r.count + 1 }, rest)

/-- Puts the documents where they were asked for. -/
def placed (r : Reading) : List Token :=
  r.tokens.reverse.map fun t =>
    match t.sign with
    | .awaited stream number =>
      match r.documents.find? fun d => d.1 = number with
      | some (_, pieces, last) => ⟨.document stream pieces last, t.line⟩
      | none => ⟨.document stream [] t.line, t.line⟩
    | _ => t

end Reading

/-- Reads a script to its end. -/
def readWith : Nat → Reading → List Char → Reading
  | 0, r, _ => r
  | _ + 1, r, [] => r
  | fuel + 1, r, c :: rest =>
    match c, rest with
    | '\\', '\n' :: more => readWith fuel r.nextLine more
    | _, _ =>
      if c = ' ' || c = '\t' then readWith fuel r rest
      else if c = '#' then readWith fuel r (rest.dropWhile (· ≠ '\n'))
      else if c = '\n' then
        let (r, rest) := (r.nextLine.add (.op ['\n'])).takeDocuments rest
        readWith fuel r rest
      else
        match operator? (c :: rest), redirection? (c :: rest) with
        | some (symbol, rest), _ => readWith fuel (r.add (.op symbol)) rest
        | none, some (stream, symbol, rest) =>
          if symbol.take 2 = ['<', '<'] then
            let (r, rest) := r.await stream (symbol.length = 3) rest
            readWith fuel r rest
          else readWith fuel (r.add (.redirect stream symbol)) rest
        | none, none =>
          let (pieces, line, rest) := wordPieces r.line (c :: rest)
          readWith fuel ({ r with line }.add (.word pieces)) rest

/-- A script that is being read. -/
structure Script where
  /-- The tokens that are left. -/
  tokens : List Token
  /-- The line in which it ends. -/
  last : Nat
  /-- The line up to which it has been read. -/
  reached : Nat := 1
  /-- It is the file that the shell was started for. -/
  isFile : Bool := false

/-- The script that a text is which begins in a line. -/
def Script.ofText (line : Nat) (cs : List Char) : Script :=
  let r := readWith (cs.length + 1) { line } cs
  { tokens := r.placed, last := max r.line (line + cs.count '\n') }

/-- The script with fewer tokens; what was read goes on to the end of its line. -/
def Script.behind (s : Script) (rest : List Token) : Script :=
  let read := s.tokens.take (s.tokens.length - rest.length)
  let ends (t : Token) : Bool := match t.sign with | .op symbol => symbol = ['\n'] | _ => false
  let reached :=
    match read.getLast?.filter ends, rest with
    | some t, _ => t.line
    | none, t :: _ => t.line
    | none, [] => s.last
  { s with tokens := rest, reached }

/-- Whether a part of a script cannot be its end: a document in it does not end, or its last line
goes on in the next one. -/
def isOpenEnded (cs : List Char) : Bool :=
  let r := readWith (cs.length + 1) { line := 1 } cs
  r.opened || !r.awaited.isEmpty || ['\\', '\n'].isSuffixOf cs

/-- Whether a token is a keyword. -/
def Token.isKeyword (t : Token) (keyword : String) : Bool :=
  match t.sign with
  | .word pieces => plain? pieces = some keyword.toList
  | _ => false

/-- Whether a token is an operator. -/
def Token.isOp (t : Token) (symbol : String) : Bool :=
  match t.sign with
  | .op s => s = symbol.toList
  | _ => false

theorem Script.ofText_nil (line : Nat) :
    Script.ofText line [] = { tokens := [], last := line } := by
  simp [Script.ofText, readWith, Reading.placed]

end ProbeBench.Shell
