/-!
# Words of a shell script

A word is made of pieces: plain text, the value of a variable or what is made of it, its length, a
sum, the output of a script. What stands in quotes stays together as one word when values are put
in. Characters stand for octets. `wordPieces` reads a word, `documentPieces` a text in which only
values are put in.

* `behind_word`: the character that ends a word stays to be read.
-/

namespace ProbeBench.Shell

/-- What is made of a value. -/
inductive Edit where
  | whole
  /-- Another text if there is no value. -/
  | otherwise
  /-- Another text, which becomes the value, if there is none. -/
  | assign
  /-- Another text if there is a value, and nothing if there is none. -/
  | instead
  /-- It has to be there. -/
  | demand
  /-- What is left without a pattern at its beginning. -/
  | cutFront (longest : Bool)
  /-- What is left without a pattern at its end. -/
  | cutBack (longest : Bool)
  deriving DecidableEq, Repr

/-- A script inside a word. -/
structure Inset where
  text : List Char
  /-- It stands between accents, and not between brackets. -/
  accented : Bool
  /-- The line in which it begins. Between accents lines are counted anew. -/
  line : Nat := 1

/-- What can be left open at the end of a script. -/
inductive Gap where
  | quote
  | brace
  | accent
  | sum
  /-- A script between brackets. -/
  | script (inset : Inset)

/-- A part of a word. -/
inductive Piece where
  | text (cs : List Char) (quoted : Bool)
  /-- What is made of the value of a variable; with `orEmpty` an empty value counts as none. -/
  | value (name : List Char) (edit : Edit) (orEmpty : Bool) (word : List Piece) (quoted : Bool)
  /-- The length of the value of a variable. -/
  | size (name : List Char) (quoted : Bool)
  /-- The value of an arithmetic expression. -/
  | sum (expression : List Piece) (quoted : Bool)
  /-- What a script writes. -/
  | output (script : Inset) (quoted : Bool)
  /-- Something between braces that says nothing about a value. -/
  | senseless
  /-- What follows is left out, behind a value that a colon has nothing to say about. -/
  | finish
  /-- A quote or a bracket that is not closed. -/
  | unclosed (gap : Gap)

/-- A word of a script. -/
abbrev Pieces := List Piece

/-- Whether a piece is not closed. -/
def Piece.isUnclosed : Piece → Bool
  | .unclosed _ => true
  | _ => false

/-- Whether a name may begin with `c`. -/
def isNameStart (c : Char) : Bool := c.isAlpha || c = '_'

/-- Whether a name may hold `c`. -/
def isNameChar (c : Char) : Bool := c.isAlphanum || c = '_'

/-- Whether a text can be the name of a variable. -/
def isName : List Char → Bool
  | [] => false
  | c :: rest => isNameStart c && rest.all isNameChar

/-- Whether `c` alone is the name of a special value. -/
def isSpecial (c : Char) : Bool := c.isDigit || "#@*?$!-".toList.contains c

/-- Whether `c` ends a word. -/
def endsWord (c : Char) : Bool := " \t\n;&|()<>".toList.contains c

/-! ## Where a script inside a word ends -/

/-- What is open inside a script. -/
inductive Nest where
  /-- A bracket around commands. -/
  | bracket
  /-- A script whose output is put in. -/
  | output
  /-- What is made of a value, which may stand in quotes. -/
  | brace (quoted : Bool)
  | quote
  /-- A choice by patterns, before its first pattern. -/
  | choice
  /-- The patterns of a branch. -/
  | patterns
  /-- The commands of a branch. -/
  | branch
  deriving DecidableEq

/-- What can stand at a place in a script. -/
inductive Spot where
  /-- A command can begin here, and so can a keyword. -/
  | start
  /-- The text that a choice is about. -/
  | subject
  /-- A pattern or the end of a choice. -/
  | pattern
  /-- A word that is no keyword. -/
  | fresh
  /-- The rest of a word. -/
  | within
  deriving DecidableEq

/-- Whether a keyword stands at the beginning of a text. -/
def beginsWith (keyword : String) (cs : List Char) : Bool :=
  keyword.toList.isPrefixOf cs && ((cs.drop keyword.length).head?.map endsWord).getD true

/-- The text before the two brackets that close an expression, and the text behind them; `depth`
brackets are open in it. -/
def sumSpan? (depth : Nat) : List Char → Option (List Char × List Char)
  | [] => none
  | [_] => none
  | ')' :: ')' :: rest =>
    if depth = 0 then some ([], rest)
    else (sumSpan? (depth - 1) (')' :: rest)).map fun r => (')' :: r.1, r.2)
  | '\\' :: c :: rest => (sumSpan? depth rest).map fun r => ('\\' :: c :: r.1, r.2)
  | c :: rest =>
    let depth := if c = '(' then depth + 1 else if c = ')' then depth - 1 else depth
    (sumSpan? depth rest).map fun r => (c :: r.1, r.2)

/-- The mark of a document. -/
structure Mark where
  text : List Char
  /-- A part of it is quoted, and so nothing is put into the document. -/
  quoted : Bool
  /-- Every quote in it is closed. -/
  closed : Bool

/-- More text in front of a mark. -/
def Mark.after (m : Mark) (text : List Char) (quoted : Bool) : Mark :=
  { m with text := text ++ m.text, quoted := quoted || m.quoted }

/-- The mark at the beginning of a text, and the text behind it. Nothing is put in; `inside` says
whether the text is between double quotes. -/
def takeMark (inside : Bool) : List Char → Mark × List Char
  | [] => (⟨[], false, !inside⟩, [])
  | '\\' :: '\n' :: rest => takeMark inside rest
  | '\\' :: c :: rest =>
    let kept := inside && !"$\x60\\\"".toList.contains c
    let (m, rest) := takeMark inside rest
    (m.after (if kept then ['\\', c] else [c]) true, rest)
  | '"' :: rest =>
    let (m, rest) := takeMark (!inside) rest
    (m.after [] true, rest)
  | '\x27' :: rest =>
    if inside then
      let (m, rest) := takeMark inside rest
      (m.after ['\x27'] false, rest)
    else
      let text := rest.takeWhile (· ≠ '\x27')
      if text.length = rest.length then (⟨text, true, false⟩, [])
      else
        let (m, rest) := takeMark inside (rest.drop (text.length + 1))
        (m.after text true, rest)
  | c :: rest =>
    if endsWord c && !inside then (⟨[], false, true⟩, c :: rest)
    else
      let (m, rest) := takeMark inside rest
      (m.after [c] false, rest)
termination_by cs => cs.length
decreasing_by all_goals simp_wf; try omega

/-- The lines of a document up to its mark, and the text behind it; none if the mark is missing. -/
def documentSpan? (stripped : Bool) (mark : List Char) :
    Nat → List Char → Option (List Char × List Char)
  | 0, _ => none
  | _ + 1, [] => none
  | fuel + 1, c :: rest =>
    let (line, behind) := (c :: rest).span (· ≠ '\n')
    let plain := if stripped then line.dropWhile (· = '\t') else line
    if plain = mark then some (line ++ behind.take 1, behind.drop 1)
    else
      (documentSpan? stripped mark fuel (behind.drop 1)).map fun r =>
        (line ++ behind.take 1 ++ r.1, r.2)

/-- The documents behind a line, by their marks, and the text behind them. -/
def documentsSpan? (cs : List Char) : List (Bool × List Char) → Option (List Char × List Char)
  | [] => some ([], cs)
  | (stripped, mark) :: rest =>
    match documentSpan? stripped mark (cs.length + 1) cs with
    | none => none
    | some (text, cs) => (documentsSpan? cs rest).map fun r => (text ++ r.1, r.2)

/-- The text up to an accent that closes it, and the text behind that. -/
def accented : List Char → List Char × List Char
  | [] => ([], [])
  | '\x60' :: rest => (['\x60'], rest)
  | '\\' :: c :: rest =>
    let r := accented rest
    ('\\' :: c :: r.1, r.2)
  | c :: rest =>
    let r := accented rest
    (c :: r.1, r.2)

/-- The keywords behind which a command can begin. -/
def keywordsBefore : List String :=
  ["if", "then", "else", "elif", "fi", "do", "done", "while", "until", "!", "\x7b", "\x7d"]

/-- What a keyword at a spot changes: its text, what is open behind it, and the spot there. -/
def keywordAt? (nests : List Nest) (spot : Spot) (cs : List Char) :
    Option (String × List Nest × Spot) :=
  let ending : List (String × List Nest × Spot) :=
    match nests with
    | .patterns :: outer => [("esac", outer, .start)]
    | .branch :: outer => [("esac", outer, .start)]
    | _ => []
  let found : List (String × List Nest × Spot) :=
    match spot, nests with
    | .start, _ => ("case", .choice :: nests, .subject) :: ending ++
        keywordsBefore.map fun k => (k, nests, .start)
    | .pattern, _ => ending
    | .fresh, .choice :: outer => [("in", .patterns :: outer, .pattern)]
    | _, _ => []
  found.find? fun r => beginsWith r.1 cs

/-- What is open behind a character outside of quotes, and the spot there. -/
def behindChar (nests : List Nest) (spot : Spot) (c : Char) (rest : List Char) :
    List Nest × Spot :=
  match c, nests with
  | '(', .patterns :: _ => (nests, .fresh)
  | '(', _ => (.bracket :: nests, .start)
  | ')', .patterns :: outer => (.branch :: outer, .start)
  | ')', .bracket :: outer => (outer, .start)
  | ')', .output :: outer => (outer, .within)
  | '|', .patterns :: _ => (nests, .fresh)
  | ';', .branch :: outer =>
    if rest.head? = some ';' then (.patterns :: outer, .pattern) else (nests, .start)
  | '\n', .choice :: _ => (nests, .fresh)
  | _, _ =>
    if c = ' ' || c = '\t' then (nests, if spot = .within then .fresh else spot)
    else if c = '<' || c = '>' then (nests, .fresh)
    else if endsWord c then (nests, if spot = .pattern then .pattern else .start)
    else (nests, .within)

/-- The script up to the bracket that closes it, and the text behind that; none if it is not closed.
`marks` are those of documents that stand behind the line. -/
def scriptSpan? : Nat → List Nest → Spot → List (Bool × List Char) → List Char →
    Option (List Char × List Char)
  | 0, _, _, _, _ => none
  | _ + 1, _, _, _, [] => none
  | fuel + 1, nests, spot, marks, c :: rest =>
    let go (taken : List Char) (nests : List Nest) (spot : Spot) (rest : List Char) :=
      (scriptSpan? fuel nests spot marks rest).map fun r => (taken ++ r.1, r.2)
    match nests, c, rest with
    | .quote :: outer, '"', _ => go [c] outer .within rest
    | .brace _ :: outer, '\x7d', _ => go [c] outer .within rest
    | _, '\\', '\n' :: more => go [c, '\n'] nests spot more
    | _, '\\', d :: more => go [c, d] nests .within more
    | _, '$', '(' :: '(' :: more =>
      match sumSpan? 0 more with
      | some (text, more) => go ("$((".toList ++ text ++ "))".toList) nests .within more
      | none => go "$(".toList (.output :: nests) .start ('(' :: more)
    | _, '$', '(' :: more => go [c, '('] (.output :: nests) .start more
    | _, '$', '\x7b' :: more =>
      let quoted := nests.head? = some .quote || nests.head? = some (.brace true)
      go [c, '\x7b'] (.brace quoted :: nests) .within more
    | _, '\x60', _ =>
      let (text, rest) := accented rest
      go (c :: text) nests .within rest
    | .quote :: _, _, _ => go [c] nests .within rest
    | _, '"', _ => go [c] (.quote :: nests) .within rest
    | .brace true :: _, _, _ => go [c] nests .within rest
    | _, '\x27', _ =>
      let text := rest.takeWhile (· ≠ '\x27')
      go (c :: text ++ ['\x27']) nests .within (rest.drop (text.length + 1))
    | .brace _ :: _, _, _ => go [c] nests .within rest
    | [], ')', _ => some ([], rest)
    | _, '<', '<' :: more =>
      let stripped := decide (more.head? = some '-')
      let behind := (if stripped then more.drop 1 else more).dropWhile fun c => c = ' ' || c = '\t'
      let (mark, after) := takeMark false behind
      let taken := (c :: rest).take (rest.length + 1 - after.length)
      (scriptSpan? fuel nests .fresh (marks ++ [(stripped, mark.text)]) after).map fun r =>
        (taken ++ r.1, r.2)
    | _, _, _ =>
      let (inner, next) := behindChar nests spot c rest
      if c = '\n' then
        match documentsSpan? rest marks with
        | none => none
        | some (text, rest) =>
          (scriptSpan? fuel inner next [] rest).map fun r => (c :: text ++ r.1, r.2)
      else if spot ≠ .within && c = '#' then
        let comment := (c :: rest).takeWhile (· ≠ '\n')
        go comment nests spot ((c :: rest).drop comment.length)
      else
        match keywordAt? nests spot (c :: rest) with
        | some (keyword, inner, next) =>
          go keyword.toList inner next (rest.drop (keyword.length - 1))
        | none =>
          if c = ';' && next = .pattern then go [c, ';'] inner next (rest.drop 1)
          else go [c] inner next rest

/-- The script up to an accent that closes it, and the text behind that; none if it is not closed.
In it a backslash in front of a dollar, an accent or a backslash is left out, and where all this
stands in quotes, one in front of a double quote. -/
def accentSpan? (quoted : Bool) : List Char → Option (List Char × List Char)
  | [] => none
  | '\x60' :: rest => some ([], rest)
  | '\\' :: d :: rest =>
    let plain := d = '\x60' || d = '\\' || d = '$' || (quoted && d = '"')
    (accentSpan? quoted rest).map fun r => ((if plain then [d] else ['\\', d]) ++ r.1, r.2)
  | c :: rest => (accentSpan? quoted rest).map fun r => (c :: r.1, r.2)

/-! ## Reading pieces -/

/-- Where pieces stand. -/
inductive Context where
  /-- In a word by itself. -/
  | word
  /-- Between double quotes. -/
  | quotes
  /-- In a text that is given to a command. -/
  | document
  /-- Between braces, which may themselves be in quotes. -/
  | braces (quoted : Bool)
  deriving DecidableEq

/-- Whether text counts as quoted. -/
def Context.isQuoted : Context → Bool
  | .word => false
  | .braces quoted => quoted
  | _ => true

/-- Whether `c` ends the pieces. -/
def Context.isEnd (k : Context) (c : Char) : Bool :=
  match k with
  | .word => endsWord c
  | .quotes => c = '"'
  | .document => false
  | .braces _ => c = '\x7d'

/-- The text behind the pieces that `c` ends. -/
def Context.behind (k : Context) (c : Char) (rest : List Char) : List Char :=
  match k with
  | .word => c :: rest
  | _ => rest

/-- The pieces at the end of a text, where something may not be closed. -/
def Context.atEnd : Context → Pieces
  | .word => []
  | .document => []
  | .braces false => [.unclosed .brace]
  | _ => [.unclosed .quote]

/-- The text that a backslash in front of `c` stands for. -/
def Context.escape (k : Context) (c : Char) : Piece :=
  let plain := c = '$' || c = '\x60' || c = '\\' || (c = '"' && k ≠ .document) ||
    (c = '\x7d' && k = .braces true)
  if c = '\n' then .text [] false
  else if !k.isQuoted || plain then .text [c] true
  else .text ['\\', c] true

/-- The name behind an opening brace, and the text behind it. -/
def takeName (cs : List Char) : List Char × List Char :=
  match cs with
  | c :: rest =>
    if c.isDigit then cs.span Char.isDigit
    else if isSpecial c then ([c], rest)
    else cs.span isNameChar
  | [] => ([], [])

/-- What is made of a value, whether an empty one counts as none, and the text behind that. -/
def takeEdit? : List Char → Option (Edit × Bool × List Char)
  | ':' :: c :: rest => (editOf? c).map fun e => (e, true, rest)
  | '#' :: '#' :: rest => some (.cutFront true, false, rest)
  | '#' :: rest => some (.cutFront false, false, rest)
  | '%' :: '%' :: rest => some (.cutBack true, false, rest)
  | '%' :: rest => some (.cutBack false, false, rest)
  | c :: rest => (editOf? c).map fun e => (e, false, rest)
  | [] => none
where
  editOf? : Char → Option Edit
    | '-' => some .otherwise
    | '=' => some .assign
    | '+' => some .instead
    | '?' => some .demand
    | _ => none

/-- Whether an edit takes a pattern. -/
def Edit.takesPattern : Edit → Bool
  | .cutFront _ => true
  | .cutBack _ => true
  | _ => false

/-- The length of a value that stands between braces behind a number sign. -/
def takeSize? (cs : List Char) : Option (List Char × List Char) :=
  match takeName cs with
  | (c :: name, '\x7d' :: rest) => some (c :: name, rest)
  | _ => none

/-- Whether what stands alone between braces, behind a number sign, is no name and has no length. -/
def hasNoSize (cs : List Char) : Bool :=
  match cs with
  | c :: '\x7d' :: _ => c ≠ '\x7d' && !isNameChar c && !isSpecial c
  | _ => false

/-- Whether pieces are only all arguments; quotes around these hold nothing where there are none. -/
def isOnlyArguments (pieces : Pieces) : Bool :=
  match pieces with
  | [.value ['@'] .whole _ _ _] => true
  | _ => false

mutual

/-- The pieces that a dollar stands for, read from behind it. -/
def dollarWith : Nat → Bool → List Char → Pieces × List Char
  | 0, _, cs => ([], cs)
  | fuel + 1, quoted, cs =>
    match cs with
    | '\x7b' :: '#' :: rest =>
      match takeSize? rest with
      | some (name, rest) => ([.size name quoted], rest)
      | none =>
        if hasNoSize rest then ([.senseless], rest.drop 2)
        else bracesWith fuel quoted ('#' :: rest)
    | '\x7b' :: rest => bracesWith fuel quoted rest
    | '(' :: '(' :: rest =>
      match sumSpan? 0 rest with
      | some (text, rest) => ([.sum (piecesWith fuel .document text).1 quoted], rest)
      | none =>
        let (pieces, _) := piecesWith fuel .document rest
        let inner := pieces.filter Piece.isUnclosed
        (if inner.isEmpty then [.unclosed .sum] else inner, [])
    | '(' :: rest =>
      match scriptSpan? (rest.length + 1) [] .start [] rest with
      | some (text, rest) => ([.output { text, accented := false } quoted], rest)
      | none => ([.unclosed (.script { text := rest, accented := false })], [])
    | c :: rest =>
      if isSpecial c then ([.value [c] .whole false [] quoted], rest)
      else if isNameStart c then
        let (name, rest) := (c :: rest).span isNameChar
        ([.value name .whole false [] quoted], rest)
      else ([.text ['$'] quoted], cs)
    | [] => ([.text ['$'] quoted], [])

/-- The pieces behind an opening brace. -/
def bracesWith : Nat → Bool → List Char → Pieces × List Char
  | 0, _, cs => ([], cs)
  | fuel + 1, quoted, cs =>
    let (name, rest) := takeName cs
    let senseless (rest : List Char) : Pieces × List Char :=
      let (word, rest) := piecesWith fuel (.braces quoted) rest
      (if word.any Piece.isUnclosed then word else [.senseless], rest)
    match name, rest with
    | [], _ => senseless (if rest.head? = some '\x7d' then rest else rest.drop 1)
    | _, '\x7d' :: rest => ([.value name .whole false [] quoted], rest)
    | _, ':' :: '\x7d' :: rest =>
      let (word, rest) := piecesWith fuel (.braces quoted) rest
      if word.any Piece.isUnclosed then (word, [])
      else (.value name .whole true [] quoted :: word ++ [.finish], rest)
    | _, _ =>
      match takeEdit? rest with
      | none => senseless (rest.drop (if rest.head? = some ':' then 2 else 1))
      | some (edit, orEmpty, rest) =>
        let (word, rest) := piecesWith fuel (.braces (quoted && !edit.takesPattern)) rest
        if word.any Piece.isUnclosed then (word, [])
        else ([.value name edit orEmpty word quoted], rest)

/-- The pieces up to where they end, and the text behind them. -/
def piecesWith : Nat → Context → List Char → Pieces × List Char
  | 0, _, cs => ([], cs)
  | _ + 1, k, [] => (k.atEnd, [])
  | fuel + 1, k, c :: rest =>
    if k.isEnd c then ([], k.behind c rest)
    else
      let (pieces, rest) :=
        match c, rest with
        | '$', _ => dollarWith fuel k.isQuoted rest
        | '\x60', _ =>
          match accentSpan? k.isQuoted rest with
          | some (text, rest) => ([Piece.output { text, accented := true } k.isQuoted], rest)
          | none => ([Piece.unclosed .accent], [])
        | '\\', d :: more => ([k.escape d], more)
        | '\x27', _ =>
          if k.isQuoted then ([.text [c] true], rest)
          else
            let text := rest.takeWhile (· ≠ '\x27')
            if text.length = rest.length then ([.unclosed .quote], [])
            else ([.text text true], rest.drop (text.length + 1))
        | '"', _ =>
          if k = .document then ([.text [c] true], rest)
          else
            let (pieces, rest) := piecesWith fuel .quotes rest
            (if isOnlyArguments pieces then pieces else .text [] true :: pieces, rest)
        | _, _ => ([.text [c] k.isQuoted], rest)
      let (more, rest) := piecesWith fuel k rest
      (pieces ++ more, rest)

end

/-! ## Lines -/

mutual

/-- The number of ends of lines in a piece. Outside of quotes a piece without text stands for one
that a backslash hides. -/
def Piece.lineEnds : Piece → Nat
  | .text [] quoted => if quoted then 0 else 1
  | .text cs _ => cs.count '\n'
  | .value _ _ _ word _ => lineEndsIn word
  | .sum expression _ => lineEndsIn expression
  | .output script _ => script.text.count '\n'
  | _ => 0

/-- The number of ends of lines in pieces. -/
def lineEndsIn : List Piece → Nat
  | [] => 0
  | p :: rest => p.lineEnds + lineEndsIn rest

end

/-- A script inside a word of which the line is known. -/
def Inset.inLine (s : Inset) (line : Nat) : Inset := if s.accented then s else { s with line }

mutual

/-- A piece that begins in a line. -/
def Piece.inLine (line : Nat) : Piece → Piece
  | .value name edit orEmpty word quoted => .value name edit orEmpty (piecesFrom line word) quoted
  | .sum expression quoted => .sum (piecesFrom line expression) quoted
  | .output script quoted => .output (script.inLine line) quoted
  | .unclosed (.script s) => .unclosed (.script (s.inLine line))
  | p => p

/-- Pieces that begin in a line. -/
def piecesFrom (line : Nat) : List Piece → List Piece
  | [] => []
  | p :: rest => p.inLine line :: piecesFrom (line + p.lineEnds) rest

end

/-- Whether pieces go on behind a piece. -/
def Piece.goesOn : Piece → Bool
  | .finish => false
  | _ => true

/-- The pieces of a word that begins in a line, the line in which it ends, and the text behind
it. -/
def wordPieces (line : Nat) (cs : List Char) : Pieces × Nat × List Char :=
  let (pieces, rest) := piecesWith (2 * cs.length + 2) .word cs
  (piecesFrom line (pieces.takeWhile Piece.goesOn), line + lineEndsIn pieces, rest)

/-- The pieces of a text that begins in a line and in which only values are put in. -/
def documentPieces (line : Nat) (cs : List Char) : Pieces :=
  piecesFrom line ((piecesWith (2 * cs.length + 2) .document cs).1.takeWhile Piece.goesOn)

theorem behind_word (c : Char) (rest : List Char) : Context.word.behind c rest = c :: rest := rfl

/-! ## Plain text -/

/-- The text of a word without quotes and values, which can be a keyword. -/
def plain? (pieces : Pieces) : Option (List Char) :=
  pieces.foldrM
    (fun piece cs =>
      match piece with
      | .text t false => some (t ++ cs)
      | _ => none)
    []

end ProbeBench.Shell
