import ProbeBench.Text.Digit
import ProbeBench.Text.Search
import ProbeBench.Toml.Fault

/-!
# Blanks, strings and keys

The smallest pieces of a TOML document. Strings come in four forms: in double quotes with escapes or
in single quotes without, and both on one line or, between three quotes, on several. A key is a
sequence of names with dots between them, each a bare word or a string on one line. What takes fuel
needs more of it than there are characters.
-/

namespace ProbeBench.Toml

/-- Whether `c` is a blank. -/
def isBlank (c : Char) : Bool := c = ' ' || c = '\t'

/-- Whether `c` is a blank or ends a line. -/
def isBlankOrEnd (c : Char) : Bool := isBlank c || c = '\n'

/-- Whether `c` is a control character other than a tab. -/
def isControl (c : Char) : Bool := (c.toNat < 0x20 || c.toNat = 0x7f) && c ≠ '\t'

/-- Whether a string may not hold `c`; one on several lines may hold line ends. -/
def isIllegal (multiline : Bool) (c : Char) : Bool :=
  isControl c && !(multiline && c = '\n')

/-- The text from the first character on that is no blank. -/
def skipBlanks (cs : List Char) : List Char := cs.dropWhile isBlank

/-- The text from the end of a comment on, which is a line end or nothing. -/
def skipToEnd : List Char → Except Stop (List Char)
  | [] => .ok []
  | c :: rest =>
    if c = '\n' then .ok (c :: rest)
    else if isControl c then .error (.at (.invalid c) (rest.length + 1))
    else skipToEnd rest

/-- The text behind a comment, if one begins here. -/
def skipComment : List Char → Except Stop (List Char)
  | '#' :: rest => skipToEnd rest
  | cs => .ok cs

/-- The text behind blanks, line ends and comments. -/
def skipFiller (inComment : Bool) : List Char → Except Stop (List Char)
  | [] => .ok []
  | c :: rest =>
    if inComment then
      if c = '\n' then skipFiller false rest
      else if isControl c then .error (.at (.invalid c) (rest.length + 1))
      else skipFiller true rest
    else if isBlankOrEnd c then skipFiller false rest
    else if c = '#' then skipFiller true rest
    else .ok (c :: rest)

/-! ## Strings -/

/-- The content of a string without escapes, up to the text `mark`, and what follows that. -/
def rawContent (multiline : Bool) (mark : List Char) (cs : List Char) :
    Except Stop (List Char × List Char) :=
  match Text.find? mark cs with
  | none => .error (.at (.expected (String.ofList mark)) 0)
  | some n =>
    let content := cs.take n
    match content.find? (isIllegal multiline) with
    | some c =>
      .error (.at (.invalid c) (cs.length - (content.takeWhile (!isIllegal multiline ·)).length))
    | none => .ok (content, cs.drop (n + mark.length))

/-- The character that an escape letter stands for. -/
def escaped? (c : Char) : Option Char :=
  if c = 'b' then some '\x08'
  else if c = 't' then some '\t'
  else if c = 'n' then some '\n'
  else if c = 'f' then some '\x0c'
  else if c = 'r' then some '\r'
  else if c = '"' ∨ c = '\\' then some c
  else none

/-- The character whose number stands in the next `width` hexadecimal digits. -/
def hexCharacter (width : Nat) (cs : List Char) : Except Stop (List Char × List Char) :=
  let digits := cs.take width
  if digits.length = width then
    match Text.hexValueOf? digits with
    | none => .error (.at .hexadecimal cs.length)
    | some n =>
      if h : n.isValidChar then .ok ([Char.ofNatAux n h], cs.drop width)
      else .error (.at .notScalar (cs.length - width))
  else .error (.at .hexadecimal cs.length)

/-- What an escape stands for, read from behind its backslash. On several lines a backslash before
the end of a line takes away the blanks and line ends that follow. -/
def escape (multiline : Bool) : List Char → Except Stop (List Char × List Char)
  | [] => .error (.at .escape 0)
  | c :: rest =>
    if multiline && c = '\n' then .ok ([], rest.dropWhile isBlankOrEnd)
    else if multiline && isBlank c then
      match skipBlanks rest with
      | [] => .ok ([], [])
      | d :: more =>
        if d = '\n' then .ok ([], more.dropWhile isBlankOrEnd)
        else .error (.at .escape (more.length + 1))
    else if c = 'u' then hexCharacter 4 rest
    else if c = 'U' then hexCharacter 8 rest
    else
      match escaped? c with
      | some ch => .ok ([ch], rest)
      | none => .error (.at .escape rest.length)

/-- A string with escapes, read from behind its opening quotes. -/
def quoted (multiline : Bool) : Nat → List Char → Except Stop (List Char × List Char)
  | 0, _ => .error (.at .unterminated 0)
  | _ + 1, [] => .error (.at .unterminated 0)
  | fuel + 1, c :: rest =>
    if c = '"' && !multiline then .ok ([], rest)
    else if c = '"' && rest.take 2 = ['"', '"'] then .ok ([], rest.drop 2)
    else if c = '\\' then do
      let (piece, rest) ← escape multiline rest
      let (content, rest) ← quoted multiline fuel rest
      return (piece ++ content, rest)
    else if c ≠ '"' && isIllegal multiline c then .error (.at (.illegal c) (rest.length + 1))
    else do
      let (content, rest) ← quoted multiline fuel rest
      return (c :: content, rest)

/-- A string without escapes on one line, read from behind its opening quote. -/
def raw (cs : List Char) : Except Stop (List Char × List Char) :=
  rawContent false ['\x27'] cs

/-- At most two more quotes belong to the content of a string on several lines. -/
def takeQuotes (quote : Char) (content rest : List Char) : List Char × List Char :=
  let extra := (rest.take 2).takeWhile (· = quote)
  (content ++ extra, rest.drop extra.length)

/-- A string on several lines, read from behind its opening quotes. A line end right there does not
belong to it. -/
def multilineString (quote : Char) (fuel : Nat) (cs : List Char) :
    Except Stop (List Char × List Char) := do
  let cs := if cs.head? = some '\n' then cs.drop 1 else cs
  let (content, rest) ←
    if quote = '"' then quoted true fuel cs else rawContent true (List.replicate 3 quote) cs
  return takeQuotes quote content rest

/-! ## Keys -/

/-- Whether a name without quotes may hold `c`. -/
def isBare (c : Char) : Bool := c.isAlphanum || c = '-' || c = '_'

/-- Whether a key may begin with `c`. -/
def isKeyStart (c : Char) : Bool := isBare c || c = '"' || c = '\x27'

/-- A name of a key. -/
def keyName (fuel : Nat) (cs : List Char) : Except Stop (List Char × List Char) :=
  match cs with
  | '"' :: rest => quoted false fuel rest
  | '\x27' :: rest => raw rest
  | _ =>
    let name := cs.takeWhile isBare
    if name.isEmpty then .error (.at .keyStart cs.length) else .ok (name, cs.drop name.length)

/-- A key and the blanks behind it. -/
def key : Nat → List Char → Except Stop (Key × List Char)
  | 0, cs => .error (.at .keyStart cs.length)
  | fuel + 1, cs => do
    let (name, rest) ← keyName fuel cs
    match skipBlanks rest with
    | '.' :: more =>
      let (names, rest) ← key fuel (skipBlanks more)
      return (String.ofList name :: names, rest)
    | rest => return ([String.ofList name], rest)

end ProbeBench.Toml
