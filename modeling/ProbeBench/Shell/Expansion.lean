import ProbeBench.Files.Tree
import ProbeBench.Shell.Home
import ProbeBench.Shell.Pattern
import ProbeBench.Shell.Sum

/-!
# Words become fields

`fields` makes words into fields: a value without quotes falls apart at separators, one in quotes
does not, all arguments in quotes make a field each, and patterns become the names of files that
they fit. What a script inside a word writes is not known here: the outputs that are known are used
in order, and where one is missing the expansion stops and asks for it, to be done again with one
more.

* `toList_add`: text that is added stays in the last field.
-/

namespace ProbeBench.Shell

/-- Octets as characters. -/
def letters (octets : List UInt8) : List Char := octets.map fun b => Char.ofNat b.toNat

/-- Characters as the octets that they stand for. -/
def octetsOf (cs : List Char) : List UInt8 := cs.map fun c => c.toNat.toUInt8

/-- The octets of a text, as characters. -/
def lettersOf (text : String) : List Char := letters (Text.Utf8.encode text.toList)

/-- The text that characters as octets spell; nothing if they are no text. -/
def spelled? (cs : List Char) : Option String :=
  match Text.Utf8.decode (octetsOf cs) with
  | .ok text => some (String.ofList text)
  | .error _ => none

/-! ## Fields -/

/-- Fields that are being made. -/
structure Fields where
  /-- The complete ones, last first. -/
  complete : List (List Glyph) := []
  /-- The one that is still open, last character first. -/
  opened : Option (List Glyph) := none
  /-- The last field was completed by a blank, which a separator behind it belongs to. -/
  gap : Bool := false
  /-- The last value was all arguments in quotes. In the value behind it a blank separates like any
  other separator. -/
  sharp : Bool := false
  /-- The last text was one that falls apart, and may go on; says whether blanks in it do not count
  as such. -/
  loose : Option Bool := none

namespace Fields

/-- Adds text to the open field. -/
def add (f : Fields) (gs : List Glyph) : Fields :=
  { f with opened := some (gs.reverse ++ f.opened.getD []), loose := none }

/-- Completes the open field, be there one or not. -/
def close (f : Fields) : Fields :=
  { f with complete := (f.opened.getD []).reverse :: f.complete, opened := none }

/-- Adds a character of a value, at which fields may fall apart. A blank completes a field; another
separator does so even where there is none, and so does a blank if it counts as one. -/
def separate (separators : List Char) (sharp : Bool) (f : Fields) (g : Glyph) : Fields :=
  let isBreak := g.char = breakMark
  let isBlank := isBreak || " \t\n".toList.contains g.char
  if !isBreak && !separators.contains g.char then
    { f with opened := some (g :: f.opened.getD []), gap := false }
  else if f.gap then { f with gap := isBlank }
  else if sharp || !isBlank then f.close
  else if f.opened.isSome then { f.close with gap := true }
  else f

/-- Adds a value that falls apart at separators. -/
def split (f : Fields) (separators : List Char) (gs : List Glyph) : Fields :=
  gs.foldl (separate separators f.sharp) { f with gap := false, sharp := false, loose := none }

/-- Adds text of a word that falls apart like a value; the value goes on if there was such text
before. -/
def splitText (f : Fields) (separators : List Char) (gs : List Glyph) : Fields :=
  let sharp := f.loose.getD f.sharp
  let f := if f.loose.isSome then f else { f with gap := false }
  { gs.foldl (separate separators sharp) { f with sharp := false } with loose := some sharp }

/-- Adds texts with marks between them that are a field each. -/
def spread (f : Fields) (gs : List Glyph) : Fields :=
  { gs.foldl (separate [] true) { f with gap := false, loose := none } with sharp := true }

/-- The fields in order. Where the last value was all arguments in quotes, the last of them is there
even if it is empty. -/
def toList (f : Fields) : List (List Glyph) :=
  (if f.opened.isSome || f.sharp then f.close else f).complete.reverse

theorem toList_add (f : Fields) (gs : List Glyph) :
    (f.add gs).toList = f.complete.reverse ++ [(f.opened.getD []).reverse ++ gs] := by
  simp [add, toList, close]

end Fields

/-! ## Values put in -/

/-- Why an expansion stops. -/
inductive Halt where
  /-- It has to be known what a script writes, which knows what is known here. -/
  | asks (script : Inset) (scope : Scope)
  /-- Something in it is wrong. -/
  | failed (message : List Char)
  /-- A stream is to be led to one that has no number. -/
  | misled

/-- What is missing, in words. -/
def Wanted.message : Wanted → String
  | .operand => "expecting primary"
  | .bracket => "expecting ')'"
  | .colon => "expecting ':'"
  | .ending => "expecting EOF"

/-- What an expansion goes along with. -/
structure Expansion where
  scope : Scope
  /-- What scripts inside the words have written, as far as it was not used. -/
  outputs : List (List Char)

/-- A part of an expansion. -/
abbrev Expanding := StateT Expansion (Except Halt)

namespace Expanding

/-- Stops the expansion. -/
def halt {α : Type} (h : Halt) : Expanding α := StateT.lift (.error h)

/-- What is known. -/
def scope : Expanding Scope := do return (← get).scope

/-- The last output of a script inside the words. -/
def output (script : Inset) : Expanding (List Char) := do
  let e ← get
  match e.outputs with
  | cs :: rest =>
    set { e with outputs := rest }
    return cs
  | [] => halt (.asks script e.scope)

/-- Sets a variable. -/
def assign (name value : List Char) : Expanding Unit := do
  let e ← get
  match e.scope.refusal? name value with
  | some text => halt (.failed text)
  | none => set { e with scope := e.scope.set name value }

/-- The value of an arithmetic expression. -/
def sum (expression : List Char) : Expanding (List Char) := do
  let e ← get
  let refused (reason : String) : Halt :=
    .failed (("arithmetic expression: " ++ reason ++ ": \"").toList ++ expression ++ ['"'])
  match e.scope.sum expression with
  | .ok (n, scope) =>
    set { e with scope }
    return decimal n
  | .error (.malformed wanted) => halt (refused wanted.message)
  | .error .zeroDivision => halt (refused "division by zero")
  | .error (.notNumber cs) => halt (.failed ("Illegal number: ".toList ++ cs))
  | .error (.refused text) => halt (.failed text)

/-- The value of a variable, which has to be there if the option for that is set. -/
def value? (name : List Char) : Expanding (Option (List Char)) := do
  let s ← scope
  let value := s.text? name
  if value.isNone && s.has 'u' && name ≠ ['@'] && name ≠ ['*'] then
    halt (.failed (name ++ ": parameter not set".toList))
  return value

end Expanding

/-- Whether a name stands for all arguments. -/
def isAll (name : List Char) : Bool := name = ['@'] || name = ['*']

/-- How values are put into fields. -/
structure Manner where
  /-- Values fall apart. -/
  splits : Bool
  /-- Text without quotes falls apart, too. -/
  loose : Bool := false
  /-- Behind a colon there can be a folder of a user. -/
  colons : Bool := false

/-- Adds a value to fields. -/
def Fields.put (f : Fields) (m : Manner) (s : Scope) (quoted : Bool) (cs : List Char) : Fields :=
  if quoted || !m.splits then
    if quoted || !cs.isEmpty then f.add (glyphs (!quoted) cs) else f
  else f.split s.separators (glyphs true cs)

/-- All arguments as one value: they are kept apart, unless quotes hold them together. -/
def Scope.together (s : Scope) (quoted : Bool) (name : List Char) : List Char :=
  joinedBy (if quoted && name ≠ ['@'] then s.joint else [breakMark]) s.arguments

/-- Adds what is made of all arguments to fields. -/
def Fields.putAll (f : Fields) (s : Scope) (quoted : Bool) (name cs : List Char) : Fields :=
  if !quoted then f.split s.separators (glyphs true cs)
  else if name ≠ ['@'] then f.add (glyphs false cs)
  else if s.arguments.isEmpty then f
  else f.spread (glyphs false cs)

/-- The text of the fields that a word makes where it does not fall apart. -/
def Fields.joined (f : Fields) : List Glyph := f.toList.flatten

/-- The words for a value that is not there, or perhaps is empty; the script may have some. -/
def absence (name : List Char) (message : Option (List Char)) (orEmpty : Bool) : List Char :=
  let reason : String := if orEmpty then "parameter not set or null" else "parameter not set"
  name ++ ": ".toList ++ message.getD reason.toList

mutual

/-- Adds a piece of a word to fields. -/
def addPiece (m : Manner) (f : Fields) : Piece → Expanding Fields
  | .text cs quoted => do
    let s ← Expanding.scope
    if m.loose && m.splits && !quoted then
      return f.splitText s.separators (glyphs true cs)
    else return f.add (glyphs (!quoted) cs)
  | .size name quoted => do
    let cs := decimal ((← Expanding.value? name).getD []).length
    return f.put m (← Expanding.scope) quoted cs
  | .sum expression quoted => do
    let g ← addPieces { splits := false } .absent {} expression
    let cs ← Expanding.sum (textOf g.joined)
    return f.put m (← Expanding.scope) quoted cs
  | .output script quoted => do
    let cs ← Expanding.output script
    return f.put m (← Expanding.scope) quoted cs
  | .value name edit orEmpty word quoted => do
    let s ← Expanding.scope
    let value := s.text? name
    let isThere := value.isSome && !(orEmpty && (value.getD []).isEmpty)
    let isSpread := isAll name && m.splits
    let put (s : Scope) (cs : Option (List Char)) : Fields :=
      if isSpread then f.putAll s quoted name (s.together quoted name)
      else
        match cs with
        | some cs => f.put m s quoted cs
        | none => if quoted then f.add [] else f
    match edit with
    | .whole => return put s (← Expanding.value? name)
    | .otherwise =>
      if isThere then return put s value
      else addPieces { m with loose := true } .awaited f word
    | .instead =>
      if isThere then addPieces { m with loose := true } .awaited f word
      else return f.put m s quoted []
    | .assign =>
      if isThere then return put s value
      else
        let g ← addPieces { splits := false } .awaited {} word
        Expanding.assign name (textOf g.joined)
        return f.put m (← Expanding.scope) quoted (textOf g.joined)
    | .demand =>
      if isThere then return put s value
      else
        let g ← addPieces { splits := false } .awaited {} word
        let message := if word.isEmpty then none else some (textOf g.joined)
        Expanding.halt (.failed (absence name message orEmpty))
    | .cutFront longest =>
      match ← Expanding.value? name with
      | none => return put s none
      | some value =>
        let g ← addPieces { splits := false } .awaited {} word
        let s ← Expanding.scope
        let cut (cs : List Char) : List Char := (Pattern.ofGlyphs g.joined).cutFront longest cs
        return if isSpread then f.putAll s quoted name (cut (s.together quoted name))
          else f.put m s quoted (cut value)
    | .cutBack longest =>
      match ← Expanding.value? name with
      | none => return put s none
      | some value =>
        let g ← addPieces { splits := false } .awaited {} word
        let s ← Expanding.scope
        let cut (cs : List Char) : List Char := (Pattern.ofGlyphs g.joined).cutBack longest cs
        return if isSpread then f.putAll s quoted name (cut (s.together quoted name))
          else f.put m s quoted (cut value)
  | .senseless => Expanding.halt (.failed "Bad substitution".toList)
  | .finish => return f
  | .unclosed _ => return f

/-- Adds the pieces of a word to fields; a folder of a user stays together. -/
def addPieces (m : Manner) (here : Tilde) (f : Fields) : List Piece → Expanding Fields
  | [] => return f
  | p :: rest => do
    let s ← Expanding.scope
    match s.tilde m.colons here p rest with
    | (none, next) => addPieces m next (← addPiece m f p) rest
    | (some [], next) => addPieces m next f rest
    | (some cs, next) => addPieces m next (f.add (glyphs false cs)) rest

end

/-- The glyphs of a word that does not fall apart. -/
def wholeGlyphs (word : Pieces) : Expanding (List Glyph) := do
  return (← addPieces { splits := false } .awaited {} word).joined

/-- The text of a word that does not fall apart. -/
def wholeText (word : Pieces) : Expanding (List Char) := do return textOf (← wholeGlyphs word)

/-- The text of a word that becomes the value of a variable. -/
def valueText (word : Pieces) : Expanding (List Char) := do
  return textOf (← addPieces { splits := false, colons := true } .awaited {} word).joined

/-- The fields that words make, before patterns become names. -/
def glyphFields (words : List Pieces) : Expanding (List (List Glyph)) := do
  let fields ← words.mapM fun word => addPieces { splits := true } .awaited {} word
  return fields.flatMap Fields.toList

/-! ## Names of files -/

/-- The parts of a path between slashes. -/
def splitPath : List Glyph → List (List Glyph)
  | [] => [[]]
  | g :: rest =>
    if g.char = '/' then [] :: splitPath rest
    else
      match splitPath rest with
      | part :: parts => (g :: part) :: parts
      | [] => [[g]]

/-- The names in a folder that a part of a path fits. A name with a dot in front has to be asked
for. -/
def fittingNames (t : FileTree) (s : Scope) (folder : List Char) (part : List Glyph) :
    List (List Char) :=
  let path := Path.ofText ((spelled? folder).getD "")
  match t.find s.folder path with
  | .ok .directory =>
    let pattern := Pattern.ofGlyphs part
    let hidden := part.head?.map (·.char) = some '.'
    let names := (t.children (path.resolve s.folder).names).map lettersOf
    ([['.'], ['.', '.']] ++ names).filter fun cs =>
      pattern.fits cs && (hidden || cs.head? ≠ some '.')
  | _ => []

/-- Whether a path leads to something; one that means a directory has to lead to one. -/
def isAt (t : FileTree) (s : Scope) (path : List Char) : Bool :=
  match spelled? path with
  | none => false
  | some text =>
    match t.find s.folder (.ofText text) with
    | .ok .directory => true
    | .ok _ => !Path.meansFolder text
    | .error _ => false

/-- Whether a part of a path has a meaning as a pattern. -/
def isWild (part : List Glyph) : Bool := !(Pattern.ofGlyphs part).isPlain

/-- The paths in a folder that patterns of their parts lead to. The path of the folder ends with a
slash, unless it is the one where the script is. Behind the last pattern a path has to lead to
something. -/
def pathsFrom (t : FileTree) (s : Scope) (folder : List Char) : List (List Glyph) →
    List (List Char)
  | [] => []
  | part :: rest =>
    if !(part :: rest).any isWild then
      let path := folder ++ joinedBy ['/'] ((part :: rest).map textOf)
      if isAt t s path then [path] else []
    else
      let names := if isWild part then fittingNames t s folder part else [textOf part]
      match rest with
      | [] => names.map (folder ++ ·)
      | _ => names.flatMap fun name => pathsFrom t s (folder ++ name ++ ['/']) rest

/-- The texts that a field stands for: the paths that it fits in the order of their octets, or
itself. -/
def globbed (t : FileTree) (s : Scope) (field : List Glyph) : List (List Char) :=
  let parts := splitPath (withoutEscapes field)
  if s.has 'f' || !parts.any isWild then [textOf field]
  else
    let paths := pathsFrom t s [] parts
    if paths.isEmpty then [textOf field] else paths.mergeSort fun a b => !decide (b < a)

/-- The fields that words make. -/
def fields (t : FileTree) (words : List Pieces) : Expanding (List (List Char)) := do
  let gs ← glyphFields words
  let s ← Expanding.scope
  return gs.flatMap (globbed t s)

end ProbeBench.Shell
