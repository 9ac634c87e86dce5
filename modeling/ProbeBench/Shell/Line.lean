import ProbeBench.Shell.Flag
import ProbeBench.Shell.Stream

/-!
# Lines that a script reads

A line is read into variables: it falls apart at separators, and the last variable gets all that is
left. Unless it is read as it is, a backslash takes the meaning of the character behind it.

* `takeLine_nil`: where nothing is left there is no end of a line.
-/

namespace ProbeBench.Shell

/-- A line at the beginning of a text, and the text behind its end; none if it has no end. Unless it
is read as it is, a backslash takes the meaning of the character behind it, also that of the end. -/
def takeLine (raw : Bool) : List Char → List Glyph × Option (List Char)
  | [] => ([], none)
  | '\n' :: rest => ([], some rest)
  | '\\' :: c :: rest =>
    if raw then
      let r := takeLine raw (c :: rest)
      (⟨'\\', true⟩ :: r.1, r.2)
    else
      let r := takeLine raw rest
      if c = '\n' then r else (⟨c, false⟩ :: r.1, r.2)
  | c :: rest =>
    let r := takeLine raw rest
    (if c = '\x00' || (c = '\\' && !raw) then r.1 else ⟨c, true⟩ :: r.1, r.2)

/-- The fields of a line that are being made for names, of which the last one gets all that is
left. -/
structure LineFields where
  /-- The complete ones, last first. -/
  complete : List (List Glyph) := []
  /-- The one that is still open, last character first. -/
  field : List Glyph := []
  /-- How many characters the open field has. -/
  size : Nat := 0
  /-- How many fields may still be completed, and one more. -/
  left : Nat
  /-- The last field was completed by a blank, which a separator behind it belongs to. -/
  gap : Bool := false
  /-- How long the last field is if only blanks follow; a character behind a backslash changes
  nothing about that. -/
  cut : Option Nat := none

namespace LineFields

/-- Adds a character to the open field. -/
def add (f : LineFields) (g : Glyph) : LineFields :=
  { f with field := g :: f.field, size := f.size + 1 }

/-- Adds a character to the last field. -/
def addLast (f : LineFields) (isSeparator isBlank : Bool) (g : Glyph) : LineFields :=
  if isBlank then { f.add g with cut := f.cut.or (some f.size) }
  else { f.add g with cut := if isSeparator && f.gap then f.cut else none, gap := false }

/-- Completes the open field at a separator; the last one goes on. -/
def close (f : LineFields) (isBlank : Bool) (g : Glyph) : LineFields :=
  if f.left ≤ 1 then { f.add g with left := 0, gap := isBlank, cut := some f.size }
  else
    { f with
      complete := f.field.reverse :: f.complete
      field := []
      size := 0
      left := f.left - 1
      gap := isBlank }

/-- Adds a character of a line. -/
def take (separators : List Char) (f : LineFields) (g : Glyph) : LineFields :=
  let isSeparator := separators.contains g.char
  let isBlank := isSeparator && " \t\n".toList.contains g.char
  if !g.active then { f.add g with gap := false }
  else if f.left = 0 then f.addLast isSeparator isBlank g
  else if f.gap && isSeparator then { f with gap := isBlank }
  else if !isSeparator then { f.add g with gap := false }
  else if isBlank && f.size = 0 then f
  else f.close isBlank g

/-- The fields in order; an empty one at the end is none. -/
def toList (f : LineFields) : List (List Char) :=
  let last := f.field.reverse.take (f.cut.getD f.size)
  (if last.isEmpty then f.complete else last :: f.complete).reverse.map textOf

end LineFields

/-- The fields of a line for names; those for which there is none get nothing. -/
def lineFields (separators : List Char) (line : List Glyph) (names : List (List Char)) :
    List (List Char × List Char) :=
  let fields := (line.foldl (LineFields.take separators) { left := names.length }).toList
  names.zip (fields ++ List.replicate names.length [])

theorem takeLine_nil (raw : Bool) : takeLine raw [] = ([], none) := by
  unfold takeLine
  rfl

namespace Machine

/-- Sets variables to the fields of a line, up to one that cannot be set. The name of one ends at an
equals sign. -/
def takeFields (m : Machine) (found : Bool) (line : List Glyph) (names : List (List Char)) :
    Machine :=
  let separators := m.scope.separators
  let names := names.map (·.takeWhile (· ≠ '='))
  let values := lineFields separators line names
  let reason? (v : List Char × List Char) : Option (List Char) :=
    if isName v.1 then m.scope.refusal? v.1 v.2 else some (v.1 ++ ": bad variable name".toList)
  let free := values.takeWhile fun v => (reason? v).isNone
  let m := m.withScope (free.foldl (fun s v => s.set v.1 v.2) m.scope)
  match (values.drop free.length).head?.bind reason? with
  | some text => m.mistake false ("read: ".toList ++ text)
  | none => m.answer found

/-- Reads a line into variables; without success if the input ends first. -/
def readLine (m : Machine) (raw : Bool) (names : List (List Char)) : Machine :=
  match m.supply? 0 with
  | none => m.takeFields false [] names
  | some supply =>
    match takeLine raw supply.content with
    | (line, some rest) => (m.consume 0 rest).takeFields true line names
    | (line, none) =>
      if supply.ended then (m.consume 0 []).takeFields false line names
      else m.awaitMore 0 supply.content.length (.read raw names)

/-- Begins to read a line, as arguments say. -/
def read (m : Machine) (ends : Bool) (arguments : List (List Char)) : Machine :=
  match takeFlags "p:r".toList arguments with
  | .error text => m.mistake ends ("read: ".toList ++ text)
  | .ok (_, []) => m.mistake ends "read: arg count".toList
  | .ok (flags, names) => m.push [.read (hasFlag flags 'r') names]

end Machine

end ProbeBench.Shell
