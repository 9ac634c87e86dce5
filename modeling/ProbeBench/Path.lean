import ProbeBench.Text.Digit
import ProbeBench.Text.Utf8

/-!
# Paths

A path is a root, which may be missing, and names. Reading one leaves out empty names and single
dots. `resolve` makes it absolute and takes double dots away together with the name before them;
`uri` writes it as a file URI, with every octet but the unreserved ones in percent form.
-/

namespace ProbeBench

/-- A path. -/
structure Path where
  /-- Empty for a relative path. -/
  root : String
  names : List String
  deriving DecidableEq, Repr, Inhabited

namespace Path

/-- The pieces of a text between slashes. -/
def splitSlash : List Char → List (List Char)
  | [] => [[]]
  | c :: rest =>
    let pieces := splitSlash rest
    if c = '/' then [] :: pieces
    else
      match pieces with
      | [] => [[c]]
      | piece :: pieces => (c :: piece) :: pieces

/-- The root of a path text: exactly two slashes are a root of their own. -/
def rootOf : List Char → String
  | '/' :: '/' :: '/' :: _ => "/"
  | '/' :: '/' :: _ => "//"
  | '/' :: _ => "/"
  | _ => ""

/-- The path that a text writes. -/
def ofText (s : String) : Path :=
  let pieces := (splitSlash s.toList).filter fun p => p ≠ [] ∧ p ≠ ['.']
  ⟨rootOf s.toList, pieces.map String.ofList⟩

/-- Whether a text of a path says that a directory is meant. -/
def meansFolder (s : String) : Bool := s.endsWith "/" || s.endsWith "/."

/-- The text of a path. -/
def text (p : Path) : String :=
  if p.root.isEmpty ∧ p.names.isEmpty then "." else p.root ++ "/".intercalate p.names

/-- Whether a name holds a null character, which no system takes. -/
def holdsNull (p : Path) : Bool := p.names.any (·.toList.contains '\x00')

/-- Whether the path begins at a root. -/
def isAbsolute (p : Path) : Bool := !p.root.isEmpty

/-- The last name; empty where there is none. -/
def name (p : Path) : String := p.names.getLast?.getD ""

/-- A path seen from a directory. -/
def under (base p : Path) : Path :=
  if p.isAbsolute then p else ⟨base.root, base.names ++ p.names⟩

/-- Names without double dots: each goes with the name before it. -/
def collapse (names : List String) : List String :=
  (names.foldl (fun done n => if n = ".." then done.drop 1 else n :: done) []).reverse

/-- The absolute path without double dots. -/
def resolve (p cwd : Path) : Path :=
  ⟨"/", collapse (cwd.under p).names⟩

/-- Whether an octet stands for itself in a URI. -/
def isUnreserved (b : UInt8) : Bool :=
  (97 ≤ b && b ≤ 122) || (65 ≤ b && b ≤ 90) || (48 ≤ b && b ≤ 57) ||
    b = 45 || b = 46 || b = 95 || b = 126 || b = 47

/-- An octet of a URI. -/
def uriOctet (b : UInt8) : List Char :=
  if isUnreserved b then [Char.ofNat b.toNat] else '%' :: Text.hexDigits true 2 b.toNat

/-- The file URI of an absolute path. -/
def uri (p : Path) : String :=
  "file://" ++ String.ofList ((Text.Utf8.encode p.text.toList).flatMap uriOctet)

end Path

end ProbeBench
