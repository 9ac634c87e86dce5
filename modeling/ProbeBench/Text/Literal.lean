import ProbeBench.Text.Digit
import ProbeBench.Text.Printable

/-!
# Literals

How messages show a piece of data so that its type and its exact content can be read: texts in
quotes with escapes, octets in quotes after a `b`, lists and tables in brackets. The quote is the
single one unless the text holds a single quote and no double quote.
-/

namespace ProbeBench.Text.Literal

/-- The quotation mark for content that holds a single quote, or a double one, or both. -/
def quoteFor (holdsSingle holdsDouble : Bool) : Char :=
  if holdsSingle && !holdsDouble then '"' else '\x27'

/-- A character between quotation marks `quote`. -/
def escapeChar (quote c : Char) : String :=
  if c = quote || c = '\\' then String.ofList ['\\', c]
  else if c = '\n' then "\\n"
  else if c = '\r' then "\\r"
  else if c = '\t' then "\\t"
  else if isPrintable c then c.toString
  else if c.toNat < 0x100 then "\\x" ++ hex 2 c.toNat
  else if c.toNat < 0x10000 then "\\u" ++ hex 4 c.toNat
  else "\\U" ++ hex 8 c.toNat

/-- A text as a literal. -/
def text (s : String) : String :=
  let cs := s.toList
  let quote := quoteFor (cs.contains '\x27') (cs.contains '"')
  quote.toString ++ String.join (cs.map (escapeChar quote)) ++ quote.toString

/-- An octet between quotation marks `quote`. -/
def escapeOctet (quote : Char) (b : UInt8) : String :=
  let c := Char.ofNat b.toNat
  if b.toNat < 0x7f then escapeChar quote c else "\\x" ++ hex 2 b.toNat

/-- Octets as a literal. -/
def octets (bs : List UInt8) : String :=
  let quote := quoteFor (bs.contains 39) (bs.contains 34)
  "b" ++ quote.toString ++ String.join (bs.map (escapeOctet quote)) ++ quote.toString

/-- A truth value as a literal. -/
def bool (b : Bool) : String :=
  if b then "True" else "False"

/-- The literal of no value. -/
def absent : String := "None"

/-- A list of literals as a literal. -/
def list (items : List String) : String :=
  "[" ++ ", ".intercalate items ++ "]"

/-- A fixed row of literals as a literal; a row of one has a comma of its own. -/
def tuple (items : List String) : String :=
  "(" ++ ", ".intercalate items ++ (if items.length = 1 then ",)" else ")")

/-- A table of literals as a literal. -/
def table (entries : List (String × String)) : String :=
  "\x7b" ++ ", ".intercalate (entries.map fun e => e.1 ++ ": " ++ e.2) ++ "\x7d"

end ProbeBench.Text.Literal
