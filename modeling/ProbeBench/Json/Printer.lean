import ProbeBench.Decimal.Written
import ProbeBench.Json.Basic
import ProbeBench.Text.Digit
import ProbeBench.Text.Literal

/-!
# JSON text

Two ways to write a value. `Json.text` is the form that frames carry: a blank after each comma and
colon, members in order, and no escapes but those that the grammar asks for. `Json.literal` is the
form that messages show, with texts in quotes and words for the constants.
-/

namespace ProbeBench.Json

/-- The decimal digits of a whole number with its sign. -/
def intText (n : Int) : List Char :=
  if n < 0 then '-' :: Decimal.digitsOf n.natAbs else Decimal.digitsOf n.natAbs

/-- A character inside a string. -/
def charText (c : Char) : List Char :=
  if c = '"' then ['\\', '"']
  else if c = '\\' then ['\\', '\\']
  else if c = '\n' then ['\\', 'n']
  else if c = '\r' then ['\\', 'r']
  else if c = '\t' then ['\\', 't']
  else if c = '\x08' then ['\\', 'b']
  else if c = '\x0c' then ['\\', 'f']
  else if c.toNat < 0x20 then '\\' :: 'u' :: Text.hexDigits false 4 c.toNat
  else [c]

/-- A string between its quotes. -/
def stringText (s : String) : List Char :=
  '"' :: (s.toList.flatMap charText ++ ['"'])

mutual

/-- The text of a value in a frame. -/
def text : Json → List Char
  | .null => "null".toList
  | .bool b => if b then "true".toList else "false".toList
  | .int n => intText n
  | .float x => (Decimal.frame x).toList
  | .str s => stringText s
  | .arr items => '[' :: (itemsText items ++ [']'])
  | .obj members => '\x7b' :: (membersText members ++ ['\x7d'])

/-- The items of an array with a comma and a blank between them. -/
def itemsText : List Json → List Char
  | [] => []
  | [v] => text v
  | v :: w :: rest => text v ++ ',' :: ' ' :: itemsText (w :: rest)

/-- The members of an object with a comma and a blank between them. -/
def membersText : List (String × Json) → List Char
  | [] => []
  | [(k, v)] => stringText k ++ ':' :: ' ' :: text v
  | (k, v) :: m :: rest =>
    stringText k ++ ':' :: ' ' :: (text v ++ ',' :: ' ' :: membersText (m :: rest))

end

mutual

/-- A value as messages show it. -/
def literal : Json → String
  | .null => Text.Literal.absent
  | .bool b => Text.Literal.bool b
  | .int n => String.ofList (intText n)
  | .float x => Decimal.message x
  | .str s => Text.Literal.text s
  | .arr items => Text.Literal.list (itemLiterals items)
  | .obj members => Text.Literal.table (memberLiterals members)

/-- The literals of the items of an array. -/
def itemLiterals : List Json → List String
  | [] => []
  | v :: rest => literal v :: itemLiterals rest

/-- The literals of the members of an object. -/
def memberLiterals : List (String × Json) → List (String × String)
  | [] => []
  | (k, v) :: rest => (Text.Literal.text k, literal v) :: memberLiterals rest

end

/-- A value as the text of a message: a string as it is, all else as a literal. -/
def display : Json → String
  | .str s => s
  | v => literal v

/-- The name that messages give to the kind of a value. -/
def kind : Json → String
  | .null => "NoneType"
  | .bool _ => "bool"
  | .int _ => "int"
  | .float _ => "float"
  | .str _ => "str"
  | .arr _ => "list"
  | .obj _ => "dict"

end ProbeBench.Json
