import ProbeBench.Decimal.Reading
import ProbeBench.Text.Literal

/-!
# Faults of a TOML document

Why a text is no TOML document and where. A scanner returns what it read with the rest of the text,
or says in a `Stop` how many characters were left where it stopped; `Fault.locate` turns that into a
line and a column, both from 1, or into the end of the document. A whole number of too many digits
is a fault without a place.
-/

namespace ProbeBench.Toml

/-- A key: its names, from the outside in. -/
abbrev Key := List String

/-- A key as messages show it. -/
def keyLiteral (key : Key) : String := Text.Literal.tuple (key.map Text.Literal.text)

/-- Why a text is no document. -/
inductive Reason where
  | statement
  | statementEnd
  | keyStart
  | equals
  | tableEnd
  | tableListEnd
  | value
  | moment
  | listEnd
  | inlineEnd
  | escape
  | hexadecimal
  | notScalar
  | unterminated
  /-- A string that is open needs this text. -/
  | expected (mark : String)
  /-- A string holds a character that it may not. -/
  | illegal (c : Char)
  /-- A comment or a raw string holds a character that it may not. -/
  | invalid (c : Char)
  /-- A table is declared again. -/
  | declaredTwice (key : Key)
  /-- A dotted key leads into a table that has its own declaration. -/
  | redefined (key : Key)
  /-- A value written in place cannot grow. -/
  | frozen (key : Key)
  /-- A key that has a value already, or a way through a value that is no table. -/
  | overwritten
  /-- A table written in place has a key twice. -/
  | duplicate (name : String)
  deriving DecidableEq, Repr

/-- The reason in words. -/
def Reason.message : Reason → String
  | .statement => "Invalid statement"
  | .statementEnd => "Expected newline or end of document after a statement"
  | .keyStart => "Invalid initial character for a key part"
  | .equals => "Expected '=' after a key in a key/value pair"
  | .tableEnd => "Expected ']' at the end of a table declaration"
  | .tableListEnd => "Expected ']]' at the end of an array declaration"
  | .value => "Invalid value"
  | .moment => "Invalid date or datetime"
  | .listEnd => "Unclosed array"
  | .inlineEnd => "Unclosed inline table"
  | .escape => "Unescaped '\\' in a string"
  | .hexadecimal => "Invalid hex value"
  | .notScalar => "Escaped character is not a Unicode scalar value"
  | .unterminated => "Unterminated string"
  | .expected mark => "Expected " ++ Text.Literal.text mark
  | .illegal c => "Illegal character " ++ Text.Literal.text c.toString
  | .invalid c => "Found invalid character " ++ Text.Literal.text c.toString
  | .declaredTwice key => "Cannot declare " ++ keyLiteral key ++ " twice"
  | .redefined key => "Cannot redefine namespace " ++ keyLiteral key
  | .frozen key => "Cannot mutate immutable namespace " ++ keyLiteral key
  | .overwritten => "Cannot overwrite a value"
  | .duplicate name => "Duplicate inline table key " ++ Text.Literal.text name

/-- What stops a scanner: a reason with the number of characters left, or a number that is too
long. -/
inductive Stop where
  | at (reason : Reason) (left : Nat)
  | digits (count : Nat)
  deriving DecidableEq, Repr

/-- What is wrong with a text. -/
inductive Fault where
  | at (reason : Reason) (line column : Nat)
  | atEnd (reason : Reason)
  | digits (count : Nat)
  deriving DecidableEq, Repr

/-- The fault in words. -/
def Fault.message : Fault → String
  | .at reason line column =>
    reason.message ++ " (at line " ++ toString line ++ ", column " ++ toString column ++ ")"
  | .atEnd reason => reason.message ++ " (at end of document)"
  | .digits count => Decimal.tooManyDigits count

/-- The fault of a stop in `text`. -/
def Fault.locate (text : List Char) : Stop → Fault
  | .at reason left =>
    if left = 0 then .atEnd reason
    else
      let before := text.take (text.length - left)
      let lastLine := before.reverse.takeWhile (· ≠ '\n')
      .at reason (before.count '\n' + 1) (lastLine.length + 1)
  | .digits count => .digits count

end ProbeBench.Toml
