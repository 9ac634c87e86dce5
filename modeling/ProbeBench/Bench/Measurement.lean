import ProbeBench.Failure

/-!
# Measurements and their reports

What one probe gave, and the two ways to write it as a line: for people, and as a record of comma
separated values. Milliseconds are rounded to the nearest whole number. In a record a field is put
in quotes when it holds a comma or a quote; quotes inside it are doubled.
-/

namespace ProbeBench

/-- A number of milliseconds. -/
inductive Milliseconds where
  /-- A count, which may be larger than any double. -/
  | whole (n : Int)
  /-- The difference of two readings of a clock. -/
  | real (x : Float)

/-- The result of one probe. -/
structure Measurement where
  file : String
  /-- Counted from 1, as the column. -/
  line : Int
  column : Int
  elapsed : Milliseconds
  count : Int
  error : Option String

/-- Milliseconds as a whole number. -/
def wholeMilliseconds (x : Float) : Except Failure Int :=
  match Decimal.round x with
  | .ok n => .ok n
  | .error .notNumber => .error .notNumber
  | .error .endless => .error .endless

/-- The nearest whole number of milliseconds, a half to the even neighbour. -/
def Milliseconds.round : Milliseconds → Except Failure Int
  | .whole n => .ok n
  | .real x => wholeMilliseconds x

namespace Measurement

/-- Where the probe was. -/
def location (m : Measurement) : String :=
  m.file ++ ":" ++ toString m.line ++ ":" ++ toString m.column

/-- The line for people. -/
def humanLine (m : Measurement) : Except Failure String := do
  let ms ← m.elapsed.round
  let error := (m.error.map (" error: " ++ ·)).getD ""
  return m.location ++ " " ++ toString ms ++ " ms (" ++ toString m.count ++ " results)" ++ error

/-- A field of a record. -/
def csvField (s : String) : List Char :=
  let cs := s.toList
  if cs.contains ',' || cs.contains '"' then
    '"' :: (cs.flatMap (fun c => if c = '"' then ['"', '"'] else [c]) ++ ['"'])
  else cs

/-- The fields of the record. -/
def csvFields (m : Measurement) (ms : Int) : List String :=
  [m.location, toString ms, toString m.count] ++ m.error.toList

/-- A record of comma separated values, without a line end. -/
def csvRecord (fields : List String) : String :=
  String.ofList ((fields.map csvField).intersperse [',']).flatten

/-- The record. -/
def csvLine (m : Measurement) : Except Failure String := do
  let ms ← m.elapsed.round
  return csvRecord (m.csvFields ms)

/-- The line that reports a measurement. -/
def report (m : Measurement) : Format → Except Failure String
  | .human => m.humanLine
  | .csv => m.csvLine

end Measurement

/-- What writes the lines of a report in the format of a name. -/
def reporterOf (name : String) : Except Failure (Measurement → Except Failure String) :=
  match Format.ofName? name with
  | some format => .ok fun m => m.report format
  | none => .error (.config (.invalid [.format name]))

end ProbeBench
