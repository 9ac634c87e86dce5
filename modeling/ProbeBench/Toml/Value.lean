import ProbeBench.Toml.Nest
import ProbeBench.Toml.Scalar
import ProbeBench.Toml.Word

/-!
# Values

A value of a TOML document: a string, a plain value, a list or a table written in place. The
scanners call each other, so each has fuel; what a value consumes bounds the depth.
-/

namespace ProbeBench.Toml

open ProbeBench.Config

/-- A stop for a complaint about the text before `rest`. -/
def blame {α : Type} (rest : List Char) (r : Except Reason α) : Except Stop α :=
  r.mapError fun reason => .at reason rest.length

/-- A string as a value. -/
def asText (r : Except Stop (List Char × List Char)) : Except Stop (Setting × List Char) :=
  r.map fun (cs, rest) => (.text (String.ofList cs), rest)

mutual

/-- A value. -/
def valueWith : Nat → List Char → Except Stop (Setting × List Char)
  | 0, cs => .error (.at .value cs.length)
  | fuel + 1, cs =>
    match cs with
    | '"' :: '"' :: '"' :: rest => asText (multilineString '"' fuel rest)
    | '"' :: rest => asText (quoted false fuel rest)
    | '\x27' :: '\x27' :: '\x27' :: rest => asText (multilineString '\x27' fuel rest)
    | '\x27' :: rest => asText (raw rest)
    | '[' :: rest => do
      match ← skipFiller false rest with
      | ']' :: rest => return (.list [], rest)
      | rest =>
        let (items, rest) ← itemsWith fuel rest
        return (.list items, rest)
    | '\x7b' :: rest =>
      match skipBlanks rest with
      | '\x7d' :: rest => .ok (.table [], rest)
      | rest => do
        let (t, rest) ← entriesWith fuel [] [] rest
        return (.table t, rest)
    | _ => scalar cs

/-- The items of a list up to its end; a comma may follow the last one. -/
def itemsWith : Nat → List Char → Except Stop (List Setting × List Char)
  | 0, cs => .error (.at .value cs.length)
  | fuel + 1, cs => do
    let (v, rest) ← valueWith fuel cs
    match ← skipFiller false rest with
    | ']' :: rest => return ([v], rest)
    | ',' :: rest =>
      match ← skipFiller false rest with
      | ']' :: rest => return ([v], rest)
      | rest =>
        let (vs, rest) ← itemsWith fuel rest
        return (v :: vs, rest)
    | rest => throw (.at .listEnd rest.length)

/-- A key and its value. -/
def pairWith : Nat → List Char → Except Stop ((Key × Setting) × List Char)
  | 0, cs => .error (.at .value cs.length)
  | fuel + 1, cs => do
    match ← key fuel cs with
    | (k, '=' :: rest) =>
      let (v, rest) ← valueWith fuel (skipBlanks rest)
      return ((k, v), rest)
    | (_, rest) => throw (.at .equals rest.length)

/-- The entries of a table written in place, up to its end. -/
def entriesWith : Nat → Table → Marks → List Char → Except Stop (Table × List Char)
  | 0, _, _, cs => .error (.at .value cs.length)
  | fuel + 1, t, marks, cs => do
    let ((k, v), rest) ← pairWith fuel cs
    let name := k.getLast?.getD ""
    if marks.isFrozen k then throw (.at (.frozen k) rest.length)
    let t ← blame rest (change false (insert name v (.duplicate name)) k.dropLast t)
    match skipBlanks rest with
    | '\x7d' :: rest => return (t, rest)
    | ',' :: rest =>
      entriesWith fuel t (if isInPlace v then .frozen k :: marks else marks) (skipBlanks rest)
    | rest => throw (.at .inlineEnd rest.length)

end

/-- A key and its value, of at most `size` characters. -/
def pair (size : Nat) (cs : List Char) : Except Stop ((Key × Setting) × List Char) :=
  pairWith (4 * size + 4) cs

end ProbeBench.Toml
