import ProbeBench.Shell.Expansion
import ProbeBench.Text.Printable

/-!
# Words in messages

The tools of the system show a word so that it can be read on one line. A word stands between curved
quotes, or as a script could write it: by itself if it means only itself there, else between
straight quotes. A character that cannot be seen is shown by an escape, one for each of its octets.

* `asWritten_nil`: an empty word is a pair of quotes.
* `curved_nil`: the curved quotes stand also around nothing.
-/

namespace ProbeBench.Shell.Quotation

/-- A part of a word: what can be seen, or an escape for what cannot. -/
inductive Part where
  | text (cs : List Char)
  | escape (cs : List Char)

/-- The escape for an octet. -/
def escapeOf (c : Char) : List Char :=
  let named := [('\x07', 'a'), ('\x08', 'b'), ('\t', 't'), ('\n', 'n'), ('\x0b', 'v'),
    ('\x0c', 'f'), ('\r', 'r')]
  match named.find? (·.1 = c) with
  | some (_, letter) => ['\\', letter]
  | none => '\\' :: (Nat.toDigits 8 (512 + c.toNat)).drop 1

/-- How many octets of a text are its first character; none if they cannot be seen. -/
def seenLength? (cs : List Char) : Option Nat :=
  [1, 2, 3, 4].find? fun n =>
    match (spelled? (cs.take n)).map String.toList with
    | some [c] => Text.isPrintable c
    | _ => false

/-- The parts of a text. -/
def partsOf (cs : List Char) : List Part :=
  match cs with
  | [] => []
  | c :: rest =>
    match seenLength? (c :: rest) with
    | none => .escape (escapeOf c) :: partsOf rest
    | some n => .text (c :: rest.take (n - 1)) :: partsOf (rest.drop (n - 1))
termination_by cs.length

/-- Whether all of a text can be seen. -/
def isSeen (parts : List Part) : Bool := parts.all fun | .text _ => true | .escape _ => false

/-- Whether a script takes a word as it is. -/
def meansItself (cs : List Char) : Bool :=
  let isMarked (c : Char) : Bool := " !\"$&()*;<=>?[^\x60|\\\x27:".toList.contains c
  let isFirst := cs.head? = some '#' || cs.head? = some '~'
  !(cs.isEmpty || cs.any isMarked || isFirst || cs = ['\x7b'] || cs = ['\x7d'])

/-- Whether a word can stand between double quotes. -/
def fitsDouble (cs : List Char) : Bool :=
  let isPlain (c : Char) : Bool :=
    c.isAlphanum || " %+,-./:]_@\x27".toList.contains c || 128 ≤ c.toNat
  let rest := if cs.head? = some '#' || cs.head? = some '~' then cs.drop 1 else cs
  rest.all isPlain || cs = ['\x7b'] || cs = ['\x7d']

/-- Parts between single quotes; `inEscape` says whether an escape comes before them. -/
def single (inEscape : Bool) : List Part → List Char
  | [] => []
  | .text ['\x27'] :: rest => "\x27\\\x27\x27".toList ++ single false rest
  | .text cs :: rest => (if inEscape then ['\x27', '\x27'] else []) ++ cs ++ single false rest
  | .escape cs :: rest => (if inEscape then [] else "\x27$\x27".toList) ++ cs ++ single true rest

/-- A word as a script could write it. -/
def asWritten (cs : List Char) : List Char :=
  let parts := partsOf cs
  if isSeen parts && meansItself cs then cs
  else if isSeen parts && cs.contains '\x27' && fitsDouble cs then
    '"' :: cs.flatMap (fun c => if c = ':' then ['\\', c] else [c]) ++ ['"']
  else '\x27' :: single false parts ++ ['\x27']

/-- A word as a script could write it, with quotes in any case. -/
def quoted (cs : List Char) : List Char :=
  if asWritten cs = cs then '\x27' :: cs ++ ['\x27'] else asWritten cs

/-- A word between curved quotes. -/
def curved (cs : List Char) : List Char :=
  let shown : Part → List Char
    | .text cs => if cs = ['\\'] then ['\\', '\\'] else cs
    | .escape cs => cs
  lettersOf "‘" ++ (partsOf cs).flatMap shown ++ lettersOf "’"

theorem asWritten_nil : asWritten [] = "\x27\x27".toList := by
  simp [asWritten, partsOf, isSeen, meansItself, single]

theorem curved_nil : curved [] = lettersOf "‘" ++ lettersOf "’" := by
  simp [curved, partsOf]

end ProbeBench.Shell.Quotation
