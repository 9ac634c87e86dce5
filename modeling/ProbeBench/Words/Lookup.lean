import ProbeBench.Text.Position
import ProbeBench.Text.Word

/-!
# Looking words up

What a plain server for words knows about a text: the words in it, the word at a position, and the
first place where a word stands by itself. Its lines end at every character that Unicode counts as
a line or paragraph end, and at some separators beside.
-/

namespace ProbeBench.Words

/-- Whether `c` ends a line. -/
def isLineEnd (c : Char) : Bool :=
  c = '\n' || c = '\r' || c = '\x0b' || c = '\x0c' || c = '\x1c' || c = '\x1d' || c = '\x1e' ||
    c = '\u0085' || c = '\u2028' || c = '\u2029'

/-- Puts a character in front of the first line. -/
def consFirst (c : Char) : List (List Char) → List (List Char)
  | [] => [[c]]
  | line :: lines => (c :: line) :: lines

/-- The lines of a text with their ends; a pair of return and feed is one end. -/
def lines : List Char → List (List Char)
  | [] => []
  | '\r' :: '\n' :: rest => ['\r', '\n'] :: lines rest
  | c :: rest => if isLineEnd c then [c] :: lines rest else consFirst c (lines rest)

/-- The distinct words of a text in order of their code points. -/
def vocabulary (text : List Char) : List String :=
  ((Text.words text).eraseDups.map String.ofList).mergeSort fun a b => !(b < a)

/-- Moves left from offset `n` over word characters; none if the offset is beyond the line. -/
def wordBegin? (cs : List Char) : Nat → Option Nat
  | 0 => some 0
  | n + 1 =>
    match cs[n]? with
    | none => none
    | some c => if Text.isWordChar c then wordBegin? cs n else some (n + 1)

/-- Moves right from a position over word characters, at most `fuel` of them; none if the position
is before the line. -/
def wordEnd? (line : List Char) (position : Int) : Nat → Option Int
  | 0 => some position
  | fuel + 1 =>
    match Text.item? line position with
    | none => none
    | some c => if Text.isWordChar c then wordEnd? line (position + 1) fuel else some position

/-- The run of word characters that touches a position; none if the position lies outside. -/
def wordAt? (line : List Char) (position : Int) : Option (List Char) :=
  let start :=
    if position ≤ 0 then some position else (wordBegin? line position.toNat).map Int.ofNat
  match start, wordEnd? line position (line.length - position).toNat with
  | some start, some stop => some (Text.slice line start stop)
  | _, _ => none

/-- Whether a character before or after a word lets it stand by itself. -/
def isBoundary : Option Char → Bool
  | some c => !Text.isWordChar c
  | none => true

/-- The first offset from `offset` on at which `word` stands by itself; `before` is the character
there before. -/
def findIn? (word : List Char) (before : Option Char) (offset : Nat) : List Char → Option Nat
  | [] => if isBoundary before && word.isEmpty then some offset else none
  | c :: rest =>
    if isBoundary before && word.isPrefixOf (c :: rest) &&
        isBoundary ((c :: rest).drop word.length).head?
    then some offset
    else findIn? word (some c) (offset + 1) rest

/-- A place in some lines: the line, and the offsets of its beginning and its end. -/
structure Spot where
  line : Nat
  start : Nat
  stop : Nat
  deriving DecidableEq, Repr

/-- The first place, from line `number` on, where a word stands by itself. -/
def firstFrom? (word : List Char) (number : Nat) : List (List Char) → Option Spot
  | [] => none
  | line :: rest =>
    match findIn? word none 0 line with
    | some start => some ⟨number, start, start + word.length⟩
    | none => firstFrom? word (number + 1) rest

/-- The first place where a word stands by itself. -/
def firstOccurrence? (lines : List (List Char)) (word : List Char) : Option Spot :=
  firstFrom? word 0 lines

/-- The place that the word at a position is defined at: the first one where it stands by itself.
The outer option is none for a position outside its line or before the first line. -/
def definition? (lines : List (List Char)) (line character : Int) : Option (Option Spot) :=
  if (lines.length : Int) ≤ line then some none
  else
    match Text.item? lines line with
    | none => none
    | some content =>
      (wordAt? content character).map fun word =>
        if Text.isWord word then firstOccurrence? lines word else none

end ProbeBench.Words
