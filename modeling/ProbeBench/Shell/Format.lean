import ProbeBench.Decimal.Fixed
import ProbeBench.Decimal.Reading
import ProbeBench.Shell.Sum

/-!
# Written text of a shell script

Text with escapes, and formats that take arguments: a format is used again as long as arguments are
left, and where they end it takes nothing or zero.

* `unescape_plain`: text without a backslash stays.
* `length_padded`: padded text is as long as the width or the text, whichever is longer.
-/

namespace ProbeBench.Shell

/-! ## Escapes -/

/-- Whether `c` is an octal digit. -/
def isOctal (c : Char) : Bool := '0' ≤ c && c ≤ '7'

/-- The character that octal digits give. -/
def octal (ds : List Char) : Char :=
  Char.ofNat ((ds.foldl (fun n c => n * 8 + (c.toNat - 48)) 0) % 256)

/-- The character that a letter behind a backslash stands for. -/
def escaped? : Char → Option Char
  | 'n' => some '\n'
  | 'r' => some '\r'
  | 't' => some '\t'
  | 'a' => some '\x07'
  | 'b' => some '\x08'
  | 'e' => some '\x1b'
  | 'f' => some '\x0c'
  | 'v' => some '\x0b'
  | '\\' => some '\\'
  | _ => none

/-- The character that stands behind a backslash, and the text behind it: up to three octal digits
or a letter. Anything else stays, behind the backslash. -/
def takeEscape (cs : List Char) : Char × List Char :=
  let ds := (cs.takeWhile isOctal).take 3
  match ds, cs with
  | _ :: _, _ => (octal ds, cs.drop ds.length)
  | [], c :: rest =>
    match escaped? c with
    | some e => (e, rest)
    | none => ('\\', cs)
  | [], [] => ('\\', [])

/-- Text with its escapes replaced, and whether one of them ends all output. In octal digits a zero
may stand in front of three others. -/
def unescapeWith : Nat → List Char → List Char × Bool
  | 0, cs => (cs, false)
  | _ + 1, [] => ([], false)
  | fuel + 1, c :: rest =>
    if c ≠ '\\' then
      let r := unescapeWith fuel rest
      (c :: r.1, r.2)
    else
      match rest with
      | 'c' :: _ => ([], true)
      | '0' :: d :: more =>
        let (e, rest) := takeEscape (if isOctal d then d :: more else rest)
        let r := unescapeWith fuel rest
        (e :: r.1, r.2)
      | _ =>
        let (e, rest) := takeEscape rest
        let r := unescapeWith fuel rest
        (e :: r.1, r.2)

/-- Text with its escapes replaced, and whether one of them ends all output. -/
def unescape (cs : List Char) : List Char × Bool := unescapeWith cs.length cs

/-- The line that texts give; a first text `-n` takes away its end. -/
def lineOf (texts : List (List Char)) : List Char :=
  match texts with
  | ['-', 'n'] :: texts => (unescape (joined texts)).1
  | _ =>
    let (text, stops) := unescape (joined texts)
    if stops then text else text ++ ['\n']

/-! ## Directives -/

/-- How an argument is written. -/
structure Directive where
  /-- The text stands at the left of its width. -/
  left : Bool := false
  /-- A number that is not negative has a plus sign … -/
  plus : Bool := false
  /-- … or a blank. -/
  blank : Bool := false
  /-- A number shows its base. -/
  based : Bool := false
  /-- A number is padded with zeros. -/
  zeros : Bool := false
  width : Nat := 0
  precision : Option Nat := none

namespace Directive

/-- Sets a flag. -/
def flag? (d : Directive) (c : Char) : Option Directive :=
  match c with
  | '-' => some { d with left := true }
  | '+' => some { d with plus := true }
  | ' ' => some { d with blank := true }
  | '#' => some { d with based := true }
  | '0' => some { d with zeros := true }
  | _ => none

/-- Reads flags. -/
def takeFlags (d : Directive) : List Char → Directive × List Char
  | c :: rest =>
    match d.flag? c with
    | some d => d.takeFlags rest
    | none => (d, c :: rest)
  | [] => (d, [])

/-- Text padded to the width. -/
def padded (d : Directive) (cs : List Char) : List Char :=
  let gap := List.replicate (d.width - cs.length) ' '
  if d.left then cs ++ gap else gap ++ cs

/-- Text cut at the precision and padded. -/
def text (d : Directive) (cs : List Char) : List Char :=
  d.padded (match d.precision with | some n => cs.take n | none => cs)

/-- A number that is written with a sign in front and digits, padded. -/
def number (d : Directive) (sign digits : List Char) : List Char :=
  let digits := List.replicate (d.precision.getD 1 - digits.length) '0' ++ digits
  if d.zeros && !d.left && d.precision.isNone then
    sign ++ List.replicate (d.width - sign.length - digits.length) '0' ++ digits
  else d.padded (sign ++ digits)

/-- The digits of a number; zero has none, as the precision says how many there are at least. -/
def digits (base : Nat) (n : Nat) : List Char := if n = 0 then [] else Nat.toDigits base n

/-- The sign in front of a number. -/
def sign (d : Directive) (negative : Bool) : List Char :=
  if negative then ['-'] else if d.plus then ['+'] else if d.blank then [' '] else []

/-- A number with its sign. -/
def signed (d : Directive) (n : Int) : List Char :=
  d.number (d.sign (n < 0)) (digits 10 n.natAbs)

/-- A number without a sign, in a base. -/
def unsigned (d : Directive) (letter : Char) (n : Nat) : List Char :=
  match letter with
  | 'o' => d.number [] (if d.based then '0' :: digits 8 n else digits 8 n)
  | 'x' => d.number (if d.based && n ≠ 0 then ['0', 'x'] else []) (digits 16 n)
  | 'X' =>
    d.number (if d.based && n ≠ 0 then ['0', 'X'] else []) ((digits 16 n).map Char.toUpper)
  | _ => d.number [] (digits 10 n)

/-- A number with a point, as a small letter says. -/
def real (d : Directive) (letter : Char) (x : Float) : List Char :=
  let places := d.precision.getD 6
  match Decimal.Double.ofFloat x with
  | .nan => d.padded (d.sign false ++ "nan".toList)
  | .infinite negative => d.padded (d.sign negative ++ "inf".toList)
  | .finite negative mantissa exponent =>
    let f := Decimal.Fraction.ofBinary mantissa exponent
    let body : List Char :=
      match letter with
      | 'f' => f.fixed d.based places
      | 'e' => f.exponential d.based places
      | 'g' => f.general d.based (max places 1)
      | _ => Decimal.hexadecimal d.based d.precision mantissa exponent
    let (front, body) := if letter = 'a' then (body.take 2, body.drop 2) else ([], body)
    let front := d.sign negative ++ front
    if d.zeros && !d.left then
      front ++ List.replicate (d.width - front.length - body.length) '0' ++ body
    else d.padded (front ++ body)

theorem length_padded (d : Directive) (cs : List Char) :
    (d.padded cs).length = max d.width cs.length := by
  unfold padded
  dsimp only
  split <;> simp only [List.length_append, List.length_replicate] <;> omega

end Directive

/-! ## Formats -/

/-- What is written with a format. -/
structure Printing where
  text : List Char := []
  arguments : List (List Char)
  /-- What was wrong, in order: arguments that are no numbers, a directive that is none. -/
  complaints : List (List Char) := []
  /-- Nothing more is written: an escape has ended the output, or the format is wrong. -/
  stopped : Bool := false
  wrong : Bool := false

namespace Printing

/-- Adds text. -/
def add (p : Printing) (cs : List Char) : Printing := { p with text := p.text ++ cs }

/-- The next argument. -/
def next (p : Printing) : List Char × Printing :=
  (p.arguments.headD [], { p with arguments := p.arguments.drop 1 })

/-- Says what is wrong with an argument, if something is. -/
def complaining (p : Printing) (cs : List Char) (problem : String) : Printing :=
  if problem.isEmpty then p else { p with complaints := p.complaints ++ [cs ++ problem.toList] }

/-- The number at the beginning of a text, and the text behind it if there is a number. A quote in
front of a character makes its code. -/
def leadingNumber (cs : List Char) : Int × Option (List Char) :=
  match cs with
  | [] => (0, some [])
  | '"' :: rest => ((rest.headD '\x00').toNat, some [])
  | '\x27' :: rest => ((rest.headD '\x00').toNat, some [])
  | _ =>
    let body := cs.dropWhile isSpace
    let (negative, digits) :=
      match body with
      | '-' :: rest => (true, rest)
      | '+' :: rest => (false, rest)
      | _ => (false, body)
    if !(digits.head?.map Char.isDigit).getD false then (0, none)
    else
      let (n, rest) := takeNumber digits
      (if negative then -n else n, some rest)

/-- The next argument as a number, which is to have a sign or not: one that is too large is taken
for the largest. -/
def nextNumber (p : Printing) (hasSign : Bool) : Int × Printing :=
  let (cs, p) := p.next
  let (n, behind) := leadingNumber cs
  let fitting := if hasSign then clamp n else if n.natAbs < span then n else (span : Int) - 1
  let problem :=
    match behind with
    | none => ": expected numeric value"
    | some [] => if fitting = n then "" else ": Numerical result out of range"
    | some _ => ": not completely converted"
  (fitting, p.complaining cs problem)

/-- A number with a point at the beginning of a text, without its sign, and the text behind it. -/
def takeReal? (cs : List Char) : Option (Float × List Char) :=
  let word := String.ofList ((cs.take 8).map Char.toLower)
  if word = "infinity" then some (1.0 / 0.0, cs.drop 8)
  else if word.startsWith "inf" then some (1.0 / 0.0, cs.drop 3)
  else if word.startsWith "nan" then some (0.0 / 0.0, cs.drop 3)
  else if word.startsWith "0x" && ((cs.drop 2).filter (· ≠ '.')).head?.any isHex then
    let (n, places, rest) := takeDigits isHex (cs.drop 2)
    let digits := (Text.hexValueOf? n).getD 0
    let (exponent, rest) := takePower 'p' rest
    some (scaled digits n.length (exponent - 4 * places), rest)
  else
    let (n, places, rest) := takeDigits Char.isDigit cs
    if n.isEmpty then none
    else
      let (exponent, rest) := takePower 'e' rest
      some (Decimal.Numeral.toFloat ⟨false, Decimal.digitsValue n, exponent - places⟩, rest)
where
  isHex (c : Char) : Bool := c.isDigit || ('a' ≤ c.toLower && c.toLower ≤ 'f')
  /-- A whole number of at most `count` hexadecimal digits times a power of two. -/
  scaled (digits count : Nat) (exponent : Int) : Float :=
    if digits = 0 || exponent + 4 * count < -1100 then 0.0
    else if 1100 < exponent then 1.0 / 0.0
    else if exponent < 0 then
      let places := exponent.natAbs
      Float.ofScientific (digits * Nat.pow 5 places) true places
    else Float.ofScientific (digits * Nat.pow 2 exponent.natAbs) false 0
  takeDigits (isOne : Char → Bool) (cs : List Char) : List Char × Nat × List Char :=
    let (whole, rest) := cs.span isOne
    match rest with
    | '.' :: rest =>
      let (fraction, rest) := rest.span isOne
      (whole ++ fraction, fraction.length, rest)
    | _ => (whole, 0, rest)
  takePower (letter : Char) (cs : List Char) : Int × List Char :=
    match cs with
    | c :: rest =>
      let (negative, body) := Decimal.takeSign rest
      let (ds, behind) := body.span Char.isDigit
      if c.toLower ≠ letter || ds.isEmpty then (0, cs)
      else (if negative then -(digitsOf ds : Int) else digitsOf ds, behind)
    | [] => (0, [])

/-- The least number that has all its binary digits. -/
def leastNormal : Float := 2.2250738585072014e-308

/-- Whether a number that a text writes is too close to zero to be exact, though it is not zero. -/
def isTooSmall (text : List Char) (x : Float) : Bool :=
  let isHexadecimal := text.any fun c => c.toLower = 'x'
  let digits := text.takeWhile fun c => c.toLower ≠ (if isHexadecimal then 'p' else 'e')
  let isNone := digits.all fun c => c = '0' || c = '.' || c.toLower = 'x'
  !isNone && (x == 0.0 || (!isHexadecimal && x < leastNormal))

/-- The number with a point at the beginning of a text, and what is wrong with it. -/
def leadingReal (cs : List Char) : Float × String :=
  match cs with
  | [] => (0.0, "")
  | '"' :: rest => (Float.ofNat (rest.headD '\x00').toNat, "")
  | '\x27' :: rest => (Float.ofNat (rest.headD '\x00').toNat, "")
  | _ =>
    let (negative, body) := Decimal.takeSign (cs.dropWhile isSpace)
    match takeReal? body with
    | none => (0.0, ": expected numeric value")
    | some (x, rest) =>
      let isWord := (body.head?.map Char.isAlpha).getD false
      (if negative then -x else x,
        if !rest.isEmpty then ": not completely converted"
        else if !isWord && (x.isInf || isTooSmall body x) then ": Numerical result out of range"
        else "")

/-- The next argument as a number with a point. -/
def nextReal (p : Printing) : Float × Printing :=
  let (cs, p) := p.next
  let (x, problem) := leadingReal cs
  (x, p.complaining cs problem)

/-- The numbers of 32 bits, of which the lower half is negative. -/
def sizeSpan : Nat := 4294967296

/-- A width or a precision: digits, or a star for the next argument, of which 32 bits count. -/
def size (p : Printing) (cs : List Char) : Int × Printing × List Char :=
  match cs with
  | '*' :: rest =>
    let (n, p) := p.nextNumber true
    (Int.bmod n sizeSpan, p, rest)
  | _ =>
    let (ds, rest) := cs.span Char.isDigit
    (digitsOf ds, p, rest)

/-- The directive behind a percent sign up to its letter. -/
def directive (p : Printing) (cs : List Char) : Directive × Printing × List Char :=
  let (d, cs) := ({} : Directive).takeFlags cs
  let (width, p, cs) := p.size cs
  let d := { d with width := width.natAbs, left := d.left || width < 0 }
  match cs with
  | '.' :: rest =>
    let (precision, p, cs) := p.size rest
    ({ d with precision := if precision < 0 then none else some precision.toNat }, p, cs)
  | _ => (d, p, cs)

/-- Stops because of a directive. -/
def refuse (p : Printing) (text : List Char) : Printing :=
  { p with stopped := true, wrong := true, complaints := p.complaints ++ [text] }

/-- Writes an argument as a letter says, at the end of the text that the directive is in the
format. -/
def conversion (p : Printing) (d : Directive) (source : List Char) (letter : Char) : Printing :=
  match letter with
  | 's' =>
    let (cs, p) := p.next
    p.add (d.text cs)
  | 'b' =>
    let (cs, p) := p.next
    let (text, stops) := unescape cs
    { p.add (d.text text) with stopped := stops }
  | 'c' =>
    let (cs, p) := p.next
    p.add (d.padded [cs.headD '\x00'])
  | _ =>
    if letter = 'd' || letter = 'i' then
      let (n, p) := p.nextNumber true
      p.add (d.signed n)
    else if "ouxX".toList.contains letter then
      let (n, p) := p.nextNumber false
      p.add (d.unsigned letter (bits n))
    else if "fega".toList.contains letter then
      let (x, p) := p.nextReal
      p.add (d.real letter x)
    else if "FEGA".toList.contains letter then
      let (x, p) := p.nextReal
      p.add ((d.real letter.toLower x).map Char.toUpper)
    else p.refuse (source ++ ": invalid directive".toList)

/-- Whether what a directive asks for is longer than any text can be. -/
def isEndless (d : Directive) : Bool := sizeSpan / 2 ≤ max d.width (d.precision.getD 0) + 1

/-- Writes an argument as a letter says, unless that would be longer than any text can be. -/
def conversionWithin (p : Printing) (d : Directive) (source : List Char) (letter : Char) :
    Printing :=
  if isEndless d then
    let q := p.conversion {} source letter
    if q.wrong then q else { q with text := p.text }.refuse "xvsnprintf failed".toList
  else p.conversion d source letter

/-- Writes a format once. -/
def once : Nat → Printing → List Char → Printing
  | 0, p, _ => p
  | _ + 1, p, [] => p
  | fuel + 1, p, c :: rest =>
    if p.stopped then p
    else
      match c, rest with
      | '\\', _ =>
        let (e, rest) := takeEscape rest
        once fuel (p.add [e]) rest
      | '%', '%' :: rest => once fuel (p.add ['%']) rest
      | '%', _ =>
        let (d, p, behind) := p.directive rest
        match behind with
        | letter :: more =>
          let source := '%' :: rest.take (rest.length - more.length)
          once fuel (p.conversionWithin d source letter) more
        | [] => p.refuse "missing format character".toList
      | _, _ => once fuel (p.add [c]) rest

/-- Writes a format until no argument is left, but only as long as it takes arguments. -/
def all (template : List Char) : Nat → Printing → Printing
  | 0, p => p
  | fuel + 1, p =>
    let q := once (template.length + 1) p template
    if q.stopped || q.arguments.isEmpty || q.arguments.length = p.arguments.length then q
    else all template fuel q

end Printing

/-- What a format and its arguments give. -/
def format (template : List Char) (arguments : List (List Char)) : Printing :=
  Printing.all template (arguments.length + 1) { arguments }

theorem unescapeWith_plain (fuel : Nat) (cs : List Char) (h : '\\' ∉ cs) :
    unescapeWith fuel cs = (cs, false) := by
  induction fuel generalizing cs with
  | zero => rfl
  | succ fuel ih =>
    cases cs with
    | nil => rfl
    | cons c rest =>
      simp only [List.mem_cons, not_or] at h
      have hc : c ≠ '\\' := fun e => h.1 e.symm
      unfold unescapeWith
      rw [if_pos hc, ih rest h.2]

theorem unescape_plain (cs : List Char) (h : '\\' ∉ cs) : unescape cs = (cs, false) :=
  unescapeWith_plain cs.length cs h

end ProbeBench.Shell
