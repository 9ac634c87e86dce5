import ProbeBench.Text.Digit

/-!
# Hosts

What may stand between the two slashes and the path of a URI: a user with an at sign, a host, and a
port behind a colon. A host in square brackets is a network address: groups of hexadecimal digits
between colons, of which the last two may be written as four octets, or a `v` with the number of a
later kind of address. Other hosts may hold everything but brackets and the characters that stand
for a separator of URIs.

* `isHost_of_plain`: a host without brackets and such characters is one.
-/

namespace ProbeBench.Words.Host

/-- Whether a text writes a number below 256 without zeros in front. -/
def isOctet (cs : List Char) : Bool :=
  !cs.isEmpty && cs.length ≤ 3 && cs.all Char.isDigit && (cs.head? ≠ some '0' || cs = ['0']) &&
    cs.foldl (fun n c => n * 10 + (c.toNat - 48)) 0 < 256

/-- Whether a text is four octets between points. -/
def isOctets (cs : List Char) : Bool :=
  let parts := cs.splitOn '.'
  parts.length = 4 && parts.all isOctet

/-- Whether a text is a group of an address: up to four hexadecimal digits. -/
def isGroup (cs : List Char) : Bool :=
  !cs.isEmpty && cs.length ≤ 4 && cs.all fun c => (Text.hexValue? c).isSome

/-- The groups of an address; four octets at its end are two groups. -/
def groups? (cs : List Char) : Option (List (List Char)) :=
  let parts := cs.splitOn ':'
  let last := parts.getLast?.getD []
  if parts.length < 3 then none
  else if !last.contains '.' then some parts
  else if isOctets last then some (parts.dropLast ++ [['0'], ['0']])
  else none

/-- Whether groups make up an address: there are eight of them, or fewer with one gap, which is an
empty group that stands for all that are missing. A gap at either end is written as two. -/
def isComplete (groups : List (List Char)) : Bool :=
  let inner := (groups.drop 1).dropLast
  let written := groups.filter (!·.isEmpty)
  written.all isGroup &&
    match inner.countP (·.isEmpty) with
    | 0 => groups.length = 8 && written.length = 8
    | 1 =>
      written.length ≤ 7 &&
        (groups.head? ≠ some [] || inner.head? = some []) &&
        (groups.getLast? ≠ some [] || inner.getLast? = some [])
    | _ => false

/-- Whether a text is an address, with a zone behind a percent sign or without. -/
def isAddress (cs : List Char) : Bool :=
  let (address, zone) := cs.span (· ≠ '%')
  ((groups? address).any isComplete) && (zone.isEmpty || zone.count '%' = 1 && 1 < zone.length)

/-- Whether a text behind a `v` is an address of a later kind: its number, a point and more. -/
def isLater (cs : List Char) : Bool :=
  let (number, rest) := cs.span fun c => (Text.hexValue? c).isSome
  !number.isEmpty && rest.head? = some '.' && 1 < rest.length

/-- Whether a text may stand in brackets. -/
def isBracketable : List Char → Bool
  | 'v' :: rest => isLater rest
  | cs => isAddress cs

/-- Whether a text with brackets is a host: nothing stands before them but a user, and nothing
behind them but a port. -/
def isBracketed (cs : List Char) : Bool :=
  let place := (cs.reverse.takeWhile (· ≠ '@')).reverse
  match place.span (· ≠ '[') with
  | (before, _ :: rest) =>
    let (address, behind) := rest.span (· ≠ ']')
    before.isEmpty && (behind.length ≤ 1 || behind[1]? = some ':') && isBracketable address
  | (plain, []) => isBracketable (plain.takeWhile (· ≠ ':'))

/-- The characters that another spelling turns into a separator of URIs or into a text with one. -/
def separating : List Char :=
  ['\u2047', '\u2048', '\u2049', '\u2100', '\u2101', '\u2105', '\u2106', '\u2a74', '\ufe13',
    '\ufe16', '\ufe55', '\ufe56', '\ufe5f', '\ufe6b', '\uff03', '\uff0f', '\uff1a', '\uff1f',
    '\uff20']

/-- Whether a text may stand between the slashes and the path. -/
def isHost (cs : List Char) : Bool :=
  !cs.any separating.contains &&
    match cs.contains '[', cs.contains ']' with
    | false, false => true
    | true, true => isBracketed cs
    | _, _ => false

theorem isHost_of_plain {cs : List Char} (h : ∀ c ∈ cs, c ∉ separating) (hopen : '[' ∉ cs)
    (hclose : ']' ∉ cs) : isHost cs = true := by
  have hs : cs.any separating.contains = false := by
    simpa [List.any_eq_false] using h
  simp [isHost, hs, hopen, hclose]

end ProbeBench.Words.Host
