import ProbeBench.Path

/-!
# What a script knows

A `Scope` holds what the words of a script refer to: its arguments and variables, the exit code of
the last command, the folder in which it works, and the options that are set. Characters stand for
octets.

* `value?_set`: a variable that was set has the value that it was set to.
-/

namespace ProbeBench.Shell

/-- Where the reading of options stands: at a word, the first of which is 1, or behind as many
characters of the word before it. -/
structure OptionPlace where
  word : Nat := 1
  letter : Option Nat := none
  deriving DecidableEq, Repr

/-- The names of the variables that every script has. -/
def ownNames : List (List Char) :=
  ["IFS", "MAIL", "MAILPATH", "PATH", "PS1", "PS2", "PS4", "OPTIND", "LINENO"].map (·.toList)

/-- A variable as it was: its value, if it had one, whether programs got it, also without a value,
and whether it could be set. -/
structure Kept where
  name : List Char
  value : Option (List Char)
  exported : Bool
  standing : Bool
  fixed : Bool

/-- What the words of a script refer to. -/
structure Scope where
  /-- The name of the script. -/
  name : List Char
  arguments : List (List Char)
  values : List (List Char × List Char) := []
  /-- The names of the variables that programs get. -/
  exported : List (List Char) := []
  /-- The names of the variables that cannot be set. -/
  fixed : List (List Char) := []
  /-- The names of the variables that programs go on to get when they have lost their values. -/
  standing : List (List Char) := ownNames
  /-- The exit code of the last command. -/
  status : Nat := 0
  /-- The number of the process that runs the script. -/
  number : Nat
  /-- The number of the last process that was started and not waited for. -/
  latest : Option Nat := none
  folder : Path
  /-- The letters of the options that are set. -/
  options : List Char := []
  /-- The line of the script that is being run. -/
  line : Nat := 1
  /-- The line up to which the file has been read that the shell was started for. -/
  reached : Nat := 1
  /-- What runs the commands, if it is not the script itself. -/
  caller : List Char := []
  optionPlace : OptionPlace := {}
  /-- The names of the programs that have been found. -/
  found : List (List Char) := []
  /-- The permissions that new files do not get, three bits for each kind of user. -/
  mask : Nat := 18

/-- A whole number in decimal digits. -/
def decimal (n : Int) : List Char := (toString n).toList

/-- Texts with a separator between them. -/
def joinedBy (separator : List Char) (texts : List (List Char)) : List Char :=
  separator.intercalate texts

/-- Texts with a blank between them. -/
def joined (texts : List (List Char)) : List Char := joinedBy [' '] texts

/-- The number that decimal digits write. -/
def digitsOf (cs : List Char) : Nat := cs.foldl (fun n c => n * 10 + (c.toNat - 48)) 0

/-- The letters of options in the order in which they are shown. -/
def optionOrder : List Char := "pubaCEVvxsnmiIfe".toList

/-- Whether a text consists of digits, and is not empty. -/
def isNumeral (cs : List Char) : Bool := !cs.isEmpty && cs.all Char.isDigit

/-- Whether `c` is white space. -/
def isSpace (c : Char) : Bool := c = ' ' || ('\t' ≤ c && c ≤ '\r')

/-- The greatest number of 64 bits with a sign. -/
def greatestWhole : Nat := 9223372036854775807

/-- The greatest number of 32 bits with a sign. -/
def greatestCount : Nat := 2147483647

/-- The whole number of 64 bits that a text writes in decimal, perhaps with a sign and with white
space around it. -/
def wholeOf? (cs : List Char) : Option Int :=
  let body := ((cs.dropWhile isSpace).reverse.dropWhile isSpace).reverse
  let (negative, digits) :=
    match body with
    | '-' :: rest => (true, rest)
    | '+' :: rest => (false, rest)
    | _ => (false, body)
  let n := digitsOf digits
  if !isNumeral digits then none
  else if negative then if n ≤ greatestWhole + 1 then some (-n) else none
  else if n ≤ greatestWhole then some n else none

/-- The number that a text writes where a command wants to know how many, or which. -/
def countOf? (cs : List Char) : Option Nat :=
  match wholeOf? cs with
  | some (.ofNat n) => if n ≤ greatestCount then some n else none
  | _ => none

namespace Scope

/-- The value of a variable. -/
def value? (s : Scope) (name : List Char) : Option (List Char) :=
  (s.values.find? fun v => v.1 = name).map (·.2)

/-- What is known besides a variable changes with it: where programs are found, and where the
reading of options begins. -/
def noting (s : Scope) (name value : List Char) : Scope :=
  if name = "PATH".toList then { s with found := [] }
  else if name = "OPTIND".toList then
    { s with optionPlace := { word := max ((countOf? value).getD 1) 1 } }
  else s

/-- Why a variable cannot get a value, if it cannot: it is to stay as it is, or the value is no
place where the reading of options could begin. -/
def refusal? (s : Scope) (name value : List Char) : Option (List Char) :=
  if s.fixed.contains name then some (name ++ ": is read only".toList)
  else if name = "OPTIND".toList && (countOf? value).isNone then
    some ("Illegal number: ".toList ++ value)
  else none

/-- Whether an option is set. -/
def has (s : Scope) (option : Char) : Bool := s.options.contains option

/-- Gives a variable to programs. -/
def exporting (s : Scope) (name : List Char) : Scope :=
  if s.exported.contains name then s else { s with exported := name :: s.exported }

/-- Sets a variable, which programs get from now on if the option for that is set. -/
def set (s : Scope) (name value : List Char) : Scope :=
  let s := if s.has 'a' then s.exporting name else s
  { s.noting name value with values := (name, value) :: s.values.filter (·.1 ≠ name) }

/-- Takes a variable away. -/
def unset (s : Scope) (name : List Char) : Scope :=
  let exported :=
    if s.has 'a' then (s.exporting name).exported
    else if s.standing.contains name then s.exported
    else s.exported.filter (· ≠ name)
  { s with values := s.values.filter (·.1 ≠ name), exported }

/-- Sets a variable, or takes it away where there is no value. -/
def put (s : Scope) (name : List Char) (value : Option (List Char)) : Scope :=
  match value with
  | some cs => s.set name cs
  | none => { s with values := s.values.filter (·.1 ≠ name) }

/-- A variable as it is. -/
def kept (s : Scope) (name : List Char) : Kept :=
  { name
    value := s.value? name
    exported := s.exported.contains name
    standing := s.standing.contains name
    fixed := s.fixed.contains name }

/-- A variable is to become again what it is; until then it keeps its marks without a value. -/
def lending (s : Scope) (name : List Char) : Scope :=
  if s.standing.contains name then s else { s with standing := name :: s.standing }

/-- A variable is again what it was; losing its value is a change for the option that gives all that
change to programs. -/
def giveBack (s : Scope) (v : Kept) : Scope :=
  let changes := s.has 'a' && v.value.isNone
  let s := s.put v.name v.value
  let marked (names : List (List Char)) (isMarked : Bool) : List (List Char) :=
    if isMarked then (if names.contains v.name then names else v.name :: names)
    else names.filter (· ≠ v.name)
  { s with
    exported := marked s.exported (v.exported || changes)
    standing := marked s.standing v.standing
    fixed := marked s.fixed v.fixed }

/-- A program has been found by its name. -/
def finding (s : Scope) (name : List Char) : Scope :=
  if s.found.contains name then s else { s with found := s.found ++ [name] }

/-- Lets a variable stay as it is. -/
def fixing (s : Scope) (name : List Char) : Scope :=
  if s.fixed.contains name then s else { s with fixed := name :: s.fixed }

/-- The arguments are others, of which no option has been read. -/
def given (s : Scope) (arguments : List (List Char)) : Scope :=
  { s with arguments, optionPlace := {} }

/-- Sets an option or takes it away. -/
def choose (s : Scope) (option : Char) (on : Bool) : Scope :=
  let others := s.options.filter (· ≠ option)
  { s with options := if on then others ++ [option] else others }

/-- The characters at which values fall apart. -/
def separators (s : Scope) : List Char := (s.value? "IFS".toList).getD " \t\n".toList

/-- What stands between arguments that become one text. -/
def joint (s : Scope) : List Char := s.separators.take 1

/-- The argument with a number, of which 32 bits count; the name of the script has the number 0. -/
def argument? (s : Scope) (number : Nat) : Option (List Char) :=
  match min number greatestWhole % 4294967296 with
  | 0 => some s.name
  | n + 1 => s.arguments[n]?

/-- The text behind a name: a variable, an argument or a special value. -/
def text? (s : Scope) : List Char → Option (List Char)
  | ['#'] => some (decimal s.arguments.length)
  | ['?'] => some (decimal s.status)
  | ['$'] => some (decimal s.number)
  | ['!'] => s.latest.map fun n => decimal n
  | ['-'] => some (optionOrder.filter s.options.contains)
  | ['@'] => some (joinedBy s.joint s.arguments)
  | ['*'] => some (joinedBy s.joint s.arguments)
  | name => if isNumeral name then s.argument? (digitsOf name) else s.value? name

theorem value?_set (s : Scope) (name value : List Char) :
    (s.set name value).value? name = some value := by
  simp [set, value?]

end Scope

end ProbeBench.Shell
