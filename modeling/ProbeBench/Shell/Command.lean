import ProbeBench.Shell.Piece

/-!
# Commands of a shell script

What a script says: simple commands with values set for them, commands joined by what the first of
them ends with or by what it writes, loops, choices and functions.
-/

namespace ProbeBench.Shell

/-- How two commands are joined. -/
inductive Join where
  | both
  /-- The second one runs if the first one succeeds. -/
  | ifDone
  /-- The second one runs if the first one fails. -/
  | ifFailed
  deriving DecidableEq, Repr

/-- What a stream of a command is led to, where words are of type `ω`. -/
inductive Target (ω : Type) where
  | read (path : ω)
  | write (path : ω)
  /-- Writes a file even if such files are to be kept. -/
  | overwrite (path : ω)
  | append (path : ω)
  /-- Reads a file that is made if it is missing. -/
  | both (path : ω)
  /-- Another stream, or none at all for a dash. -/
  | stream (word : ω)
  /-- A text to be read, in which values are put. -/
  | document (text : Pieces)

/-- A stream of a command that is led elsewhere. -/
structure Redirect (ω : Type) where
  stream : Nat
  target : Target ω

/-- A command. -/
inductive Command where
  | nothing
  /-- A command that begins in a line. -/
  | located (line : Nat) (c : Command)
  /-- Values to set, the words of a program with its arguments, and where its streams lead. -/
  | simple (settings : List (List Char × Pieces)) (words : List Pieces)
    (redirects : List (Redirect Pieces))
  | join (how : Join) (first second : Command)
  | negate (c : Command)
  /-- Each command reads what the one before it writes. -/
  | pipe (stages : List Command)
  /-- Runs at the same time as what follows. -/
  | background (c : Command)
  /-- Changes nothing outside. -/
  | apart (c : Command)
  /-- Runs the body as long as the condition ends with success, or with failure. -/
  | loop (whileDone : Bool) (condition body : Command)
  | choice (condition yes no : Command)
  /-- Runs the body for each word, or for each argument. -/
  | each (name : List Char) (words : Option (List Pieces)) (body : Command)
  /-- Runs the first command one of whose patterns a word fits. -/
  | select (word : Pieces) (branches : List (List Pieces × Command))
  | define (name : List Char) (body : Command)
  /-- Some of its streams lead elsewhere. -/
  | redirected (c : Command) (redirects : List (Redirect Pieces))

end ProbeBench.Shell
