import ProbeBench.Files.System
import ProbeBench.Shell.Piece
import ProbeBench.Shell.Scope

/-!
# Folders of users

A tilde at the beginning of a word, together with the name of a user behind it, stands for the
folder of that user; without a name the variable for that says which folder is meant. The name goes
up to a slash or to the end of the word, and has to be plain text. In a text that becomes the value
of a variable, which can hold several paths, colons end a name, and behind each of them a tilde can
stand again.

* `tilde_absent`: where no tilde can stand everything stays.
-/

namespace ProbeBench.Shell

/-- The users of the system with their folders. -/
def userFolders : List (String × String) :=
  FileTree.systemUsers.map fun line =>
    let parts := line.splitOn ":"
    (parts.headD "", parts.getD 5 "")

/-- The folder of a user; without a name that of the user who runs the script. -/
def Scope.home? (s : Scope) (user : List Char) : Option (List Char) :=
  if user.isEmpty then s.value? "HOME".toList
  else (userFolders.find? fun u => u.1.toList = user).map (·.2.toList)

/-- What a tilde means at a place in a word. -/
inductive Tilde where
  /-- It stands for a folder. -/
  | awaited
  /-- A folder was put in, and the name of its user goes on. -/
  | named
  /-- It is a character like any other. -/
  | absent
  deriving DecidableEq, Repr

/-- Whether a character ends the name of a user. -/
def endsUser (colons : Bool) (cs : List Char) : Bool := cs = ['/'] || (colons && cs = [':'])

/-- The name of a user at the beginning of pieces; none if it is not plain text. -/
def userName? (colons : Bool) : List Piece → Option (List Char)
  | [] => some []
  | .text cs false :: rest =>
    if endsUser colons cs then some [] else (userName? colons rest).map (cs ++ ·)
  | _ => none

/-- The folder that is put in instead of a piece, be it nothing at all, and what a tilde means
behind the piece. -/
def Scope.tilde (s : Scope) (colons : Bool) (here : Tilde) (p : Piece) (rest : List Piece) :
    Option (List Char) × Tilde :=
  match p with
  | .text cs false =>
    let next : Tilde := if colons && cs = [':'] then .awaited else .absent
    match here with
    | .absent => (none, next)
    | .named => if endsUser colons cs then (none, next) else (some [], .named)
    | .awaited =>
      if cs.isEmpty then (none, .awaited)
      else if cs ≠ ['~'] then (none, next)
      else
        match (userName? colons rest).bind s.home? with
        | some folder => (some folder, .named)
        | none => (none, .absent)
  | _ => (none, .absent)

theorem tilde_absent (s : Scope) (p : Piece) (rest : List Piece) :
    s.tilde false .absent p rest = (none, .absent) := by
  unfold Scope.tilde
  split <;> simp

end ProbeBench.Shell
