import ProbeBench.Path
import ProbeBench.Text.Literal

/-!
# Files

A `FileTree` lists the files and the directories that exist, by their names from the root. A path is
followed name by name, so a double dot leads up from a directory that has to exist; the root always
exists, and so does every directory above something listed. A file knows when it was written, and a
device stands for what is no file. A `FileFault` is why nothing can be read at a path.

* `walk_nil`: the end of a path is what is listed there.
-/

namespace ProbeBench

/-- Why nothing can be read at a path. -/
inductive FileFault where
  | missing
  /-- A name that something stands under is no directory. -/
  | notDirectory
  | isDirectory
  | nameTooLong
  /-- The path holds a null character, which no name can. -/
  | nullCharacter
  /-- What the path leads to is not there. -/
  | noDevice
  deriving DecidableEq, Repr

namespace FileFault

/-- The system's number of the fault. -/
def number : FileFault → Nat
  | .missing => 2
  | .notDirectory => 20
  | .isDirectory => 21
  | .nameTooLong => 36
  | .nullCharacter => 22
  | .noDevice => 6

/-- The fault in words. -/
def reason : FileFault → String
  | .missing => "No such file or directory"
  | .notDirectory => "Not a directory"
  | .isDirectory => "Is a directory"
  | .nameTooLong => "File name too long"
  | .nullCharacter => "embedded null byte"
  | .noDevice => "No such device or address"

/-- The fault with its number and the path it concerns. -/
def describe (f : FileFault) (path : String) : String :=
  "[Errno " ++ toString f.number ++ "] " ++ f.reason ++ ": " ++ Text.Literal.text path

end FileFault

/-- A device. -/
inductive Device where
  /-- Holds nothing and takes everything. -/
  | null
  /-- Never ends. -/
  | endless
  /-- Never ends, and takes nothing. -/
  | full
  /-- There is none. -/
  | terminal
  /-- What a stream of whoever asks leads to. -/
  | stream (number : Nat)
  deriving DecidableEq, Repr

/-- What stands at a place in the tree. -/
inductive FileEntry where
  /-- A file; `tick` counts the moments of the system at the last one of which it was written. -/
  | file (octets : List UInt8) (executable : Bool) (tick : Nat)
  | directory
  | device (d : Device)
  deriving DecidableEq, Repr

/-- What can be read of something. -/
def FileEntry.content : FileEntry → Except FileFault (List UInt8)
  | .file octets .. => .ok octets
  | .directory => .error .isDirectory
  | .device .terminal | .device (.stream _) => .error .noDevice
  | .device _ => .ok []

/-- When something was written last; what is no file was never written. -/
def FileEntry.tick : FileEntry → Nat
  | .file _ _ tick => tick
  | _ => 0

/-- The files and directories that exist, by their names from the root. -/
abbrev FileTree := List (List String × FileEntry)

namespace FileTree

/-- The longest name, in octets. -/
def maxName : Nat := 255

/-- The longest text of a path, in octets. -/
def maxPath : Nat := 4095

/-- What stands at a place: something listed, or a directory above something listed. -/
def entry? (t : FileTree) (names : List String) : Option FileEntry :=
  match t.find? fun e => e.1 = names with
  | some e => some e.2
  | none => if names = [] ∨ t.any (fun e => names.isPrefixOf e.1) then some .directory else none

/-- Goes on along names from the place whose names, last first, are `place`. -/
def walk (t : FileTree) (place : List String) : List String → Except FileFault FileEntry
  | [] =>
    match t.entry? place.reverse with
    | some e => .ok e
    | none => .error .missing
  | name :: rest =>
    match t.entry? place.reverse with
    | none => .error .missing
    | some (.file ..) | some (.device _) => .error .notDirectory
    | some .directory =>
      if name = ".." then walk t (place.drop 1) rest
      else if maxName < name.utf8ByteSize then .error .nameTooLong
      else walk t (name :: place) rest

/-- What a path leads to from the directory `cwd`. The length that counts is that of the path as it
is given. -/
def find (t : FileTree) (cwd p : Path) : Except FileFault FileEntry :=
  if p.holdsNull then .error .nullCharacter
  else if maxPath < p.text.utf8ByteSize then .error .nameTooLong
  else t.walk [] (cwd.under p).names

/-- The content of a file. -/
def read (t : FileTree) (cwd p : Path) : Except FileFault (List UInt8) :=
  t.find cwd p >>= FileEntry.content

/-- The names in a directory. -/
def children (t : FileTree) (names : List String) : List String :=
  (t.filterMap fun e =>
    if names.isPrefixOf e.1 then (e.1.drop names.length).head? else none).eraseDups

/-- Writes the content of the file at a place; one that was there stays executable if it was. -/
def put (t : FileTree) (names : List String) (octets : List UInt8) (tick : Nat) : FileTree :=
  match t.find? fun e => e.1 = names with
  | some (_, .file _ executable _) =>
    t.map fun e => if e.1 = names then (names, .file octets executable tick) else e
  | some _ => t
  | none => t ++ [(names, .file octets false tick)]

theorem walk_nil (t : FileTree) (place : List String) {e : FileEntry}
    (h : t.entry? place.reverse = some e) : t.walk place [] = .ok e := by
  simp [walk, h]

theorem read_eq_ok_iff {t : FileTree} {cwd p : Path} {octets : List UInt8} :
    t.read cwd p = .ok octets ↔ ∃ e, t.find cwd p = .ok e ∧ e.content = .ok octets := by
  unfold read
  cases t.find cwd p with
  | error fault => simp [Bind.bind, Except.bind]
  | ok e => simp [Bind.bind, Except.bind]

end FileTree

end ProbeBench
