import ProbeBench.Files.System
import ProbeBench.Text.Percent
import ProbeBench.Words.Host

/-!
# Locators

What a URI says about a file: a scheme, a host and a path. `Locator.ofText?` takes the text of a URI
apart; `filePath` is the path that it leads to in a file system, and `read` what can be read there
where there are no files but those of the system.

* `filePath_of_plain`: a path with neither a host nor a drive leads where it says.
-/

namespace ProbeBench.Words

/-- The parts of a URI that say where a file is, without percent forms. -/
structure Locator where
  scheme : String
  host : List Char
  path : List Char

namespace Locator

/-- Whether a scheme may hold `c`. -/
def isSchemeChar (c : Char) : Bool := c.isAlphanum || c = '+' || c = '-' || c = '.'

/-- The scheme in front of a colon, in small letters, and the text behind it. -/
def takeScheme (cs : List Char) : List Char × List Char :=
  let front := cs.takeWhile (· ≠ ':')
  match front, cs.drop front.length with
  | c :: more, ':' :: rest =>
    if c.isAlpha && more.all isSchemeChar then ((c :: more).map Char.toLower, rest) else ([], cs)
  | _, _ => ([], cs)

/-- The host behind two slashes, and the text behind it. -/
def takeHost : List Char → List Char × List Char
  | '/' :: '/' :: rest => rest.span fun c => c ≠ '/' && c ≠ '?' && c ≠ '#'
  | cs => ([], cs)

/-- The schemes whose paths may end in parameters; a text without a scheme may as well. -/
def parameterSchemes : List String :=
  ["", "ftp", "hdl", "prospero", "http", "imap", "https", "shttp", "rtsp", "rtsps", "rtspu", "sip",
    "sips", "mms", "sftp", "tel"]

/-- A path without parameters, which begin at a semicolon in its last name. -/
def withoutParameters (path : List Char) : List Char :=
  let name := (path.reverse.takeWhile (· ≠ '/')).reverse
  path.take (path.length - name.length) ++ name.takeWhile (· ≠ ';')

/-- The characters of a URI that count: no control characters and blanks in front of it, and no line
ends and tabulators anywhere. -/
def cleaned (cs : List Char) : List Char :=
  (cs.dropWhile fun c => c.toNat ≤ 0x20).filter fun c => c ≠ '\t' && c ≠ '\n' && c ≠ '\r'

/-- The parts of a URI; none if its host cannot be one. -/
def ofText? (cs : List Char) : Option Locator :=
  let (scheme, rest) := takeScheme (cleaned cs)
  let (host, rest) := takeHost rest
  let scheme := String.ofList scheme
  let path := rest.takeWhile fun c => c ≠ '#' && c ≠ '?'
  let path := if parameterSchemes.contains scheme then withoutParameters path else path
  if Host.isHost host then some ⟨scheme, Text.Percent.decode host, Text.Percent.decode path⟩
  else none

/-- The path in a file system: a host of a file stands in front of it, and a letter with a colon
behind the first slash is a drive. -/
def filePath (l : Locator) : List Char :=
  if !l.host.isEmpty && !l.path.isEmpty && l.scheme = "file" then '/' :: '/' :: (l.host ++ l.path)
  else
    match l.path with
    | '/' :: drive :: ':' :: rest =>
      if drive.isAlpha then drive.toLower :: ':' :: rest else l.path
    | path => path

/-- The directory that paths without a root begin in; there is nothing in it. -/
def workplace : Path := ⟨"/", ["tmp", "words", "work"]⟩

/-- What can be read at a locator where there are no files but those of the system. -/
def read (l : Locator) : Except FileFault (List UInt8) :=
  FileTree.read ((workplace.names, .directory) :: FileTree.system) workplace
    (Path.ofText (String.ofList l.filePath))

theorem filePath_of_plain {scheme : String} {path : List Char} (h : ':' ∉ path) :
    filePath ⟨scheme, [], path⟩ = path := by
  unfold filePath
  simp only [List.isEmpty_nil, Bool.not_true, Bool.false_and, Bool.false_eq_true, if_false]
  split
  · rename_i rest
    simp at h
  · rfl

end Locator

end ProbeBench.Words
