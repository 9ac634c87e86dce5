import ProbeBench.CommandLine.Invocation
import ProbeBench.Files.System
import ProbeBench.Program.Course

/-!
# The command line

`main` takes the words of the command line. The files of the run come on standard input, as a JSON
object from their names to their texts on one line; every file may be run as a program. Servers are
the programs that `Program.launch` knows, and time passes only where they sleep.
-/

namespace ProbeBench.CommandLine

/-- The directory of the run. -/
def home : Path := ⟨"/", ["home"]⟩

/-- The files that a JSON object lists, and those of the system. -/
def filesOf (v : Json) : FileTree :=
  (home.names, .directory) :: FileTree.system ++ v.members.map fun (name, text) =>
    let octets := Text.Utf8.encode ((text.str?).getD "").toList
    ((home.under (.ofText name)).names, .file octets true 1)

/-- The program with the given files. -/
def invokeWith (files : FileTree) (words : List String) : Invocation Shell.Machine :=
  let place : Shell.Place := { files, folder := home }
  let host : Host Shell.Machine := ⟨Program.server, fun _ command => Program.launch place command⟩
  invoke host ⟨files, home, 1⟩ { loop := { session := {}, server := Program.idle place } } words

/-- Reads the files, runs the program and writes what it leaves behind. -/
def runWith (words : List String) : IO UInt32 := do
  let text ← (← IO.getStdin).getLine
  match Json.parse (if text.isEmpty then "\x7b\x7d" else text).toList with
  | .error fault =>
    (← IO.getStderr).putStrLn fault.message
    return 2
  | .ok v =>
    let i := invokeWith (filesOf v) words
    (← IO.getStdout).putStr (console i.output)
    (← IO.getStderr).putStr (console i.errors)
    return i.ending.code.toUInt32

end ProbeBench.CommandLine

/-- Runs the program on the words of its command line. -/
def main (words : List String) : IO UInt32 :=
  ProbeBench.CommandLine.runWith words
