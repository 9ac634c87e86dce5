import ProbeBench.Config.Basic

/-!
# The console

What the program writes beside its report: the help for a command line that cannot be understood,
and every text without the marks that would colour it.
-/

namespace ProbeBench.CommandLine

/-- The help for a command line without a server's command. -/
def usage : String :=
  "\n  Usage: lsp-bench [options] [files] -- [language server command]\n\n" ++
  "  Starts a language server with the given command, then hammers\n" ++
  "  it with requests based on the files given.\n\n" ++
  "  Options:\n" ++
  "    --language=<language>: Set the language of the files " ++
  "(for example: codeql, python, javascript, typescript).\n" ++
  "    --workspace=<folder>:  Add a workspace folder to the server.\n" ++
  "    --jump:                Request jump-to-def instead of completions.\n" ++
  "    --format=<fmt>:        Set output format to one of: " ++
  ", ".intercalate (Format.all.map Format.name) ++ "\n" ++
  "                           Default is 'human'.\n" ++
  "    --timeout=<seconds>:   Per-request timeout, 0 waits forever. Default is 60.\n" ++
  "    --on-error=<policy>:   skip or abort when a request fails or times out.\n" ++
  "    --config=<path>:       Read defaults from this file instead of ./lsp-bench.toml.\n"

/-- Whether `c` may stand between the bracket and the letter of a mark. -/
def isMarkChar (c : Char) : Bool := ('0' ≤ c && c ≤ '9') || c = ';' || c = '?'

/-- What follows a mark, read from behind its bracket. -/
def afterMark? (cs : List Char) : Option (List Char) :=
  match cs.dropWhile isMarkChar with
  | c :: rest => if c.isAlpha then some rest else none
  | [] => none

/-- A text without marks: an escape character, a bracket, numbers and a letter. -/
def withoutMarks : Nat → List Char → List Char
  | 0, cs => cs
  | _ + 1, [] => []
  | fuel + 1, c :: rest =>
    match c, rest with
    | '\x1b', '[' :: more =>
      match afterMark? more with
      | some rest => withoutMarks fuel rest
      | none => c :: withoutMarks fuel rest
    | _, _ => c :: withoutMarks fuel rest

/-- A line on the console. -/
def consoleLine (text : String) : String :=
  String.ofList (withoutMarks text.length text.toList) ++ "\n"

/-- Lines on the console. -/
def console (lines : List String) : String :=
  String.join (lines.map consoleLine)

end ProbeBench.CommandLine
