import ProbeBench.Shell.Run

/-!
# Starting a program

`launch` gives the machine that runs a command, or says why there is none: the system takes no null
characters and no arguments that are too long, and it has to find the program.

* `launch_nil`: a command without words begins with no program.
-/

namespace ProbeBench.Program

open Shell (Machine Place)

/-- The longest argument, in octets. -/
def maxArgument : Nat := 131071

/-- The variables that every program gets. -/
def environment : Shell.Variables :=
  [("HOME".toList, "/root".toList), ("PATH".toList, "/usr/local/bin:/usr/bin:/bin".toList)]

/-- The job that a command is, with its first word as the name of the program. -/
def jobOf (p : Place) (program : String) (arguments : List String) :
    Except LaunchFault Shell.Job := do
  let found ← p.locate program
  if arguments.any fun a => maxArgument < a.utf8ByteSize then throw .argumentTooLong
  let arguments := arguments.map Shell.lettersOf
  Shell.jobOf p environment Shell.maxDepth found (Shell.lettersOf program) arguments

/-- The machine that runs a command. -/
def launch (p : Place) : List String → Except Failure Machine
  | [] => .error .outside
  | program :: arguments =>
    if (program :: arguments).any (·.contains '\x00') then .error .nullCharacter
    else
      match jobOf p program arguments with
      | .ok job => .ok (Machine.ofJob p.files p.folder job)
      | .error fault => .error (.launch program fault)

/-- The machine of a program that does nothing. -/
def idle (p : Place) : Machine :=
  Machine.ofJob p.files p.folder { name := [], activity := .script [] }

theorem launch_nil (p : Place) : launch p [] = .error .outside := rfl

end ProbeBench.Program
