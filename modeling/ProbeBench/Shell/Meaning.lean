import ProbeBench.Shell.Grammar
import ProbeBench.Shell.Tool

/-!
# What names mean

A name in front of a command is a keyword, stands for a text, or is that of a function, of something
that the shell itself does, or of a program, looked for in this order. Scripts can ask for that,
find programs before they run them, and call something by its name.

* `meaning_keyword`: nothing takes the name of a keyword.
-/

namespace ProbeBench.Shell

/-- What a name in front of a command can mean. -/
inductive Meaning where
  | nothing
  | keyword
  /-- Stands for a text. -/
  | alias (text : List Char)
  | function
  | special
  | builtin
  /-- A program at a path. -/
  | program (path : List Char)
  deriving DecidableEq

namespace Machine

/-- Whether the shell itself knows something by a name. -/
def isOwnName (m : Machine) (word : String) : Bool :=
  (m.perform? false word []).isSome || ["command", "hash", "type"].contains word

/-- What a name in front of a command means. -/
def meaning (m : Machine) (standard : Bool) (name : List Char) : Meaning :=
  let word := String.ofList name
  if keywords.contains word then .keyword
  else
    match m.process.aliases.find? fun a => a.1 = name with
    | some (_, text) => .alias text
    | none =>
      if m.process.functions.any fun f => f.1 = name then .function
      else if isSpecialName word then .special
      else if m.isOwnName word then .builtin
      else (m.programPath? standard name).elim .nothing .program

/-- Notes that a program has been found by its name. -/
def noting (m : Machine) (name : List Char) : Meaning → Machine
  | .program _ => if name.contains '/' then m else m.withScope (m.scope.finding name)
  | _ => m

/-- Writes what names mean; without success if one means nothing. What is found in the folders of
the system is not noted. -/
def describe (m : Machine) (standard : Bool) (names : List (List Char)) : Machine :=
  names.foldl
    (fun m name =>
      let meaning := m.meaning standard name
      let isNoted := !standard && m.scope.found.contains name
      let text : String :=
        match meaning with
        | .nothing => ": not found"
        | .keyword => " is a shell keyword"
        | .alias _ => " is an alias for "
        | .function => " is a shell function"
        | .special => " is a special shell builtin"
        | .builtin => " is a shell builtin"
        | .program _ => if isNoted then " is a tracked alias for " else " is "
      let behind : List Char :=
        match meaning with
        | .alias text => text
        | .program path => path
        | _ => []
      let m := (m.writeTo 1 (name ++ text.toList ++ behind ++ ['\n'])).1
      let m := if standard then m else m.noting name meaning
      if meaning = .nothing then m.ended 127 else m)
    (m.answer true)

/-- Writes how a name is called. -/
def tellName (m : Machine) (standard : Bool) (name : List Char) : Machine :=
  let meaning := m.meaning standard name
  let m := if standard then m else m.noting name meaning
  match meaning with
  | .nothing => m.ended 127
  | .alias text => m.write "command" ("alias ".toList ++ settingLine (name, text))
  | .program path => m.write "command" (path ++ ['\n'])
  | _ => m.write "command" (name ++ ['\n'])

/-- Notes a name by which a program is found; says why there is none. What is no name of a program
is left alone. -/
def findProgram (m : Machine) (name : List Char) : Machine :=
  let isKnown := m.isOwnName (String.ofList name) || m.process.functions.any (·.1 = name)
  if name.contains '/' || isKnown then m
  else
    match (spelled? name).elim (.error .missing) (m.place false).locate with
    | .ok _ => m.withScope (m.scope.finding name)
    | .error fault =>
      let reason := (missingReason fault).toList
      (m.report ("hash: ".toList ++ name ++ ": ".toList ++ reason)).answer false

/-- Finds programs, or writes those that were found, or forgets them. -/
def findPrograms (m : Machine) (arguments : List (List Char)) : Machine :=
  match takeFlags ['r'] arguments with
  | .error text => m.mistake false ("hash: ".toList ++ text)
  | .ok (_ :: _, _) => (m.withScope { m.scope with found := [] }).answer true
  | .ok ([], []) =>
    let names := m.scope.found.mergeSort fun a b => slotOf programSlots a ≤ slotOf programSlots b
    m.write "hash" (names.flatMap fun name => (m.programPath? false name).getD name ++ ['\n'])
  | .ok ([], names) => names.foldl findProgram (m.answer true)

/-- Runs what the shell itself knows by a name, or a program, which may be looked for in the folders
of the system. A word that asks for that may stand in front of the name as often as one likes; a
mistake does not end the script then. -/
def callPlain : Nat → Machine → (ends standard : Bool) → List Char → List (List Char) → Machine
  | 0, m, _, _, _, _ => m
  | fuel + 1, m, ends, standard, name, arguments =>
    let word := String.ofList name
    if word = "command" then
      match takeFlags "pvV".toList arguments with
      | .error text => m.mistake false ("command: ".toList ++ text)
      | .ok (_, []) => m.answer true
      | .ok (flags, name :: rest) =>
        let standard := standard || hasFlag flags 'p'
        if hasFlag flags 'V' then m.describe standard [name]
        else if hasFlag flags 'v' then m.tellName standard name
        else callPlain fuel m false standard name rest
    else if word = "type" then m.describe false arguments
    else if word = "hash" then m.findPrograms arguments
    else if word = "exec" then
      match arguments with
      | [] => m.answer true
      | name :: arguments => m.replace name arguments
    else if word = "local" && !ends then m.answer true
    else (m.perform? (ends && isSpecialName word) word arguments).getD
      (m.runProgram standard name arguments)

/-- How many functions may call each other at most. -/
def maxCalls : Nat := 1000

/-- Runs a function or a program by its name, or what the shell knows by it. -/
def call (m : Machine) (name : List Char) (arguments : List (List Char)) : Machine :=
  let knows (m : Machine) : Machine :=
    callPlain (arguments.length + 1) m true false name arguments
  if isSpecialName (String.ofList name) then knows m
  else
    match m.process.functions.find? fun f => f.1 = name with
    | some (_, body) =>
      let s := m.scope
      if maxCalls ≤ m.process.calls then
        m.abort ("Maximum function recursion depth (" ++ toString maxCalls ++ ") reached").toList
      else
      let m := m.push [.run body [], .leave s.arguments s.optionPlace []]
      m.withScope (s.given arguments)
    | none => knows m

theorem meaning_keyword (m : Machine) (standard : Bool) {name : List Char}
    (h : keywords.contains (String.ofList name) = true) :
    m.meaning standard name = .keyword := by
  simp [meaning, show String.ofList name ∈ keywords by simpa using h]

end Machine

end ProbeBench.Shell
