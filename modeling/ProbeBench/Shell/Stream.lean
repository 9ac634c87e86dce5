import ProbeBench.Shell.Machine

/-!
# Streams of a machine

What processes read and write. Behind a stream there is a channel, a file that was opened, a folder
or a device. A `Supply` is what can be read; text is written as far as what it gets to takes it.
Messages go to stream 2. `openAt` opens what is at a path, and `opened` what a redirection names.

* `supply?_null`: the device that holds nothing is at its end at once.
-/

namespace ProbeBench.Shell

/-- What can be read from a stream. -/
structure Supply where
  content : List Char
  /-- Nothing more comes. -/
  ended : Bool

/-- How something is opened. -/
structure Mode where
  reads : Bool := false
  writes : Bool := false
  /-- It is made if it is missing. -/
  makes : Bool := false
  /-- What it held is lost. -/
  empties : Bool := false
  /-- What is written gets to the end. -/
  atEnd : Bool := false

namespace Machine

/-- The moments of the system that have passed; it has 250 of them in a second. What was there at
first was written before. -/
def tick (m : Machine) : Nat := (m.now * 250.0).toUInt64.toNat + 2

/-- The content of a file. -/
def octetsAt (m : Machine) (names : List String) : List UInt8 :=
  match m.files.entry? names with
  | some (.file octets ..) => octets
  | _ => []

/-- Writes the content of a file. -/
def setFile (m : Machine) (names : List String) (octets : List UInt8) : Machine :=
  { m with files := m.files.put names octets m.tick }

/-- The opening with a number. -/
def opening? (m : Machine) (number : Nat) : Option Opening :=
  (m.openings.find? fun o => o.1 = number).map (·.2)

/-- Goes to a place in a file that was opened. -/
def goToPlace (m : Machine) (number place : Nat) : Machine :=
  { m with
    openings := m.openings.map fun o =>
      if o.1 = number then (number, { o.2 with place }) else o }

/-! ## Reading -/

/-- What can be read from a stream; none if it cannot be read at all. -/
def supply? (m : Machine) (stream : Nat) : Option Supply :=
  match m.process.streams.endpoint? stream with
  | some (.source channel) => some ⟨m.content channel, m.isClosed channel⟩
  | some (.file number) =>
    match m.opening? number with
    | some o =>
      if o.reads then some ⟨letters ((m.octetsAt o.names).drop o.place), true⟩ else none
    | none => none
  | some (.device d) => some ⟨[], d = .null⟩
  | _ => none

/-- Reads from a stream all but the text that is left. -/
def consume (m : Machine) (stream : Nat) (left : List Char) : Machine :=
  match m.process.streams.endpoint? stream with
  | some (.source channel) => m.leave channel left
  | some (.file number) =>
    match m.opening? number with
    | some o => m.goToPlace number ((m.octetsAt o.names).length - left.length)
    | none => m
  | _ => m

/-- Waits until a channel holds more, or is closed, and then does a task. -/
def awaitChannel (m : Machine) (channel seen : Nat) (t : Task) : Machine :=
  let m := m.leave channel (m.content channel)
  m.on fun p => { p.push [t] with state := .reading channel seen }

/-- Waits until there is more to read from a stream, and then does a task. A device that never ends
has no line that does. -/
def awaitMore (m : Machine) (stream seen : Nat) (t : Task) : Machine :=
  match m.process.streams.endpoint? stream with
  | some (.source channel) => m.awaitChannel channel seen t
  | _ => m.on fun p => { p.push [t] with state := .awaiting [p.number] }

theorem supply?_null (m : Machine) {stream : Nat}
    (h : m.process.streams.endpoint? stream = some .nowhere) :
    m.supply? stream = some ⟨[], true⟩ := by
  simp [supply?, h, Endpoint.nowhere]

/-! ## Writing -/

/-- The number of the signal that a process gets when nobody reads what it writes. -/
def pipeSignal : Nat := 13

/-- Writes text to a file that was opened. -/
def writeInto (m : Machine) (number : Nat) (o : Opening) (cs : List Char) : Machine :=
  let old := m.octetsAt o.names
  let place := if o.atEnd then old.length else o.place
  let front := old.take place ++ List.replicate (place - old.length) 0
  let m := m.setFile o.names (front ++ octetsOf cs ++ old.drop (place + cs.length))
  m.goToPlace number (place + cs.length)

/-- Writes text to a stream; says whether that was possible. A process that has exited, perhaps of
what it wrote before, writes nothing. -/
def writeTo (m : Machine) (stream : Nat) (cs : List Char) : Machine × Bool :=
  if cs.isEmpty then (m, true)
  else if !m.process.isLive then (m, false)
  else
    match m.process.streams.endpoint? stream with
    | some (.sink channel) =>
      if m.isDeaf channel then (m.on (·.receive pipeSignal), false) else (m.put channel cs, true)
    | some (.file number) =>
      match m.opening? number with
      | some o => if o.writes then (m.writeInto number o cs, true) else (m, false)
      | none => (m, false)
    | some (.device d) => (m, d ≠ .full)
    | _ => (m, false)

/-- Writes a message about something that went wrong. -/
def complain (m : Machine) (text : List Char) : Machine := (m.writeTo 2 (text ++ ['\n'])).1

/-- Writes a message with the name of the script and the line. -/
def report (m : Machine) (text : List Char) : Machine :=
  m.complain (m.scope.name ++ ": ".toList ++ decimal m.scope.line ++ ": ".toList ++ text)

/-- Writes a message about a command that is run, with the name of what runs it. -/
def accuse (m : Machine) (text : List Char) : Machine :=
  let caller := m.scope.caller
  m.report (if caller.isEmpty then text else caller ++ ": ".toList ++ text)

/-- Ends the script because of a mistake in it. -/
def abort (m : Machine) (text : List Char) : Machine := (m.accuse text).exit 2

/-- Ends a command because of a mistake in its arguments, and perhaps the script, too. -/
def mistake (m : Machine) (ends : Bool) (text : List Char) : Machine :=
  let m := m.report text
  if ends then m.exit 2 else m.ended 2

/-- Writes what a command says, and ends it, with success if that was possible. -/
def write (m : Machine) (name : String) (cs : List Char) : Machine :=
  let (m, done) := m.writeTo 1 cs
  let m := if done then m else m.report (name ++ ": " ++ name ++ ": I/O error").toList
  m.answer done

/-! ## Opening -/

/-- What is at a path; one with a slash at its end has to lead to a directory. -/
def entryAt (m : Machine) (path : List Char) : Except FileFault FileEntry :=
  match spelled? path with
  | none => .error .missing
  | some text =>
    if text.isEmpty then .error .missing
    else
      match m.files.find m.scope.folder (.ofText text) with
      | .ok .directory => .ok .directory
      | .ok e => if Path.meansFolder text then .error .notDirectory else .ok e
      | .error fault => .error fault

/-- The place that a path leads to. -/
def placeOf (m : Machine) (path : List Char) : List String :=
  (Path.resolve (.ofText ((spelled? path).getD "")) m.scope.folder).names

/-- Whether a file can be made at a path where there is none. -/
def hasRoom (m : Machine) (path : List Char) : Bool :=
  let names := (m.scope.folder.under (.ofText ((spelled? path).getD ""))).names
  !path.isEmpty && (m.files.walk [] names.dropLast).toOption = some .directory

/-- Opens a file. -/
def openFile (m : Machine) (mode : Mode) (names : List String) : Endpoint × Machine :=
  let m := if mode.empties then m.setFile names [] else m
  let o : Opening := { names, reads := mode.reads, writes := mode.writes, atEnd := mode.atEnd }
  (.file m.fresh, { m with openings := (m.fresh, o) :: m.openings, fresh := m.fresh + 1 })

/-- Opens what a stream leads to once more. The input from outside cannot be opened. -/
def reopen (m : Machine) (mode : Mode) (stream : Nat) : Except FileFault (Endpoint × Machine) :=
  match m.process.streams.endpoint? stream with
  | none => .error .missing
  | some (.source channel) =>
    if channel = outerInput then .error .noDevice
    else .ok (if mode.writes then .sink channel else .source channel, m)
  | some (.sink channel) => .ok (if mode.writes then .sink channel else .source channel, m)
  | some (.file number) =>
    match m.opening? number with
    | some o => .ok (m.openFile mode o.names)
    | none => .error .missing
  | some .folder => if mode.writes then .error .isDirectory else .ok (.folder, m)
  | some (.device d) => .ok (.device d, m)

/-- Opens what is at a path. What has to be made is no directory. -/
def openAt (m : Machine) (mode : Mode) (path : List Char) :
    Except FileFault (Endpoint × Machine) :=
  if mode.makes && path.getLast? = some '/' && m.hasRoom path then .error .isDirectory
  else
  match m.entryAt path with
  | .ok (.file ..) => .ok (m.openFile mode (m.placeOf path))
  | .ok .directory => if mode.writes then .error .isDirectory else .ok (.folder, m)
  | .ok (.device (.stream n)) => m.reopen mode n
  | .ok (.device .terminal) => .error .noDevice
  | .ok (.device d) => .ok (.device d, m)
  | .error fault =>
    if fault = .missing && mode.makes && m.hasRoom path then
      .ok (m.openFile { mode with empties := true } (m.placeOf path))
    else .error fault

/-- Why something at a path cannot be opened; what is absent has words of its own. -/
def refusal (start : String) (path : List Char) (fault : FileFault) (absent : String) :
    List Char :=
  let reason :=
    match fault with
    | .missing | .notDirectory => absent
    | _ => fault.reason
  start.toList ++ path ++ ": ".toList ++ reason.toList

/-- Opens what is at a path for a stream that is written. -/
def openToWrite (m : Machine) (mode : Mode) (path : List Char) :
    Except (List Char) (Option Endpoint × Machine) :=
  match m.openAt { mode with writes := true, makes := true } path with
  | .ok (e, m) => .ok (some e, m)
  | .error fault => .error (refusal "cannot create " path fault "Directory nonexistent")

/-- Whether a path leads to a file. -/
def isFileAt (m : Machine) (path : List Char) : Bool :=
  match m.entryAt path with
  | .ok (.file ..) => true
  | _ => false

/-- What a stream is led to that is no document. Where files are to be kept, none that is there is
written anew. -/
def opened (m : Machine) (target : Target (List Char)) :
    Except (List Char) (Option Endpoint × Machine) :=
  match target with
  | .document _ => .ok (none, m)
  | .read path =>
    match m.openAt { reads := true } path with
    | .ok (e, m) => .ok (some e, m)
    | .error fault => .error (refusal "cannot open " path fault "No such file")
  | .write path =>
    if m.scope.has 'C' && m.isFileAt path then
      .error ("cannot create ".toList ++ path ++ ": File exists".toList)
    else m.openToWrite { empties := true } path
  | .overwrite path => m.openToWrite { empties := true } path
  | .both path => m.openToWrite { reads := true } path
  | .append path => m.openToWrite { atEnd := true } path
  | .stream ['-'] => .ok (none, m)
  | .stream word =>
    match m.process.streams.endpoint? (digitsOf word) with
    | some e => .ok (some e, m)
    | none => .error (word ++ ": Bad file descriptor".toList)

/-- Whether a stream is led to where it leads, be it open or not. -/
def staysPut (r : Redirect (List Char)) : Bool :=
  match r.target with
  | .stream word => isNumeral word && digitsOf word = r.stream
  | _ => false

end Machine

end ProbeBench.Shell
