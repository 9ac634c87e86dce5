import ProbeBench.Config.Fault

/-!
# Failures

Everything that can go wrong in a run, by cause. `Failure.message` gives the words.

* A `StreamFault` is what the operating system, or the stream itself, says when reading or writing
  fails.
* A `Loss` is why a connection counts as lost.
-/

namespace ProbeBench

/-- The kinds of fault of a stream. -/
inductive StreamKind where
  /-- The other end no longer reads. -/
  | brokenPipe
  /-- The other end dropped the connection. -/
  | connectionReset
  /-- Any other fault of the system. -/
  | system
  /-- The stream was given something it cannot take. -/
  | value
  deriving DecidableEq, Repr

/-- A fault of a stream with its text. -/
structure StreamFault where
  kind : StreamKind
  text : String
  deriving DecidableEq, Repr

/-- Whether the fault says that the other end is gone. -/
def StreamFault.isGone (f : StreamFault) : Bool :=
  f.kind = .brokenPipe || f.kind = .connectionReset

/-- Why a connection counts as lost. -/
inductive Loss where
  /-- The transport had been closed. -/
  | transportClosed
  /-- A write found the other end gone. -/
  | writeFailed (text : String)
  /-- Reading failed. -/
  | readFailed (text : String)
  /-- Handling what was read failed. -/
  | readerFailed (text : String)
  /-- The server's output ended. -/
  | outputEnded
  deriving DecidableEq, Repr

/-- The loss in words. -/
def Loss.message : Loss → String
  | .transportClosed => "LSP transport is closed"
  | .writeFailed text => "LSP stream closed: " ++ text
  | .readFailed text => "LSP stream failed: " ++ text
  | .readerFailed text => "LSP reader failed: ValueError(" ++ Text.Literal.text text ++ ")"
  | .outputEnded => "LSP server closed its output stream"

/-- A whole number outside the range of its field. -/
structure RangeFault where
  field : String
  low : Int
  high : Int
  value : Json

/-- The fault in words. -/
def RangeFault.message (f : RangeFault) : String :=
  f.field ++ " should be in range [" ++ toString f.low ++ ":" ++ toString f.high ++ "], but was " ++
    f.value.display ++ "."

/-- Why a program cannot be started. -/
inductive LaunchFault where
  | missing
  | notDirectory
  | notPermitted
  /-- The file is no program of a known kind. -/
  | unknownFormat
  | nameTooLong
  /-- One of the arguments is too long. -/
  | argumentTooLong
  /-- Too many files name each other as their program. -/
  | tooDeep
  deriving DecidableEq, Repr

/-- The fault in words, with the system's number and the program. -/
def LaunchFault.describe (fault : LaunchFault) (program : String) : String :=
  let reason : String :=
    match fault with
    | .missing => "[Errno 2] No such file or directory"
    | .notDirectory => "[Errno 20] Not a directory"
    | .notPermitted => "[Errno 13] Permission denied"
    | .unknownFormat => "[Errno 8] Exec format error"
    | .nameTooLong => "[Errno 36] File name too long"
    | .argumentTooLong => "[Errno 7] Argument list too long"
    | .tooDeep => "[Errno 40] Too many levels of symbolic links"
  reason ++ ": " ++ Text.Literal.text program

/-- Everything that can go wrong in a run. -/
inductive Failure where
  /-- A state that was thought impossible. -/
  | never (reason : String) (env : Members)
  /-- The server answered a request with an error. -/
  | request (method : String) (code : Json) (message : String) (data : Json)
  /-- No answer within the time allowed, in seconds. -/
  | timeout (method : String) (seconds : Float)
  /-- The connection to the server is lost. -/
  | lost (cause : Loss)
  /-- The session was shut down. -/
  | closed
  /-- The stream failed in another way than by losing the connection. -/
  | stream (fault : StreamFault)
  /-- A number outside the range of its field. -/
  | range (fault : RangeFault)
  /-- A position outside its sequence. -/
  | outside
  /-- A value of a type that its field does not take. -/
  | wrongType
  /-- A duration that is no number and cannot be rounded. -/
  | notNumber
  /-- A duration without end, which cannot be rounded. -/
  | endless
  /-- The configuration is wrong, or an input cannot be read. -/
  | config (fault : Config.Fault)
  /-- The server's program cannot be started. -/
  | launch (program : String) (fault : LaunchFault)
  /-- A configuration file, or what a program has written, that is no text. -/
  | undecodable (fault : Text.Utf8.Fault)
  /-- A whole number of too many digits to be read. -/
  | digits (count : Nat)
  /-- A whole number of too many digits to be written. -/
  | unwritable
  /-- A whole number beyond all doubles, where a double is wanted. -/
  | tooLarge
  /-- A text where a number of seconds is wanted. -/
  | notSeconds
  /-- A text with a null character, which no system takes. -/
  | nullCharacter
  /-- Whether something stands at a path cannot be told. -/
  | undecided (fault : FileFault)

/-- The failure of a request that was not answered within a limit that is given as a value. -/
def Failure.ofLimit (method : String) : Json → Failure
  | .float x => .timeout method x
  | .bool b => .timeout method (if b then 1.0 else 0.0)
  | .int n =>
    match Decimal.double? n with
    | some x => .timeout method x
    | none => .tooLarge
  | .str _ => .notSeconds
  | _ => .wrongType

/-- The message when the text of a request error is missing. -/
def unknownError : String := "Unknown error"

/-- The failure in words; none for failures that carry no text. -/
def Failure.message? : Failure → Option String
  | .never reason _ => some reason
  | .request method code message _ =>
    some (method ++ " failed (" ++ code.display ++ "): " ++ message)
  | .timeout method seconds =>
    some (method ++ " timed out after " ++ Decimal.brief seconds ++ " s")
  | .lost cause => some cause.message
  | .closed => some "LSP session was shut down"
  | .stream fault => some fault.text
  | .range fault => some fault.message
  | .outside => none
  | .wrongType => none
  | .notNumber => some "cannot convert float NaN to integer"
  | .endless => some "cannot convert float infinity to integer"
  | .config fault => some fault.message
  | .launch program fault =>
    some ("Cannot start language server " ++ Text.Literal.text program ++ ": " ++
      fault.describe program)
  | .undecodable fault => some fault.message
  | .digits count => some (Decimal.tooManyDigits count)
  | .unwritable => some Decimal.unwritable
  | .tooLarge => some "int too large to convert to float"
  | .notSeconds => some "Unknown format code 'g' for object of type 'str'"
  | .nullCharacter => some FileFault.nullCharacter.reason
  | .undecided _ => none

/-- The failure in words; empty for failures that carry no text. -/
def Failure.message (f : Failure) : String :=
  f.message?.getD ""

/-- Fails unless `condition` holds: a check of what the program takes for granted. -/
def require (condition : Bool) (reason : String) (env : Members) : Except Failure Unit :=
  if condition then .ok ()
  else .error (.never (if reason.isEmpty then "never() marker reached" else reason) env)

end ProbeBench
