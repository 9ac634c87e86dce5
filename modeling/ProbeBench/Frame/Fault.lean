import ProbeBench.Json.Parser
import ProbeBench.Json.Printer
import ProbeBench.Text.Utf8

/-!
# Faults of frames

What can be wrong with the octets that arrive: a header that cannot be read or gives no usable
length, a header that does not end, a body that is no JSON object, a stream that ends inside a
frame. Each fault drops the frame it concerns and nothing else.
-/

namespace ProbeBench.Frame

/-- The most octets that may wait for the end of a header. -/
def maxHeader : Nat := 8192

/-- How many octets of a header line are shown. -/
def shownLine : Nat := 80

/-- How many octets of the value of a header field are shown. -/
def shownValue : Nat := 40

/-- What is wrong with a frame. -/
inductive Fault where
  /-- A header line without a colon, of which so much is shown. -/
  | malformedLine (shown : List UInt8)
  /-- A length that is no whole number, of which so much is shown. -/
  | unreadableLength (shown : List UInt8)
  /-- A length below one. -/
  | emptyLength (value : Int)
  /-- No header line gives the length. -/
  | missingLength
  /-- The header does not end; `dropped` octets were given up. -/
  | oversized (dropped : Nat)
  /-- The body is not UTF-8. -/
  | undecodable (fault : Text.Utf8.Fault)
  /-- The body is not JSON. -/
  | unparsable (fault : Json.Fault)
  /-- The body is a value of another kind than an object. -/
  | notObject (kind : String)
  /-- The stream ended inside a frame. -/
  | truncated (pending : Nat)
  deriving DecidableEq, Repr

/-- The fault in words. -/
def Fault.message : Fault → String
  | .malformedLine shown => "Malformed LSP header line: " ++ Text.Literal.octets shown
  | .unreadableLength shown => "Invalid LSP Content-Length: " ++ Text.Literal.octets shown
  | .emptyLength value => "Invalid LSP Content-Length: " ++ String.ofList (Json.intText value)
  | .missingLength => "Missing LSP Content-Length header"
  | .oversized dropped =>
    "LSP header exceeds " ++ toString maxHeader ++ " bytes; dropped " ++ toString dropped ++
      " bytes"
  | .undecodable fault => "Undecodable LSP message body: " ++ fault.message
  | .unparsable fault => "Undecodable LSP message body: " ++ fault.message
  | .notObject kind => "Invalid LSP message payload: " ++ kind
  | .truncated pending =>
    "LSP stream closed inside a frame (" ++ toString pending ++ " bytes pending)"

end ProbeBench.Frame
