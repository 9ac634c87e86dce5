import ProbeBench.Frame.Header

/-!
# Writing frames

The frame of a message: the length of its body in octets, an empty line, the body.
-/

namespace ProbeBench.Frame

/-- The body of a message. -/
def body (message : Members) : List UInt8 :=
  Text.Utf8.encode (Json.obj message).text

/-- The header for a body of `length` octets, with the empty line. -/
def header (length : Nat) : List Char :=
  "Content-Length: ".toList ++ Decimal.digitsOf length ++ ['\r', '\n', '\r', '\n']

/-- A frame as text. -/
def text (message : Members) : List Char :=
  header (body message).length ++ (Json.obj message).text

/-- The octets of a frame around any body. -/
def enclose (body : List UInt8) : List UInt8 :=
  Text.Utf8.encode (header body.length) ++ body

/-- The octets of the frame of a message. -/
def encode (message : Members) : List UInt8 :=
  enclose (body message)

end ProbeBench.Frame
