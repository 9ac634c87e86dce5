import ProbeBench.Frame.Encoding
import ProbeBench.Server
import ProbeBench.Words.Backend

/-!
# Servers that follow a script

A script gives, for each method, the replies to the requests of that method, one after the other;
the last one is used for all that follow. A reply may break the client's stream, send messages and
raw text before the response, and end the stream behind it. Methods without replies share those
under the star, and without these they are answered with `null`. The word server can also stand
behind the stream; it reacts to every message and answers requests.
-/

namespace ProbeBench

/-- How one request is answered. -/
structure Reply where
  delay : Float := 0.0
  breaks : Option StreamFault := none
  /-- Messages in front of the response. -/
  before : List Members := []
  /-- Text in front of the response. -/
  raw : Option String := none
  /-- The members of the response beside its id. -/
  response : Members := []
  ends : Bool := false

/-- The replies to each method; none as a reply is no answer at all. -/
abbrev Script := List (String × List (Option Reply))

namespace Reply

/-- Whether the reply holds a response. -/
def responds (r : Reply) : Bool :=
  !r.response.isEmpty || (r.raw.isNone && !r.ends && r.breaks.isNone)

/-- What reaches the client when the request `id` is answered with the reply. -/
def delivery (r : Reply) (id : Json) : Delivery :=
  let response : Members := [("jsonrpc", .str "2.0"), ("id", id)] ++ r.response
  { delay := r.delay
    breaks := r.breaks
    octets :=
      r.before.flatMap Frame.encode ++ Text.Utf8.encode ((r.raw.map String.toList).getD []) ++
        (if r.responds then Frame.encode response else [])
    ends := r.ends }

/-- The reply to methods that the script does not name. -/
def default : Reply := { response := [("result", .null)] }

end Reply

/-- The reply that the next request finds among replies, and the replies after it. -/
def nextReply : List (Option Reply) → Option Reply × List (Option Reply)
  | [] => (some .default, [])
  | [r] => (r, [r])
  | r :: rest => (r, rest)

/-- The method and the id of a request. -/
def requestOf? (message : Members) : Option (String × Json) :=
  match message.get? "method", message.get? "id" with
  | some (.str method), some id => some (method, id)
  | _, _ => none

namespace Server

/-- The server that follows a script; its state is what is left of the script. -/
def scripted : Server Script where
  hear script _ message :=
    match requestOf? message with
    | none => { state := script }
    | some (method, id) =>
      let name := if script.any (·.1 = method) then method else "*"
      let replies := ((script.find? (·.1 = name)).map (·.2)).getD []
      let (reply, rest) := nextReply replies
      { state := script.map fun s => if s.1 = name then (name, rest) else s
        deliveries := (reply.map (·.delivery id)).toList }

/-- The word server behind a stream. -/
def words : Server Words.Backend where
  hear backend _ message :=
    let (backend, members) := backend.answer message
    match requestOf? message with
    | none => { state := backend }
    | some (_, id) =>
      { state := backend, deliveries := [({ response := members } : Reply).delivery id] }

/-- Either of two servers. -/
def either {σ τ : Type} (a : Server σ) (b : Server τ) : Server (σ ⊕ τ) where
  hear state now message :=
    match state with
    | .inl s => (a.hear s now message).map .inl
    | .inr t => (b.hear t now message).map .inr
  goOn state now :=
    match state with
    | .inl s => (a.goOn s now).map .inl
    | .inr t => (b.goOn t now).map .inr

end Server

end ProbeBench
