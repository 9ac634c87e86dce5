import ProbeBench.Failure
import ProbeBench.Frame.Decoder

/-!
# Transport

The two streams to a server. The `Wire` takes messages out: it records every frame written until it
is closed or broken. The `Inbox` holds the octets that arrived, and what comes after them: nothing
yet, the end of the stream, or a fault. A `Transport` has both and the decoder between them; `pull`
takes everything out of the inbox, in chunks of at most `chunk` octets, and says in `Status` why it
stopped.
-/

namespace ProbeBench

/-- Why a message could not be written. -/
inductive WriteFault where
  | lost (cause : Loss)
  | stream (fault : StreamFault)
  deriving DecidableEq, Repr

/-- The failure of a call that could not write. -/
def WriteFault.failure : WriteFault → Failure
  | .lost cause => .lost cause
  | .stream fault => .stream fault

/-- The stream to the server. -/
structure Wire where
  /-- The messages written, in order. -/
  sent : List Members := []
  /-- What every write meets, once the stream is broken. -/
  broken : Option StreamFault := none
  /-- What closing meets. -/
  closeFault : Option StreamFault := none
  closed : Bool := false
  /-- How many times the stream was released. -/
  releases : Nat := 0

namespace Wire

/-- Writes a message. -/
def send (w : Wire) (message : Members) : Except WriteFault Wire :=
  if w.closed then .error (.lost .transportClosed)
  else
    match w.broken with
    | some fault =>
      if fault.isGone then .error (.lost (.writeFailed fault.text)) else .error (.stream fault)
    | none => .ok { w with sent := w.sent ++ [message] }

/-- Closes the stream, once. That the other end is gone is no fault then. -/
def close (w : Wire) : Wire × Option StreamFault :=
  if w.closed then (w, none)
  else ({ w with closed := true, releases := w.releases + 1 }, w.closeFault.filter (!·.isGone))

theorem closed_close (w : Wire) : w.close.1.closed = true := by
  unfold close
  split
  · assumption
  · rfl

theorem sent_close (w : Wire) : w.close.1.sent = w.sent := by
  unfold close
  split <;> rfl

end Wire

/-- Why reading stopped. -/
inductive Status where
  /-- More may arrive. -/
  | waiting
  /-- The stream has ended. -/
  | ended
  | failed (fault : StreamFault)
  deriving DecidableEq, Repr

/-- The stream from the server. -/
structure Inbox where
  /-- The octets that arrived and were not read. -/
  octets : List UInt8 := []
  ended : Bool := false
  fault : Option StreamFault := none

/-- The streams to and from a server. -/
structure Transport where
  wire : Wire := {}
  inbox : Inbox := {}
  decoder : Frame.Decoder := []
  /-- The most octets read at once; without a limit reading waits for the end. -/
  chunk : Option Nat := some 65536

namespace Transport

/-- Adds octets to the inbox, unless the stream has ended. -/
def arrive (t : Transport) (octets : List UInt8) : Transport :=
  if t.inbox.ended then t else { t with inbox.octets := t.inbox.octets ++ octets }

/-- Ends the stream from the server. -/
def finish (t : Transport) : Transport := { t with inbox.ended := true }

/-- Makes the next read fail. -/
def fail (t : Transport) (fault : StreamFault) : Transport := { t with inbox.fault := some fault }

/-- Feeds octets to the decoder in pieces of `size + 1`. -/
def decodeChunks (size : Nat) (decoder : Frame.Decoder) (octets : List UInt8) :
    List Frame.Item × Frame.Decoder :=
  match octets with
  | [] => ([], decoder)
  | b :: rest =>
    let r := Frame.Decoder.feed decoder (b :: rest.take size)
    let s := decodeChunks size r.2 (rest.drop size)
    (r.1 ++ s.1, s.2)
termination_by octets.length
decreasing_by
  simp only [List.length_cons, List.length_drop]
  omega

/-- The fault of a stream that ends with octets left over. -/
def leftOver (decoder : Frame.Decoder) : List Frame.Item :=
  if decoder.isEmpty then [] else [.fault (.truncated decoder.length)]

/-- Everything that can be read now, with the reason why reading stopped. -/
def pull (t : Transport) : List Frame.Item × Transport × Status :=
  match t.inbox.fault with
  | some fault => ([], t, .failed fault)
  | none =>
    match t.chunk with
    | some 0 => (leftOver t.decoder, t, .ended)
    | some (size + 1) =>
      let r := decodeChunks size t.decoder t.inbox.octets
      let t := { t with inbox.octets := [], decoder := r.2 }
      if t.inbox.ended then (r.1 ++ leftOver r.2, t, .ended) else (r.1, t, .waiting)
    | none =>
      if t.inbox.ended then
        let r := Frame.Decoder.feed t.decoder t.inbox.octets
        (r.1 ++ leftOver r.2, { t with inbox.octets := [], decoder := r.2 }, .ended)
      else ([], t, .waiting)

end Transport

end ProbeBench
