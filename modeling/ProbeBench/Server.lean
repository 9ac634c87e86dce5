import ProbeBench.Failure

/-!
# Servers

What a session talks to. A server has a state and takes turns: one for every message that the client
writes, and others at times of its own choice. In a turn it may send something: octets, and perhaps
the end or the failure of the stream, or the loss of the stream in the other direction.
-/

namespace ProbeBench

/-- What reaches the client `delay` seconds after the turn in which it was sent. -/
structure Delivery where
  delay : Float := 0.0
  /-- What every later write of the client meets. -/
  breaks : Option StreamFault := none
  octets : List UInt8 := []
  /-- The stream to the client ends. -/
  ends : Bool := false
  /-- What the next read of the client meets. -/
  fails : Option StreamFault := none

/-- What a server does at one time. -/
structure Turn (σ : Type) where
  state : σ
  deliveries : List Delivery := []
  /-- The time at which it goes on by itself, in the place of one that was named before. -/
  wake : Option Float := none

/-- The same turn with its state seen in another way. -/
def Turn.map {σ τ : Type} (f : σ → τ) (t : Turn σ) : Turn τ := { t with state := f t.state }

/-- A server with states in `σ`. -/
structure Server (σ : Type) where
  /-- Its turn when it hears a message of the client at a time. -/
  hear : σ → Float → Members → Turn σ
  /-- Its turn when it goes on by itself at a time. -/
  goOn : σ → Float → Turn σ := fun s _ => { state := s }

/-- The server that never does anything. -/
def Server.silent : Server Unit where
  hear s _ _ := { state := s }

end ProbeBench
