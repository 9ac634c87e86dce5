import ProbeBench.Proofs.Loop.Course
import ProbeBench.Proofs.Loop.Solo
import ProbeBench.Proofs.Session.Response

/-!
# Every request gets its own answer

While a call waits for its request, messages arrive (`arrivals`): answers of earlier requests that
come late, answers that come twice or were never asked for, and requests and notifications of the
server. The first one that bears the id of the request decides what the call ends with. If there is
none, its time was over before one came (`Replies`).

* `tick_turned`: what a turn does to the requests, by what the reader takes in.
* `tick_unanswered`, `tick_due`: from turn to turn a call waits for its answer, or comes to its end.
* `perform_answers`: the result.
-/

namespace ProbeBench

/-- What a request ends with: with what the first message says that bears its id among those that
arrived while it was pending, or, if there was none, because its time was over. -/
def Replies (id : Nat) (method : String) (seconds : Option Float) (arrived : List Members)
    (answer : Outcome) : Prop :=
  match arrived.find? (bearsId id) with
  | some response => answer = responseOutcome method response
  | none => ∃ x, seconds = some x ∧ answer = .error (.timeout method x)

theorem Replies.append {id : Nat} {method : String} {seconds : Option Float}
    {arrived later : List Members} {answer : Outcome}
    (nothing : arrived.find? (bearsId id) = none) (h : Replies id method seconds later answer) :
    Replies id method seconds (arrived ++ later) answer := by
  rw [Replies, List.find?_append, nothing, Option.none_or]
  exact h

theorem Session.SameButWakes.table {s s' : Session} (h : s.SameButWakes s') :
    SameTable s s' := by
  have e : { s' with wakes := [] } = { s with wakes := [] } := h
  have ending := congrArg Session.ending e
  have pending := congrArg Session.pending e
  have outcomes := congrArg Session.outcomes e
  have closed := congrArg (·.transport.wire.closed) e
  exact ⟨ending, pending, outcomes, h.nextId, closed⟩

namespace Loop

variable {σ : Type} {serve : Server σ} {told : List Members} {limit : Option Limit} {l l' : Loop σ}
  {id : Nat} {method : String} {seconds : Option Float} {o : Outcome}

/-- The messages that the reader takes in with the next turn. -/
def intake (l : Loop σ) : List Members :=
  match l.current with
  | .read :: _ => l.session.intake
  | _ => []

/-- The messages that arrive as long as request `id` is pending, in at most `fuel` turns. -/
def arrivals (serve : Server σ) (id : Nat) : Nat → Loop σ → List Members
  | 0, _ => []
  | fuel + 1, l =>
    if l.session.awaits id then
      match l.tick? serve with
      | some next => l.intake ++ arrivals serve id fuel next
      | none =>
        match l.jump? with
        | some next => arrivals serve id fuel next
        | none => []
    else []

/-- The messages that arrive as long as the request is pending that a call makes. -/
def arrivedDuring (serve : Server σ) (l : Loop σ) (call : Call) : List Members :=
  let begun := l.record serve 0 (l.session.begin call)
  begun.arrivals serve l.session.nextId begun.budget

/-- Call 0 waits for its answer. -/
structure Unanswered (id : Nat) (method : String) (seconds : Option Float) (l : Loop σ) : Prop where
  stages : l.stages = [(0, .awaiting .answer id method seconds)]
  finished : l.finished = []
  waiting : l.session.Waiting id method

/-- Call 0 will end with `o`: its answer has come, its time is over, or it has ended. -/
inductive Due (id : Nat) (method : String) (seconds : Option Float) (o : Outcome) (l : Loop σ) :
    Prop
  | answered (stages : l.stages = [(0, .awaiting .answer id method seconds)])
      (finished : l.finished = []) (settled : l.session.Settled id o)
  | late {failure : Failure} (stages : l.stages = [(0, .expiring .answer id failure)])
      (finished : l.finished = []) (fails : o = .error failure)
  | ended (finished : l.finished = [(0, o)])

theorem Due.jump (h : l.Due id method seconds o) (hj : l.jump? = some l') :
    l'.Due id method seconds o := by
  have keeps := jump_keeps hj
  cases h with
  | answered hs hf settled =>
    exact .answered (keeps.stages.trans hs) (keeps.finished.trans hf)
      (settled.congr keeps.session.table)
  | late hs hf fails => exact .late (keeps.stages.trans hs) (keeps.finished.trans hf) fails
  | ended hf => exact .ended (keeps.finished.trans hf)

end Loop

end ProbeBench
