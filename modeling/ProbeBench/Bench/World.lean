import ProbeBench.Bench.Seconds
import ProbeBench.Session.Loop

/-!
# Runs

What a benchmark does is a `Run`: it changes the `World` and gives a value, or stops with a failure
or because it would wait for ever. The world holds the session with the server behind it, the
readings of the clock still to come, and what the benchmark remembers and leaves behind.

* `perform` makes a call on the session, and `close` ends it; there is no other way to the server.
* `attempt` goes on with whatever a run ends with.
* `run_bind_ok`, `run_bind_error`, `run_attempt`: what these do to the world.
-/

namespace ProbeBench

/-- Why a run stops early. -/
inductive Stop where
  | failed (failure : Failure)
  /-- It waits for what can never come. -/
  | hung

/-- Where the edit of a document stands. -/
inductive Phase where
  /-- The server has the document's own text. -/
  | idle
  /-- The server has the text of a probe. -/
  | edited
  | awaiting
  /-- The document's own text is being sent again. -/
  | reverting
  deriving DecidableEq, Repr, Inhabited

/-- The name of a phase. -/
def Phase.name : Phase → String
  | .idle => "idle"
  | .edited => "edited"
  | .awaiting => "awaiting-response"
  | .reverting => "reverting"

/-- The version of a document that was never changed. -/
def firstVersion : Int := 1

/-- Everything that a run changes. -/
structure World (σ : Type) where
  loop : Loop σ
  /-- The readings of the clock still to come; the last one stays. -/
  clock : List Seconds := []
  phase : Phase := .idle
  /-- Whether warnings of the benchmark are kept, among those of the session. -/
  warns : Bool := true
  /-- The versions of the documents that were changed, by their numbers. -/
  versions : List (Nat × Int) := []
  /-- The measurements, in the order in which they were taken. -/
  measured : List Measurement := []
  /-- The lines of the report. -/
  printed : List String := []
  /-- The commands that were started. -/
  commands : List (List String) := []
  /-- The server's program has been ended. -/
  stopped : Bool := false

/-- The version of a document. -/
def World.version {σ : Type} (w : World σ) (number : Nat) : Int :=
  ((w.versions.find? fun v => v.1 = number).map (·.2)).getD firstVersion

/-- Sets the version of a document. -/
def World.setVersion {σ : Type} (w : World σ) (number : Nat) (version : Int) : World σ :=
  { w with versions := (number, version) :: w.versions.filter (·.1 ≠ number) }

/-- A part of a benchmark. -/
def Run (σ α : Type) := World σ → Except Stop α × World σ

namespace Run

variable {σ α β : Type}

instance : Monad (Run σ) where
  pure a := fun w => (.ok a, w)
  bind x f := fun w =>
    match x w with
    | (.ok a, w) => f a w
    | (.error e, w) => (.error e, w)

/-- Ends the run. -/
def stop (e : Stop) : Run σ α := fun w => (.error e, w)

/-- Ends the run with a failure. -/
def fail (f : Failure) : Run σ α := stop (.failed f)

/-- Goes on with a result. -/
def lift : Except Failure α → Run σ α
  | .ok a => pure a
  | .error f => fail f

/-- What a part of the run ends with. -/
def attempt (x : Run σ α) : Run σ (Except Stop α) := fun w =>
  let r := x w
  (.ok r.1, r.2)

/-- Goes on with what a part ended with. -/
def resume : Except Stop α → Run σ α
  | .ok a => pure a
  | .error e => stop e

/-- What the world shows. -/
def read (f : World σ → α) : Run σ α := fun w => (.ok (f w), w)

/-- Changes the world. -/
def change (f : World σ → World σ) : Run σ Unit := fun w => (.ok (), f w)

/-- What a run makes of the end of a call. -/
def ofOutcome : Option Outcome → Except Stop Json
  | some (.ok v) => .ok v
  | some (.error f) => .error (.failed f)
  | none => .error .hung

/-- Makes a call on the session and waits for its end. -/
def perform (serve : Server σ) (c : Call) : Run σ Json := fun w =>
  let r := w.loop.perform serve c
  (ofOutcome r.2, { w with loop := r.1 })

/-- Closes the session. -/
def close (serve : Server σ) : Run σ Json := fun w =>
  let r := w.loop.close serve
  (ofOutcome r.2, { w with loop := r.1 })

/-- Sends a notification. -/
def notify (serve : Server σ) (method : String) (params : Json) : Run σ Unit := do
  let _ ← perform serve (.notify method params)
  return ()

/-- Keeps a warning. -/
def warn (text : String) : Run σ Unit :=
  change fun w =>
    if w.warns then { w with loop.session.warnings := w.loop.session.warnings ++ [text] } else w

/-- Reads the clock. -/
def now : Run σ Seconds := fun w =>
  match w.clock with
  | [] => (.ok (.real 0.0), w)
  | [t] => (.ok t, w)
  | t :: rest => (.ok t, { w with clock := rest })

/-- Enters a phase. -/
def enter (phase : Phase) : Run σ Unit :=
  change fun w => { w with phase }

@[simp] theorem run_pure (a : α) (w : World σ) : (pure a : Run σ α) w = (.ok a, w) := rfl

@[simp] theorem run_bind_ok {x : Run σ α} {f : α → Run σ β} {w v : World σ} {a : α}
    (h : x w = (.ok a, v)) : (x >>= f) w = f a v := by
  show (match x w with | (.ok a, w) => f a w | (.error e, w) => (.error e, w)) = _
  rw [h]

@[simp] theorem run_bind_error {x : Run σ α} {f : α → Run σ β} {w v : World σ} {e : Stop}
    (h : x w = (.error e, v)) : (x >>= f) w = (.error e, v) := by
  show (match x w with | (.ok a, w) => f a w | (.error e, w) => (.error e, w)) = _
  rw [h]

/-- What is made of the value a run gives changes neither how it stops nor what it leaves. -/
theorem run_bind_pure {x : Run σ α} {r : Except Stop α} {w v : World σ} (h : x w = (r, v))
    (f : α → β) : (x >>= fun a => pure (f a)) w = (r.map f, v) := by
  cases r with
  | ok a => rw [run_bind_ok h]; rfl
  | error e => rw [run_bind_error h]; rfl

@[simp] theorem run_attempt (x : Run σ α) (w : World σ) :
    attempt x w = (.ok (x w).1, (x w).2) := rfl

@[simp] theorem run_stop (e : Stop) (w : World σ) : (stop e : Run σ α) w = (.error e, w) := rfl

end Run

end ProbeBench
