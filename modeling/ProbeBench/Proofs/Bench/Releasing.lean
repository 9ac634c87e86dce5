import ProbeBench.Proofs.Bench.Aborting

/-!
# What a run releases

A run that has made its handshake releases the stream when it ends, in whatever way it ends: with
its shutdown, or by closing the session behind a failure. It does so once, and nothing is pending
then.
The exception is a session that has ended by itself, because the server's output has ended or could
not be read: it counts as closed, so nobody closes it, and its stream stays open.

* `Benchmark.Leaves`: what a run leaves of its session.
* `measureAll_released`: probing all files and shutting the server down.
* `closing_leaves`: closing the session if it is open.
* `run_leaves`: the result, and `not_released_when_lost`: a run that releases nothing.
-/

namespace ProbeBench

/-- The stream is open and has never been released; nothing is pending. -/
structure Session.Adrift (s : Session) : Prop where
  open_ : s.transport.wire.closed = false
  never : s.transport.wire.releases = 0
  empty : s.pending = []

namespace Session.Tidy

variable {s : Session}

theorem adrift (h : s.Tidy) (open_ : s.transport.wire.closed = false) (ended : s.ending ≠ none) :
    s.Adrift := by
  refine ⟨open_, ?_, h.sound.ended ended⟩
  rw [h.once, open_]
  rfl

/-- What was closed has been released once. -/
theorem released_once (h : s.Tidy) (closed : s.transport.wire.closed = true) :
    s.transport.wire.releases = 1 := by
  rw [h.once, closed]
  rfl

end Session.Tidy

namespace Run

variable {σ α β : Type} {w v : World σ}

/-- A part that does not stop has done both of its halves. -/
theorem bind_eq_ok {x : Run σ α} {f : α → Run σ β} {b : β} (h : (x >>= f) w = (.ok b, v)) :
    ∃ a u, x w = (.ok a, u) ∧ f a u = (.ok b, v) := by
  cases hx : x w with
  | mk r u =>
    cases r with
    | ok a => exact ⟨a, u, rfl, by rw [← h, run_bind_ok hx]⟩
    | error e =>
      rw [run_bind_error hx] at h
      cases h

theorem lift_eq_ok {x : Except Failure α} {a : α} (h : lift x w = (.ok a, v)) :
    x = .ok a ∧ w = v := by
  cases x with
  | ok b =>
    cases h
    exact ⟨rfl, rfl⟩
  | error f => cases h

/-- A call that has ended without a failure. -/
theorem perform_eq_ok {serve : Server σ} {call : Call} {value : Json}
    (h : perform serve call w = (.ok value, v)) :
    v = { w with loop := v.loop } ∧ w.loop.perform serve call = (v.loop, some (.ok value)) := by
  unfold perform at h
  simp only [Prod.mk.injEq] at h
  obtain ⟨ended, rfl⟩ := h
  refine ⟨rfl, Prod.ext rfl ?_⟩
  cases hr : (w.loop.perform serve call).2 with
  | none =>
    rw [hr] at ended
    cases ended
  | some o =>
    rw [hr] at ended
    cases o with
    | ok other =>
      cases ended
      rfl
    | error f => cases ended

end Run

namespace Benchmark

variable {σ : Type} {serve : Server σ} {host : Host σ} {s : Surroundings} {c : Config}
  {w v : World σ}

/-- What a run does until it has made its handshake; the reading of the clock at its start. -/
def opening (host : Host σ) (s : Surroundings) (c : Config) : Run σ Seconds := do
  let _ ← Run.lift (readSources s c.files)
  Run.warn ("Starting command: " ++ " ".intercalate c.command)
  let started ← Run.now
  launch host c.command
  connect host.serve s c
  return started

/-- It can be told how long the handshake has taken. -/
def Timed (started : Seconds) (w : World σ) : Prop :=
  ∃ ready ms, (Run.now w).1 = .ok ready ∧
    (ready.since started).bind (·.milliseconds.round) = .ok ms ∧ Decimal.isWritable ms = true

/-- What a run leaves of its session, which was `greeted` when its handshake was made. -/
inductive Leaves (timed : Prop) (greeted : Session) : Except Stop Nat → Session → Prop
  /-- Everything has been released, once. -/
  | released {r : Except Stop Nat} {s : Session} (released : s.Released)
      (once : s.transport.wire.releases = 1) : Leaves timed greeted r s
  /-- The run has failed, and its session had ended by itself. -/
  | deserted {e : Stop} {s : Session} (ended : s.ending ≠ none) (adrift : s.Adrift) :
      Leaves timed greeted (.error e) s
  /-- The run has failed behind its handshake, because of its own clock. -/
  | untimed {f : Failure} (untold : ¬ timed) : Leaves timed greeted (.error (.failed f)) greeted

/-! ## The end of a run -/

/-- **Probing all files and shutting the server down** has released everything if it has not
failed. -/
theorem measureAll_released (h : w.loop.Tidy) {sources : List (Path × String)} {n : Nat}
    (measured : measureAll serve s c sources w = (.ok n, v)) : v.loop.session.Released := by
  obtain ⟨n', u, files, rest⟩ := Run.bind_eq_ok measured
  obtain ⟨value, u', shut, rest⟩ := Run.bind_eq_ok rest
  cases rest
  obtain ⟨-, performed⟩ := Run.perform_eq_ok shut
  have tidy := ((measureFiles_growing serve s.cwd c 0 sources).grows files).tidy h
  exact Loop.perform_shutdown_released tidy performed rfl

/-- **Closing the session if it is open**, behind whatever has happened. -/
theorem closing_leaves (h : w.loop.Tidy) (r : Except Stop Nat)
    (released : ∀ n, r = .ok n → w.loop.session.Released) (timed : Prop) (greeted : Session) :
    let x := (closeIfOpen serve >>= fun _ => Run.resume r) w
    Leaves timed greeted x.1 x.2.loop.session := by
  intro x
  have looked : Run.read (·.loop.session.closed) w = (.ok w.loop.session.closed, w) := rfl
  cases past : w.loop.session.closed with
  | true =>
    rw [past] at looked
    have passed : closeIfOpen serve w = (.ok (), w) := by
      rw [closeIfOpen, Run.run_bind_ok looked]
      rfl
    have ended : w.loop.session.ending ≠ none := Option.isSome_iff_ne_none.mp past
    have resumed : x = (r, w) := by
      show (closeIfOpen serve >>= fun _ => Run.resume r) w = _
      rw [Run.run_bind_ok passed]
      cases r <;> rfl
    rw [resumed]
    cases closed : w.loop.session.transport.wire.closed with
    | true => exact .released (h.session.released closed) (h.session.released_once closed)
    | false =>
      cases r with
      | ok n =>
        rw [(released n rfl).closed] at closed
        cases closed
      | error e =>
        exact .deserted ended (h.session.adrift closed ended)
  | false =>
    rw [past] at looked
    have tidy : (w.loop.abandon 0).Tidy := Loop.abandon_tidy h 0
    have closes : closeIfOpen serve w = closeSession serve w := by
      rw [closeIfOpen, Run.run_bind_ok looked]
      rfl
    have left : x.2.loop = ((w.loop.abandon 0).close serve).1 := by
      obtain ⟨r', closed⟩ := closeSession_loop serve w
      show ((closeIfOpen serve >>= fun _ => Run.resume r) w).2.loop = _
      cases r' with
      | ok _ =>
        rw [Run.run_bind_ok (closes.trans closed)]
        cases r <;> rfl
      | error e => rw [Run.run_bind_error (closes.trans closed)]
    rw [left]
    have all := Loop.close_released serve tidy
    exact .released all ((Loop.close_tidy serve tidy).session.released_once all.closed)

/-- **What a run leaves of its session**, behind a handshake that was made. -/
theorem withServer_leaves (tidy : w.loop.Tidy) (connected : connect serve s c w = (.ok (), v))
    (started : Seconds) (sources : List (Path × String)) :
    Leaves (Timed started v) v.loop.session (withServer serve s c started sources w).1
      (withServer serve s c started sources w).2.loop.session := by
  have greeted : v.loop.Tidy := ((connect_growing serve s c).grows connected).tidy tidy
  obtain ⟨ready, clock, now⟩ := Probing.now_reads v
  rw [withServer, Run.run_bind_ok connected, Run.run_bind_ok now]
  cases told : (ready.since started).bind (·.milliseconds.round) with
  | error f =>
    refine .untimed ?_
    rintro ⟨ready', ms, now', told', -⟩
    rw [now] at now'
    cases now'
    rw [told] at told'
    cases told'
  | ok ms =>
    have lifted : Run.lift (Except.ok ms : Except Failure Int) { v with clock } =
      (.ok ms, { v with clock }) := rfl
    rw [Run.run_bind_ok lifted]
    cases writable : Decimal.isWritable ms with
    | false =>
      refine .untimed ?_
      rintro ⟨ready', ms', now', told', writable'⟩
      rw [now] at now'
      cases now'
      rw [told] at told'
      cases told'
      rw [writable] at writable'
      cases writable'
    | true =>
      have lifted : Run.lift (if true = true then .ok () else .error .unwritable) { v with clock } =
        (.ok (), { v with clock }) := rfl
      obtain ⟨warnings, warned⟩ := Probing.warn_keeps
        ("Now listening (took " ++ toString ms ++ " ms)") { v with clock }
      rw [Run.run_bind_ok lifted, Run.run_bind_ok warned, Run.run_bind_ok (Run.run_attempt _ _)]
      let u : World σ := { v with clock, loop.session.warnings := warnings }
      have listening : u.loop.Tidy := (World.Grows.noted v clock warnings).tidy greeted
      have grown := ((measureAll_growing serve s c sources) u).tidy listening
      refine closing_leaves grown _ (fun n ok => ?_) _ _
      exact measureAll_released listening (Prod.ext ok rfl)

/-- A run that has not begun has left its session tidy. -/
theorem tidy_beginning (state : σ) (clock : List Seconds) (warns : Bool) :
    (beginning state clock warns).loop.Tidy := by
  refine ⟨⟨?_, ?_, ?_⟩, rfl, ⟨⟨nofun, fun past => absurd rfl past, ?_, ?_⟩, ?_, nofun, rfl⟩⟩
  · exact fun _ hr => absurd hr List.not_mem_nil
  · exact fun _ hr => absurd hr List.not_mem_nil
  · exact fun _ ht => absurd ht (Array.not_mem_empty _)
  · exact fun _ he => absurd he List.not_mem_nil
  · exact fun _ ho => absurd ho List.not_mem_nil
  · exact fun _ _ there => absurd there List.not_mem_nil

/-- Starting the program leaves the session as it is. -/
theorem launched_tidy (tidy : w.loop.Tidy) {command : List String}
    (launched : launch host command w = (.ok (), v)) : v.loop.Tidy := by
  rw [launch_eq] at launched
  split at launched
  · cases launched
    exact ⟨⟨tidy.alone.current, tidy.alone.next, tidy.alone.schedule⟩, tidy.unended, tidy.session⟩
  · cases launched

/-- **A run that has made its handshake releases the stream once**, whatever the configuration, the
files and the server, and whatever it ends with; nothing is pending then. It leaves the stream open
where its session has ended by itself, which counts as closed, and where its clock fails it before
the first file. -/
theorem run_leaves (tidy : w.loop.Tidy) {started : Seconds}
    (opened : opening host s c w = (.ok started, v)) :
    Leaves (Timed started v) v.loop.session (run host s c w).1
      (run host s c w).2.loop.session := by
  obtain ⟨sources, _, lifted, rest⟩ := Run.bind_eq_ok opened
  obtain ⟨-, rfl⟩ := Run.lift_eq_ok lifted
  obtain ⟨warnings, warned⟩ := Probing.warn_keeps
    ("Starting command: " ++ " ".intercalate c.command) w
  rw [Run.run_bind_ok warned] at rest
  obtain ⟨t, clock, now⟩ := Probing.now_reads { w with loop.session.warnings := warnings }
  rw [Run.run_bind_ok now] at rest
  obtain ⟨_, u, launched, rest⟩ := Run.bind_eq_ok rest
  obtain ⟨_, _, connected, rest⟩ := Run.bind_eq_ok rest
  cases rest
  have noted : ({ w.loop with session.warnings := warnings } : Loop σ).Tidy :=
    (World.Grows.noted w clock warnings).tidy tidy
  have left := withServer_leaves (launched_tidy noted launched) connected started sources
  have ran : run host s c w =
      ((withServer host.serve s c started sources u).1,
        { (withServer host.serve s c started sources u).2 with stopped := true }) := by
    rw [run, Run.run_bind_ok lifted, Run.run_bind_ok warned, Run.run_bind_ok now,
      Run.run_bind_ok launched, Run.run_bind_ok (Run.run_attempt _ _)]
    cases (withServer host.serve s c started sources u).1 <;> rfl
  rw [ran]
  exact left

/-- A file with two words is probed behind a server that answers the handshake and the first of
them only; the failure ends the run. -/
theorem run_leaves_refused :
    let host : Host Nat := ⟨refusing, fun n _ => .ok n⟩
    let files : FileTree := [(["file"], .file [111, 110, 101, 32, 116, 119, 111] false 0)]
    let s : Surroundings := ⟨files, ⟨"/", []⟩, 1⟩
    let c : Config :=
      ⟨[⟨"/", ["file"]⟩], [], .definition, "text", [], .human, some 5.0, .abort, false⟩
    let w := beginning 0 [] true
    w.loop.Tidy ∧
      (∃ started v, opening host s c w = (.ok started, v) ∧
        Leaves (Timed started v) v.loop.session (run host s c w).1
          (run host s c w).2.loop.session) ∧
      (run host s c w).1.isOk = false ∧
      (run host s c w).2.loop.session.transport.wire.closed = true := by
  intro host files s c w
  have tidy : w.loop.Tidy := tidy_beginning 0 [] true
  have opens : (opening host s c w).1.isOk = true := by decide +kernel
  have fails : (run host s c w).1.isOk = false := by decide +kernel
  have closed : (run host s c w).2.loop.session.transport.wire.closed = true := by decide +kernel
  -- from here on nothing is to be computed
  clear_value host s c w
  refine ⟨tidy, ?_, fails, closed⟩
  cases opened : opening host s c w with
  | mk r v =>
    rw [opened] at opens
    cases r with
    | error e => cases opens
    | ok started => exact ⟨started, v, rfl, run_leaves tidy opened⟩

/-- A server that answers its first request and ends its output at the next one. -/
def deserting : Server Nat where
  hear n _ message :=
    match message.get? "id" with
    | some id =>
      let answer : Members := [("jsonrpc", .str "2.0"), ("id", id), ("result", .obj [])]
      { state := n + 1
        deliveries := [if n = 0 then { octets := Frame.encode answer } else { ends := true }] }
    | none => { state := n }

/-- **A run whose connection is lost releases nothing**: here the server ends its output instead of
answering the first probe of a file. -/
theorem not_released_when_lost :
    ¬ ∀ (host : Host Nat) (s : Surroundings) (c : Config) (w : World Nat), w.loop.Tidy →
      (opening host s c w).1.isOk = true →
        (run host s c w).2.loop.session.transport.wire.closed = true ∧
          (run host s c w).2.loop.session.transport.wire.releases = 1 ∧
            (run host s c w).2.loop.session.pending = [] := by
  intro releases
  let host : Host Nat := ⟨deserting, fun n _ => .ok n⟩
  let files : FileTree := [(["file"], .file [111, 110, 101, 32, 116, 119, 111] false 0)]
  let s : Surroundings := ⟨files, ⟨"/", []⟩, 1⟩
  let c : Config :=
    ⟨[⟨"/", ["file"]⟩], [], .definition, "text", [], .human, some 5.0, .skip, false⟩
  let w : World Nat := beginning 0 [] true
  have opens : (opening host s c w).1.isOk = true := by decide +kernel
  have open_ : (run host s c w).2.loop.session.transport.wire.closed = false := by decide +kernel
  have tidy : w.loop.Tidy := tidy_beginning 0 [] true
  clear_value host s c w
  have closed := (releases host s c w tidy opens).1
  rw [open_] at closed
  cases closed

end Benchmark

end ProbeBench
