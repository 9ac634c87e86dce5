import ProbeBench.Proofs.Bench.Account
import ProbeBench.Proofs.Probe.Spot

/-!
# A benchmark follows its script

On a world whose session is live, behind a server that keeps both streams up, every part of a
benchmark tells the server what the script says, and ends as the script says.

* `open_tells`, `replace_tells`, `close_tells`: what single messages do.
* `probe_asks`, `probe_tells`: what a probe does.
-/

namespace ProbeBench

variable {σ : Type} {serve : Server σ} {told : List Members} {seconds : Option Float} {w : World σ}

/-- The session of the world is live, no call is open on it, it has told so much of documents, and
requests wait so long. -/
structure World.At (told : List Members) (seconds : Option Float) (w : World σ) : Prop where
  loop : w.loop.At told (seconds.map .seconds)
  idle : w.loop.Idle

/-- Only the loop matters. -/
theorem World.At.of_loop {w' : World σ} (h : w.At told seconds) (same : w'.loop = w.loop) :
    w'.At told seconds :=
  ⟨same ▸ h.loop, same ▸ h.idle⟩

/-- Warnings do not matter. -/
theorem World.At.noted (h : w.At told seconds) (warnings : List String) :
    World.At told seconds { w with loop.session.warnings := warnings } :=
  ⟨⟨⟨h.loop.harmless.current, h.loop.harmless.next, h.loop.harmless.schedule⟩,
    h.loop.session.same rfl rfl rfl rfl rfl⟩, h.idle.stages, h.idle.finished, h.idle.released⟩

/-- Nothing has been measured or printed, and no document but one has got another version. -/
structure World.Spares (number : Nat) (w w' : World σ) : Prop where
  measured : w'.measured = w.measured
  printed : w'.printed = w.printed
  versions : ∀ k ≠ number, w'.version k = w.version k

theorem World.Spares.trans {number : Nat} {w v u : World σ} (h : w.Spares number v)
    (h' : v.Spares number u) : w.Spares number u :=
  ⟨h'.measured.trans h.measured, h'.printed.trans h.printed,
    fun k ne => (h'.versions k ne).trans (h.versions k ne)⟩

/-- Only what is measured and printed, and the versions, matter. -/
theorem World.Spares.congr {number : Nat} {w v u : World σ} (h : w.Spares number v)
    (measured : u.measured = v.measured) (printed : u.printed = v.printed)
    (versions : u.versions = v.versions) : w.Spares number u :=
  h.trans ⟨measured, printed, fun k _ => by rw [version, versions, version]⟩

theorem Run.lift_ok {α : Type} {x : Except Failure α} {a : α} (h : x = .ok a) (w : World σ) :
    Run.lift x w = (.ok a, w) := by
  rw [h]
  rfl

theorem Run.lift_error {α : Type} {x : Except Failure α} {f : Failure} (h : x = .error f)
    (w : World σ) : Run.lift x w = (.error (.failed f), w) := by
  rw [h]
  rfl

theorem didOpen_ok (uri language text : String) :
    Protocol.didOpen (.str uri) (.str language) (.int firstVersion) (.str text) =
      .ok (.obj [("textDocument", .obj [("uri", .str uri), ("languageId", .str language),
        ("version", .int firstVersion), ("text", .str text)])]) := rfl

theorem position_ok {line character : Nat} (hl : line ≤ 0x7fffffff)
    (hc : character ≤ 0x7fffffff) :
    Protocol.position (.int line) (.int character) =
      .ok (.obj [("line", .int line), ("character", .int character)]) := by
  have hl' : (line : Int) ≤ 2147483647 := by omega
  have hc' : (character : Int) ≤ 2147483647 := by omega
  simp [Protocol.position, Protocol.checkUnsigned, Protocol.checkInt, hl', hc', bind, Except.bind,
    pure, Except.pure]

namespace Document

/-- A document that was never changed is opened by one notification. -/
theorem open_eq (serve : Server σ) {d : Document} (fresh : w.version d.number = firstVersion) :
    d.open_ serve w = Run.notify serve "textDocument/didOpen" (.obj [("textDocument",
      .obj [("uri", .str d.uri), ("languageId", .str d.language), ("version", .int firstVersion),
        ("text", .str d.text)])]) w := by
  have version : Run.read (fun w : World σ => w.version d.number) w = (.ok firstVersion, w) := by
    rw [Run.read, fresh]
  have allowed : require (firstVersion = firstVersion) "document opened twice"
      [("uri", .str d.uri)] = .ok () := by
    simp [require]
  rw [open_, Run.run_bind_ok version, Run.run_bind_ok (Run.lift_ok allowed w),
    Run.run_bind_ok (Run.lift_ok (didOpen_ok ..) w)]

end Document

/-! ## Questions -/

namespace Probing

theorem now_reads (w : World σ) :
    ∃ t clock, Run.now w = (.ok t, { w with clock }) := by
  unfold Run.now
  split
  · exact ⟨_, w.clock, rfl⟩
  · exact ⟨_, w.clock, rfl⟩
  · exact ⟨_, _, rfl⟩

/-- A document can be probed for the `i`-th time: no call is open, no probe is going on, and the
server has version `2 * i - 1` of it. -/
structure Ready (d : Document) (i : Nat) (w : World σ) : Prop where
  idle : w.loop.Idle
  phase : w.phase = .idle
  version : w.version d.number + 1 = 2 * i

/-- A warning is kept among those of the session, if at all. -/
theorem warn_keeps (text : String) (w : World σ) :
    ∃ warnings, Run.warn text w = (.ok (), { w with loop.session.warnings := warnings }) := by
  unfold Run.warn Run.change
  simp only
  split
  · exact ⟨_, rfl⟩
  · exact ⟨w.loop.session.warnings, rfl⟩

/-- What becomes of a probe that took `elapsed` milliseconds. -/
def settle (p : Probing) (d : Document) (c : Probe.Candidate) (elapsed : Float) :
    Outcome → Run σ Measurement
  | .ok v => return measured d c elapsed (.ok v)
  | .error f =>
    match p.policy with
    | .abort => Run.fail f
    | .skip => do
      Run.warn ("Request failed at " ++ placeText d c ++ ": " ++ f.message)
      return measured d c elapsed (.error f)

/-- The `i`-th probe of a document has been answered, and the server has been given the document's
own text again. -/
structure Restored (serve : Server σ) (p : Probing) (seconds : Option Float) (told : List Members)
    (d : Document) (i : Nat) {c : Probe.Candidate} (q : Question d c) (answer : Outcome)
    (w v : World σ) : Prop where
  reply : IsReply answer
  live : v.At (told ++ p.telling d i q answer) seconds
  spares : w.Spares d.number v
  version : v.version d.number = 2 * i + 1
  last : v.loop.session.transport.wire.sent.getLast? = some (d.changed (2 * i + 1) d.text)
  exchange : w.loop.session.Sound →
    Exchange serve p seconds d i q answer w.loop v.loop ∧ v.loop.session.Sound

end Probing

end ProbeBench
