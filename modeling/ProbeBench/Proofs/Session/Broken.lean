import ProbeBench.Proofs.Session.Orderly

/-!
# A write that fails

When the server is gone, the call that finds out fails with the loss of the connection. Nobody else
is told: the session has not ended, every other request goes on waiting, for ever if it has no
limit, and the next call writes again and fails in the same way. That is so whether the stream
refuses the message at once or after the call has waited for it, and also when the message is the
one that withdraws a request.

* `GoesDown`: the events that are such a write, with the call and its failure.
* `Traffic.alone_in_failing`: one such event.
* `Traffic.nobody_told`: any number of them, one after the other.
-/

namespace ProbeBench

/-- Whether a call does nothing but write a request or a notification. -/
def Call.isWrite : Call → Bool
  | .request .. => true
  | .notify .. => true
  | _ => false

/-- Whether a call that waits for its message to be taken is one of these. -/
def After.isWrite : After → Bool
  | .wait .answer _ _ _ => true
  | .check .answer _ _ => true
  | .fail .answer _ _ => true
  | .notify => true
  | _ => false

/-- What a write fails with that finds the server gone. -/
def goneFailure (text : String) : Failure := .lost (.writeFailed text)

/-- The event is a write of a request or a notification by call `task`, which fails with `text` as
the server is gone. -/
inductive GoesDown (t : Traffic) : Traffic.Event → Nat → String → Prop
  /-- The stream refuses the message at once. -/
  | refused {task : Nat} {call : Call} {fault : StreamFault} (idle : t.stage task = none)
      (write : call.isWrite) (broken : t.session.transport.wire.broken = some fault)
      (gone : fault.isGone) : GoesDown t (.call task call) task fault.text
  /-- The stream fails while the call waits for it to take the message. -/
  | drained {task : Nat} {after : After} {text : String}
      (stage : t.stage task = some (.writing after)) (write : after.isWrite) :
      GoesDown t (.unwritten task (.lost (.writeFailed text))) task text
  /-- The stream refuses the notification that withdraws a request whose time is over. -/
  | withdrawn {task id : Nat} {failure : Failure} {fault : StreamFault}
      (stage : t.stage task = some (.expiring .answer id failure))
      (broken : t.session.transport.wire.broken = some fault) (gone : fault.isGone) :
      GoesDown t (.goOn task) task fault.text

namespace Session

theorem send_of_gone {s : Session} {fault : StreamFault}
    (open_ : s.transport.wire.closed = false) (broken : s.transport.wire.broken = some fault)
    (gone : fault.isGone) (message : Members) :
    s.send message = .error (.lost (.writeFailed fault.text)) := by
  simp [send, Wire.send, open_, broken, gone, Except.map]

/-- A request that is refused is concluded at once. -/
theorem request_of_gone {s : Session} {fault : StreamFault} (alive : s.ending = none)
    (open_ : s.transport.wire.closed = false) (broken : s.transport.wire.broken = some fault)
    (gone : fault.isGone) (goal : Goal) (method : String) (params : Json) (patience : Patience) :
    s.request goal method params patience =
      (s.act (.register method)).conclude goal s.nextId (.error (goneFailure fault.text)) := by
  simp [request, refuse, send, Wire.send, act, alive, open_, broken, gone, Except.map,
    unwritten_afterRequest, WriteFault.failure, goneFailure]

/-- **A write that is refused** ends its call, and leaves the session as it was but for an id. -/
theorem begin_of_gone {s : Session} {fault : StreamFault} (alive : s.ending = none)
    (open_ : s.transport.wire.closed = false) (broken : s.transport.wire.broken = some fault)
    (gone : fault.isGone) {call : Call} (write : call.isWrite) :
    (s.begin call).2 = .finished (.error (goneFailure fault.text)) ∧
      (s.begin call).1.ending = none ∧ (s.begin call).1.transport = s.transport := by
  cases call with
  | request method params patience =>
    rw [begin, request_of_gone alive open_ broken gone]
    exact ⟨rfl, alive, rfl⟩
  | notify method params =>
    have told : s.tell method params .notify = .error (goneFailure fault.text) := by
      simp [tell, refuse, alive, send_of_gone open_ broken gone, WriteFault.failure, goneFailure]
    simp only [begin, told]
    exact ⟨trivial, alive, trivial⟩
  | _ => cases write

/-- So does one that fails while the call waits. -/
theorem unwritten_of_isWrite (s : Session) (failure : Failure) {after : After}
    (write : after.isWrite) :
    (s.unwritten failure after).2 = .finished (.error failure) ∧
      (s.unwritten failure after).1.ending = s.ending ∧
        (s.unwritten failure after).1.transport = s.transport := by
  unfold After.isWrite at write
  split at write
  · exact ⟨rfl, rfl, rfl⟩
  · exact ⟨rfl, rfl, rfl⟩
  · exact ⟨rfl, rfl, rfl⟩
  · exact ⟨rfl, rfl, rfl⟩
  · cases write

/-- A request that cannot be withdrawn fails with the loss of the connection, and not for its
time. -/
theorem giveUp_of_gone {s : Session} {fault : StreamFault} (alive : s.ending = none)
    (open_ : s.transport.wire.closed = false) (broken : s.transport.wire.broken = some fault)
    (gone : fault.isGone) (goal : Goal) (id : Nat) (failure : Failure) :
    s.giveUp goal id failure =
      (s.forget id).conclude goal id (.error (goneFailure fault.text)) := by
  simp [giveUp, tell, refuse, send, Wire.send, forget, alive, open_, broken, gone, Except.map,
    WriteFault.failure, goneFailure]

end Session

namespace Traffic

/-- **Who writes to a server that is gone fails alone.** The call ends with the loss of the
connection. The session has not ended, and every request of another call waits as before, in the
table and without an outcome. -/
theorem alone_in_failing {t : Traffic} (sound : t.Sound) (alive : t.session.ending = none)
    {e : Event} {task : Nat} {text : String} (h : GoesDown t e task text) :
    (t.step e).finished = t.finished ++ [(task, .error (goneFailure text))] ∧
      (t.step e).session.ending = none ∧
      (t.step e).session.transport = t.session.transport ∧
      ∀ k n method, k ≠ task → t.own? k = some n → Session.Waiting n method t.session →
        (t.step e).own? k = some n ∧ Session.Waiting n method (t.step e).session := by
  have found : ∃ r : Session × Progress, t.move? e = some (task, r) ∧
      r.2 = .finished (.error (goneFailure text)) ∧ r.1.ending = none ∧
        r.1.transport = t.session.transport := by
    cases h with
    | @refused _ call fault idle write broken gone =>
      have open_ := sound.session.open_of_alive alive
      exact ⟨_, by rw [move?, idle], Session.begin_of_gone alive open_ broken gone write⟩
    | @drained _ after _ stage write =>
      obtain ⟨ends, same, kept⟩ :=
        t.session.unwritten_of_isWrite (goneFailure text) write
      exact ⟨_, by rw [move?, stage]; rfl, ends, same.trans alive, kept⟩
    | @withdrawn _ id failure fault stage broken gone =>
      have open_ := sound.session.open_of_alive alive
      have gives := Session.giveUp_of_gone alive open_ broken gone .answer id failure
      refine ⟨t.session.giveUp .answer id failure, by rw [move?, stage]; rfl, ?_⟩
      rw [gives]
      exact ⟨rfl, alive, rfl⟩
  obtain ⟨r, hm, ends, alive', transport⟩ := found
  have moves := moves_of_move? hm
  rw [step_of_move hm]
  refine ⟨by rw [ends]; rfl, alive', transport, fun k n method other own waits => ?_⟩
  constructor
  · have kept := own?_of_move hm k
    rw [if_neg other, own, step_of_move hm] at kept
    exact kept
  · have apart : t.own? task ≠ some n := fun own' => other (sound.apart k task n own own')
    rcases waits.of_moves moves apart (sound.given k n own) with still | ⟨_, closed⟩
    · exact still
    · -- only closing would settle it, and the stream is as it was
      rw [transport, sound.session.open_of_alive alive] at closed
      cases closed

end Traffic

/-- A run of such writes, with the calls that make them and their failures, in order. -/
inductive GoDown : Traffic → List Traffic.Event → List (Nat × Outcome) → Prop
  | none {t : Traffic} : GoDown t [] []
  | next {t : Traffic} {e : Traffic.Event} {rest : List Traffic.Event} {task : Nat}
      {text : String} {failed : List (Nat × Outcome)} (first : GoesDown t e task text)
      (later : GoDown (t.step e) rest failed) :
      GoDown t (e :: rest) ((task, .error (goneFailure text)) :: failed)

/-- **A broken write is not a lost connection.** On a live session in any state that a run reaches,
let requests and notifications be written one after the other to a server that is gone. Each of them
fails for its own caller with the loss of the connection, the later ones like the first. The session
does not end by it, and every request of another call still waits. -/
theorem Traffic.nobody_told {t : Traffic} (started : t.Started) {before : List Traffic.Event}
    (alive : (t.run before).session.ending = none) {writes : List Traffic.Event}
    {failed : List (Nat × Outcome)} (h : GoDown (t.run before) writes failed) :
    (t.run (before ++ writes)).finished = (t.run before).finished ++ failed ∧
      (t.run (before ++ writes)).session.ending = none ∧
      ∀ k n method, k ∉ failed.map (·.1) → (t.run before).own? k = some n →
        Session.Waiting n method (t.run before).session →
          (t.run (before ++ writes)).own? k = some n ∧
            Session.Waiting n method (t.run (before ++ writes)).session := by
  have sound := Traffic.sound_run started.sound before
  rw [run_append]
  generalize t.run before = t at alive h sound
  induction h with
  | none =>
    refine ⟨(List.append_nil _).symm, alive, fun k n method _ own waits => ⟨own, waits⟩⟩
  | @next t e rest task text failed first later ih =>
    obtain ⟨ends, alive', _, others⟩ := alone_in_failing sound alive first
    obtain ⟨ends', alive'', others'⟩ := ih alive' (sound_step sound e)
    rw [run_cons]
    refine ⟨?_, alive'', fun k n method other own waits => ?_⟩
    · rw [ends', ends, List.append_assoc]
      rfl
    · rw [List.map_cons, List.mem_cons, not_or] at other
      obtain ⟨own', waits'⟩ := others k n method other.1 own waits
      exact others' k n method other.2 own' waits'

/-- The pipe to the server is gone. -/
def pipeGone : StreamFault := ⟨.brokenPipe, "pipe is gone"⟩

/-- A request is open when the pipe breaks; then comes another, and a notification. -/
theorem Traffic.nobody_told_first :
    let t : Traffic := { session := { reader := .waiting } }
    let before := [Event.call 1 (.request "first" .null .inherited), .goOn 1, .breaks pipeGone]
    let writes := [Event.call 2 (.request "second" .null .inherited),
      .call 3 (.notify "third" .null)]
    let failure : Outcome := .error (goneFailure pipeGone.text)
    (t.run (before ++ writes)).finished = [] ++ [(2, failure), (3, failure)] ∧
      (t.run (before ++ writes)).session.ending = none ∧
      (t.run (before ++ writes)).own? 1 = some 1 ∧
        Session.Waiting 1 "first" (t.run (before ++ writes)).session := by
  intro t before writes failure
  have started : t.Started := ⟨rfl, rfl, rfl, rfl, rfl, rfl, fun _ => rfl, rfl⟩
  have down : GoDown (t.run before) writes [(2, failure), (3, failure)] :=
    .next (.refused rfl rfl rfl rfl) (.next (.refused rfl rfl rfl rfl) .none)
  obtain ⟨ends, alive, others⟩ := nobody_told started rfl down
  exact ⟨ends, alive, others 1 1 "first" (by decide) rfl ⟨rfl, rfl, rfl⟩⟩

/-- **What fails one caller is not told the others**: here the second request has found the server
gone, and yet the session has not ended and the first request has no outcome. -/
theorem Traffic.not_told_of_loss :
    ¬ ∀ (t : Traffic) (before : List Event) (e : Event) (task : Nat) (text : String),
      t.Started → (t.run before).session.ending = none → GoesDown (t.run before) e task text →
        ((t.run before).step e).session.ending ≠ none ∨
          ∀ d ∈ (t.run before).session.pending,
            ((t.run before).step e).session.outcome? d.id ≠ none := by
  intro told
  let t : Traffic := { session := { reader := .waiting } }
  let before := [Event.call 1 (.request "first" .null .inherited), .goOn 1, .breaks pipeGone]
  rcases told t before (.call 2 (.request "second" .null .inherited)) 2 pipeGone.text
    ⟨rfl, rfl, rfl, rfl, rfl, rfl, fun _ => rfl, rfl⟩ rfl (.refused rfl rfl rfl rfl) with
    ended | settled
  · exact ended rfl
  · exact settled ⟨1, "first", false⟩ (by decide) rfl

end ProbeBench
