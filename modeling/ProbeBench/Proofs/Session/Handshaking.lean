import ProbeBench.Proofs.Session.Alike
import ProbeBench.Proofs.Session.Ending
import ProbeBench.Proofs.Session.Reading
import ProbeBench.Proofs.Session.Response
import ProbeBench.Proofs.Session.Waking
import ProbeBench.Proofs.Session.Widening
import ProbeBench.Proofs.Session.Writing

/-!
# Where a handshake stands

A session that nobody has used yet is connected. Its call writes the request that opens the
handshake and waits; the server answers, or does not in time, or the stream ends, fails or breaks
under it. As long as the call has not ended it stands at one of a few places (`Session.Shakes`), and
each of them says what stands in the table, what has been written, and what has become of stream and
reader.

* `Unanswered.incoming`, `Replied.incoming`, `Overdue.incoming`: what messages do to the request.
* `Nudged`: what arrives, before it is read.
* `Shakes.nudge`, `Shakes.read`: the call stands where it stood, or its request has an outcome.
-/

namespace ProbeBench.Session

/-! ## What has been written -/

/-- The request that opens the handshake has been written, then refusals, then these messages. -/
def Opens (n : Nat) (params : Json) (last : List Members) (s : Session) : Prop :=
  ∃ refusals, (∀ m ∈ refusals, isRefusal m = true) ∧
    s.transport.wire.sent = requestMessage n "initialize" params :: (refusals ++ last)

/-- Nothing has been written, or the request that opens the handshake, and that it is withdrawn. -/
def Tried (n : Nat) (params : Json) (s : Session) : Prop :=
  s.transport.wire.sent = [] ∨ s.Opens n params [] ∨ s.Opens n params [cancellation n]

variable {n : Nat} {params : Json} {last : List Members} {s s' : Session}

theorem Opens.congr (h : s.Opens n params last)
    (same : s'.transport.wire.sent = s.transport.wire.sent) : s'.Opens n params last := by
  unfold Opens
  rw [same]
  exact h

theorem Tried.congr (h : s.Tried n params)
    (same : s'.transport.wire.sent = s.transport.wire.sent) : s'.Tried n params := by
  unfold Tried Opens
  rw [same]
  exact h

/-- Refusals may follow. -/
theorem Opens.adds (h : s.Opens n params []) (adds : Adds (isRefusal · = true) s s') :
    s'.Opens n params [] := by
  obtain ⟨refusals, all, written⟩ := h
  obtain ⟨new, grown, more⟩ := adds
  refine ⟨refusals ++ new, fun m hm => ?_, ?_⟩
  · exact (List.mem_append.mp hm).elim (all m) (more m)
  · rw [grown, written]
    simp

theorem Opens.write (h : s.Opens n params []) {message : Members}
    (grown : s'.transport.wire.sent = s.transport.wire.sent ++ [message]) :
    s'.Opens n params [message] := by
  obtain ⟨refusals, all, written⟩ := h
  exact ⟨refusals, all, by rw [grown, written]; simp⟩

/-! ## The table -/

/-- The request has no answer yet. -/
structure Unanswered (n : Nat) (s : Session) : Prop where
  pending : s.pending = [⟨n, "initialize", false⟩]
  outcomes : s.outcomes = []
  alive : s.ending = none
  open_ : s.transport.wire.closed = false

/-- The request has an outcome, which its caller has not taken yet. -/
structure Replied (n : Nat) (o : Outcome) (s : Session) : Prop where
  pending : s.pending = []
  outcomes : s.outcomes = [(n, o)]
  open_ : s.transport.wire.closed = false

/-- The caller of the request has stopped waiting. -/
structure Overdue (n : Nat) (s : Session) : Prop where
  pending : s.pending = [] ∨ s.pending = [⟨n, "initialize", true⟩]
  outcomes : s.outcomes = []
  open_ : s.transport.wire.closed = false

theorem Unanswered.congr (h : s.Unanswered n) (same : SameTable s s') : s'.Unanswered n :=
  ⟨same.pending.trans h.pending, same.outcomes.trans h.outcomes, same.ending.trans h.alive,
    same.closed.trans h.open_⟩

theorem Replied.congr {o : Outcome} (h : s.Replied n o) (same : SameTable s s') : s'.Replied n o :=
  ⟨same.pending.trans h.pending, same.outcomes.trans h.outcomes, same.closed.trans h.open_⟩

theorem Overdue.congr (h : s.Overdue n) (same : SameTable s s') : s'.Overdue n :=
  ⟨by rw [same.pending]; exact h.pending, same.outcomes.trans h.outcomes,
    same.closed.trans h.open_⟩

theorem Unanswered.outcome? (h : s.Unanswered n) : s.outcome? n = none := by
  rw [Session.outcome?, h.outcomes]
  rfl

theorem Replied.outcome? {o : Outcome} (h : s.Replied n o) : s.outcome? n = some o := by
  simp [Session.outcome?, h.outcomes]

/-- With an empty table no message changes anything about requests. -/
theorem dispatch_of_empty (empty : s.pending = []) (message : Members) :
    SameTable s (s.dispatch message).1 := by
  unfold dispatch
  split
  · exact handle_same _ _ _
  · have nobody : s.addressee? message = none := by
      rw [addressee?, empty]
      cases requestId? (message.get? "id") <;> rfl
    rw [respond_eq, nobody]
    exact drop_same _ _

theorem Replied.lose {o : Outcome} (h : s.Replied n o) (ending : Ending) :
    (s.lose ending).Replied n o := by
  rw [Session.lose, endWith_eq]
  exact ⟨rfl, by simp [h.pending, h.outcomes, waiting], h.open_⟩

theorem Unanswered.lose (h : s.Unanswered n) (ending : Ending) :
    (s.lose ending).Replied n (.error ending.failure) := by
  rw [Session.lose, endWith_eq]
  exact ⟨rfl, by simp [h.pending, h.outcomes, h.alive, waiting], h.open_⟩

theorem Overdue.lose (h : s.Overdue n) (ending : Ending) : (s.lose ending).Overdue n := by
  rw [Session.lose, endWith_eq]
  refine ⟨.inl rfl, ?_, h.open_⟩
  rcases h.pending with none_ | late
  · simp [none_, h.outcomes, waiting]
  · simp [late, h.outcomes, waiting]

theorem Replied.absorb {o : Outcome} (h : s.Replied n o) (e : Traffic.Event) :
    (s.absorb e).Replied n o :=
  absorb_keeps (fun h message => h.congr (dispatch_of_empty h.pending message)) (fun h => h.lose)
    (fun h => h.congr) h e

theorem Overdue.dispatch (h : s.Overdue n) (message : Members) :
    (s.dispatch message).1.Overdue n := by
  rcases h.pending with none_ | late
  · exact h.congr (dispatch_of_empty none_ message)
  · unfold Session.dispatch
    split
    · exact h.congr (handle_same _ _ _)
    · rw [respond_eq]
      cases found : s.addressee? message with
      | none => exact h.congr (drop_same _ _)
      | some e =>
        obtain ⟨mem, -⟩ := id_of_addressee? found
        rw [late, List.mem_singleton] at mem
        subst mem
        have forgotten : (s.forget n).Overdue n :=
          ⟨.inl (by simp [Session.forget, late]), h.outcomes, h.open_⟩
        exact forgotten.congr (drop_same _ _)

theorem Overdue.absorb (h : s.Overdue n) (e : Traffic.Event) : (s.absorb e).Overdue n :=
  absorb_keeps (fun h => h.dispatch) (fun h => h.lose) (fun h => h.congr) h e

/-- Among what has come in there is a response to the request with a result. -/
def Granted (n : Nat) (events : List Traffic.Event) : Prop :=
  ∃ message result, .receive message ∈ events ∧ bearsId n message = true ∧
    responseOutcome "initialize" message = .ok result

theorem Granted.append_left {events : List Traffic.Event} (h : Granted n events)
    (before : List Traffic.Event) : Granted n (before ++ events) := by
  obtain ⟨message, result, mem, own, ok⟩ := h
  exact ⟨message, result, List.mem_append_right _ mem, own, ok⟩

theorem Granted.append_right {events : List Traffic.Event} (h : Granted n events)
    (more : List Traffic.Event) : Granted n (events ++ more) := by
  obtain ⟨message, result, mem, own, ok⟩ := h
  exact ⟨message, result, List.mem_append_left _ mem, own, ok⟩

theorem Replied.incoming {o : Outcome} (h : s.Replied n o) (events : List Traffic.Event) :
    (events.foldl Session.absorb s).Replied n o :=
  List.foldlRecOn _ _ h fun _ h e _ => h.absorb e

theorem Overdue.incoming (h : s.Overdue n) (events : List Traffic.Event) :
    (events.foldl Session.absorb s).Overdue n :=
  List.foldlRecOn _ _ h fun _ h e _ => h.absorb e

/-- **A request gets its outcome once**, a result only by its response. -/
theorem Unanswered.absorb (h : s.Unanswered n) (e : Traffic.Event) :
    (s.absorb e).Unanswered n ∨
      ∃ o, (s.absorb e).Replied n o ∧ ∀ result, o = .ok result → Granted n [e] := by
  have lost {s : Session} (h : s.Unanswered n) (ending : Ending) :
      ∃ o, (s.lose ending).endReader.Replied n o ∧ ∀ result, o = .ok result → Granted n [e] :=
    ⟨_, (h.lose ending).congr (endReader_same _), by rintro _ ⟨⟩⟩
  cases e with
  | receive message =>
    cases own : bearsId n message with
    | true =>
      obtain ⟨response, hid⟩ := bearsId_iff.mp own
      have found : s.addressee? message = some ⟨n, "initialize", false⟩ := by
        rw [addressee?_of_id hid, entryOf?, h.pending]
        simp
      refine .inr ⟨responseOutcome "initialize" message, ?_, fun result ok =>
        ⟨message, result, List.mem_singleton_self _, own, ok⟩⟩
      rw [Session.absorb, dispatch_of_response response, respond_eq, found]
      exact ⟨by simp [settle, Session.forget, h.pending],
        by simp [settle, Session.forget, h.outcomes], h.open_⟩
    | false =>
      have same : SameTable s (s.dispatch message).1 := by
        unfold dispatch
        split
        · exact handle_same _ _ _
        · rename_i response
          have nobody : s.addressee? message = none := by
            cases found : s.addressee? message with
            | none => rfl
            | some d =>
              obtain ⟨mem, hid⟩ := id_of_addressee? found
              rw [h.pending, List.mem_singleton] at mem
              subst mem
              rw [bearsId_iff.mpr ⟨response, hid⟩] at own
              cases own
          rw [respond_eq, nobody]
          exact drop_same _ _
      have still := h.congr same
      rw [Session.absorb]
      split
      · rename_i handled
        rw [handled] at still
        exact .inl still
      · rename_i handled
        rw [handled] at still
        exact .inr (lost still _)
  | finish => exact .inr (lost h _)
  | fail fault => exact .inr (lost h _)
  | _ => exact .inl (h.congr (absorb_plain (by simp) (by simp) (by simp)))

/-! ## What comes from the server -/

theorem Unanswered.incoming (h : s.Unanswered n) (events : List Traffic.Event) :
    (events.foldl Session.absorb s).Unanswered n ∨
      ∃ o, (events.foldl Session.absorb s).Replied n o ∧
        ∀ result, o = .ok result → Granted n events := by
  induction events generalizing s with
  | nil => exact .inl h
  | cons e rest ih =>
    rcases h.absorb e with still | ⟨o, replied, granted⟩
    · rcases ih still with later | ⟨o, replied, granted⟩
      · exact .inl later
      · exact .inr ⟨o, replied, fun result ok => (granted result ok).append_left [e]⟩
    · refine .inr ⟨o, ?_, fun result ok => (granted result ok).append_right rest⟩
      exact replied.incoming rest

/-! ## The stream and its reader -/

/-- Something has arrived, or nothing can be written any more: that is all, but that the reader may
be about to go on. -/
structure Nudged (s s' : Session) : Prop where
  same : SameTable s s'
  sent : s'.transport.wire.sent = s.transport.wire.sent
  closeFault : s'.transport.wire.closeFault = s.transport.wire.closeFault
  reader : s'.reader = s.reader ∨ s.reader = .waiting ∧ s'.reader = .woken

theorem Nudged.refl (s : Session) : s.Nudged s := ⟨.refl s, rfl, rfl, .inl rfl⟩

theorem Nudged.trans {t u : Session} (h : s.Nudged t) (h' : t.Nudged u) : s.Nudged u := by
  refine ⟨h.same.trans h'.same, h'.sent.trans h.sent, h'.closeFault.trans h.closeFault, ?_⟩
  rcases h'.reader with same | ⟨waits, woken⟩
  · rw [same]
    exact h.reader
  · rcases h.reader with same | ⟨-, past⟩
    · exact .inr ⟨same ▸ waits, woken⟩
    · rw [past] at waits
      cases waits

/-- A reader that does not wait is not let go on. -/
theorem Nudged.reader_of_awake (h : s.Nudged s') (awake : s.reader ≠ .waiting) :
    s'.reader = s.reader :=
  h.reader.resolve_right fun past => awake past.1

theorem Nudged.of_stirred (h : s.Stirred s')
    (reader : s'.reader = s.reader ∨ s.reader = .waiting ∧ s'.reader = .woken) : s.Nudged s' :=
  ⟨h.same, congrArg Wire.sent h.wire, congrArg Wire.closeFault h.wire, reader⟩

theorem arrive_nudged (s : Session) (octets : List UInt8) : s.Nudged (s.arrive octets) :=
  .of_stirred (arrive_stirred s octets) (reader_arrive s octets)

theorem finish_nudged (s : Session) : s.Nudged s.finish :=
  .of_stirred (finish_stirred s) (reader_wakeReader { s with transport := s.transport.finish })

theorem failReader_nudged (s : Session) (fault : StreamFault) : s.Nudged (s.failReader fault) :=
  .of_stirred (failReader_stirred s fault)
    (reader_wakeReader { s with transport := s.transport.fail fault })

/-- The reader is there: it has not ended, or has ended the session. -/
def Attended (s : Session) : Prop :=
  s.reader = .waiting ∨ s.reader = .woken ∨ s.reader = .ended ∧ s.ending ≠ none

/-- Closing the stream meets no fault but that the other end is gone. -/
def ClosesWell (s : Session) : Prop :=
  s.transport.wire.closeFault.filter (!·.isGone) = none

theorem Attended.nudge (h : s.Attended) (nudged : s.Nudged s') : s'.Attended := by
  rcases nudged.reader with same | ⟨-, woken⟩
  · unfold Attended
    rw [same, nudged.same.ending]
    exact h
  · exact .inr (.inl woken)

/-- A reader that goes on waits for more, or ends the session. -/
theorem Attended.read (h : s.Attended) : s.read.Attended := by
  have ended (s : Session) (ending : Ending) : (s.lose ending).endReader.Attended := by
    refine .inr (.inr ⟨rfl, ?_⟩)
    show (s.lose ending).ending ≠ none
    rw [Session.lose, endWith_eq]
    exact Option.some_ne_none _
  unfold Session.read
  split
  · rename_i cancelled
    rcases h with phase | phase | ⟨phase, -⟩ <;> rw [phase] at cancelled <;> cases cancelled
  · simp only
    split
    · exact ended _ _
    · split
      · exact .inl rfl
      · exact ended _ _
      · exact ended _ _
  · exact h

theorem ClosesWell.congr (h : s.ClosesWell)
    (same : s'.transport.wire.closeFault = s.transport.wire.closeFault) : s'.ClosesWell := by
  unfold ClosesWell
  rw [same]
  exact h

/-! ## The places of the call -/

/-- The handshake has begun: the request is written, the stream is up and somebody reads. -/
structure Shaking (n : Nat) (params : Json) (s : Session) : Prop where
  written : s.Opens n params []
  attended : s.Attended
  closesWell : s.ClosesWell

theorem Shaking.congr (h : s.Shaking n params) (wire : s'.transport.wire = s.transport.wire)
    (reader : s'.reader = s.reader) (ending : s'.ending = s.ending) : s'.Shaking n params := by
  refine ⟨h.written.congr (by rw [wire]), ?_, h.closesWell.congr (by rw [wire])⟩
  unfold Attended
  rw [reader, ending]
  exact h.attended

theorem Shaking.nudge (h : s.Shaking n params) (nudged : s.Nudged s') : s'.Shaking n params :=
  ⟨h.written.congr nudged.sent, h.attended.nudge nudged, h.closesWell.congr nudged.closeFault⟩

theorem Shaking.read (h : s.Shaking n params) : s.read.Shaking n params :=
  ⟨h.written.adds (read_adds isRefusal_refusal s), h.attended.read,
    h.closesWell.congr s.read_widens.closeFault⟩

/-- The session has ended and so has its stream, without a greeting. -/
structure Dismissed (n : Nat) (params : Json) (s : Session) : Prop where
  ended : s.ending ≠ none
  closed : s.transport.wire.closed = true
  pending : s.pending = []
  written : s.Tried n params

theorem Dismissed.congr (h : s.Dismissed n params) (same : SameTable s s')
    (sent : s'.transport.wire.sent = s.transport.wire.sent) : s'.Dismissed n params :=
  ⟨same.ending ▸ h.ended, same.closed.trans h.closed, same.pending.trans h.pending,
    h.written.congr sent⟩

/-- Where a call that connects stands while it waits; `granted` says that the server has answered
its request with a result. -/
inductive Shakes (n : Nat) (params : Json) (granted : Prop) : Session → Stage → Prop
  | waits {s : Session} {limit : Option Float} (shaking : s.Shaking n params)
      (table : s.Unanswered n) :
      Shakes n params granted s (.awaiting .connect n "initialize" limit)
  | replied {s : Session} {limit : Option Float} {o : Outcome} (shaking : s.Shaking n params)
      (table : s.Replied n o) (ok : ∀ result, o = .ok result → granted) :
      Shakes n params granted s (.awaiting .connect n "initialize" limit)
  | overdue {s : Session} {failure : Failure} (shaking : s.Shaking n params)
      (table : s.Overdue n) :
      Shakes n params granted s (.expiring .connect n failure)
  | leaves {s : Session} {failure : Failure} (dismissed : s.Dismissed n params)
      (reader : s.reader = .cancelled ∨ s.reader = .ended) :
      Shakes n params granted s (.releasing (.error failure))

variable {granted : Prop} {stage : Stage}

/-- **What arrives** leaves the call where it stands. -/
theorem Shakes.nudge (h : Shakes n params granted s stage) (nudged : s.Nudged s') :
    Shakes n params granted s' stage := by
  cases h with
  | waits shaking table => exact .waits (shaking.nudge nudged) (table.congr nudged.same)
  | replied shaking table ok => exact .replied (shaking.nudge nudged) (table.congr nudged.same) ok
  | overdue shaking table => exact .overdue (shaking.nudge nudged) (table.congr nudged.same)
  | leaves dismissed reader =>
    have awake : s.reader ≠ .waiting := by
      rcases reader with phase | phase <;> rw [phase] <;> decide
    exact .leaves (dismissed.congr nudged.same nudged.sent) (nudged.reader_of_awake awake ▸ reader)

/-- **What is read** leaves the call where it stands, or gives its request an outcome. -/
theorem Shakes.read (h : Shakes n params granted s stage) :
    Shakes n params (granted ∨ Granted n s.reading) s.read stage := by
  cases h with
  | waits shaking table =>
    have later := table.incoming s.reading
    rw [read_eq] at later
    rcases later with still | ⟨o, replied, ok⟩
    · exact .waits shaking.read still
    · exact .replied shaking.read replied fun result e => .inr (ok result e)
  | replied shaking table ok =>
    have later := table.incoming s.reading
    rw [read_eq] at later
    exact .replied shaking.read later fun result e => .inl (ok result e)
  | overdue shaking table =>
    have later := table.incoming s.reading
    rw [read_eq] at later
    exact .overdue shaking.read later
  | leaves dismissed reader =>
    have ends : s.read = { s with reader := .ended } := by
      rcases reader with phase | phase <;> simp only [Session.read, phase]
      · rfl
      · rw [← phase]
    rw [ends]
    exact .leaves (dismissed.congr ⟨rfl, rfl, rfl, rfl, rfl⟩ rfl) (.inr rfl)

/-- As long as the call waits nothing is acknowledged. -/
theorem Shakes.tried (h : Shakes n params granted s stage) : s.Tried n params := by
  cases h with
  | waits shaking => exact .inr (.inl shaking.written)
  | replied shaking => exact .inr (.inl shaking.written)
  | overdue shaking => exact .inr (.inl shaking.written)
  | leaves dismissed => exact dismissed.written

theorem Shakes.mono {granted' : Prop} (h : Shakes n params granted s stage)
    (imp : granted → granted') : Shakes n params granted' s stage := by
  cases h with
  | waits shaking table => exact .waits shaking table
  | replied shaking table ok => exact .replied shaking table fun result e => imp (ok result e)
  | overdue shaking table => exact .overdue shaking table
  | leaves dismissed reader => exact .leaves dismissed reader

end ProbeBench.Session
