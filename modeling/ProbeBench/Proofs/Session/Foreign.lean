import ProbeBench.Proofs.Session.Reception

/-!
# Responses without a number

Every request has a number as its id, so a response whose id is none belongs to no request: it is
counted as dropped, and the table is left as it is. A truth value is the exception. It is taken for
a number where the table is looked up, so that `true` finds the first request of the session; the
other one finds nothing, as ids are given from one on.

* `Session.Foreign`: the response has an id that is no whole number, or none at all.
* `Session.Mistaken`: it is taken for the response to the first request.
* `Traffic.numbered_run`: ids are given from one on.
* `Traffic.foreign_dropped`: what becomes of a foreign response, in every state that is reached.
-/

namespace ProbeBench

namespace Session

/-- A response that has no whole number as its id. -/
structure Foreign (message : Members) : Prop where
  response : IsResponse message
  unnumbered : ∀ n, message.get? "id" ≠ some (.int n)

/-- A truth value is taken for the id of the first request, whose entry is there. -/
def Mistaken (s : Session) (message : Members) : Prop :=
  message.get? "id" = some (.bool true) ∧ ∃ e ∈ s.pending, e.id = 1

/-- **A foreign response finds nothing** in a table of requests with ids from one on, unless it is
mistaken. -/
theorem Foreign.addressee?_eq_none {s : Session} {message : Members} (foreign : Foreign message)
    (numbered : ∀ e ∈ s.pending, 1 ≤ e.id) (known : ¬ s.Mistaken message) :
    s.addressee? message = none := by
  cases found : s.addressee? message with
  | none => rfl
  | some e =>
    obtain ⟨there, own⟩ := id_of_addressee? found
    have positive := numbered e there
    rcases requestId?_eq_some own with number | ⟨b, truth, same⟩
    · exact absurd number (foreign.unnumbered e.id)
    · cases b with
      | true => exact absurd ⟨truth, e, there, Int.ofNat.inj same⟩ known
      | false =>
        simp only [Bool.false_eq_true, if_false] at same
        omega

/-- A response takes what it finds off the table, and nothing else. -/
theorem pending_respond {s : Session} {message : Members} {e : Entry}
    (found : s.addressee? message = some e) :
    (s.respond message).pending = s.pending.filter (·.id ≠ e.id) := by
  rw [respond_eq, found]
  simp only
  split
  · exact (drop_same (s.forget e.id) _).pending
  · rfl

theorem Mistaken.own {s : Session} {message : Members} (mistaken : s.Mistaken message) :
    requestId? (message.get? "id") = some ((1 : Nat) : Int) := by
  rw [mistaken.1]
  rfl

/-- A mistaken response finds the entry of the first request. -/
theorem Mistaken.addressee {s : Session} {message : Members} (mistaken : s.Mistaken message) :
    ∃ e, s.addressee? message = some e ∧ e.id = 1 := by
  rw [addressee?_of_id mistaken.own]
  obtain ⟨-, e, there, first⟩ := mistaken
  cases found : s.entryOf? 1 with
  | none =>
    have absent := List.find?_eq_none.mp found e there
    simp [first] at absent
  | some d => exact ⟨d, rfl, by simpa using List.find?_some found⟩

end Session

open Session

namespace Traffic

/-- Every entry keeps its call over a run. -/
theorem owned_run {t : Traffic} (h : ∀ e ∈ t.session.pending, ∃ task, t.own? task = some e.id)
    (events : List Event) :
    ∀ e ∈ (t.run events).session.pending, ∃ task, (t.run events).own? task = some e.id := by
  induction events generalizing t with
  | nil => exact h
  | cons e rest ih => exact ih (owned_step h e)

/-- **Ids are given from one on**: no entry ever has a smaller one. -/
theorem numbered_run {t : Traffic} (started : t.Started) (events : List Event) :
    ∀ e ∈ (t.run events).session.pending, 1 ≤ e.id := by
  intro e he
  obtain ⟨task, own⟩ := owned_run started.kept.owned events e he
  rcases own?_run own with before | ⟨given, -⟩
  · rw [own?, started.stages] at before
    cases before
  · rwa [started.nextId] at given

/-- **A foreign response settles nobody, unless it is mistaken.** In every state that a session
reaches, whatever is pending: a response that has no whole number as its id is counted as dropped,
with a warning, and nothing else changes. But where its id is `true` and the first request of the
session still has its entry, the response takes that off the table, and if the request is waited
for, settles it as its own response does. -/
theorem foreign_dropped {t : Traffic} (started : t.Started) (events : List Event)
    {message : Members} (foreign : Foreign message) :
    let s := (t.run events).session
    (¬ s.Mistaken message →
      ∃ warnings, s.dispatch message = ({ s with warnings, dropped := s.dropped + 1 }, none)) ∧
    (s.Mistaken message →
      (s.dispatch message).1.pending = s.pending.filter (·.id ≠ 1) ∧
        ∀ method, Waiting 1 method s →
          Settled 1 (responseOutcome method message) (s.dispatch message).1) := by
  intro s
  rw [dispatch_of_response foreign.response]
  constructor
  · intro known
    have nobody := foreign.addressee?_eq_none (numbered_run started events) known
    obtain ⟨warnings, counted⟩ := drop_eq s (message.get? "id")
    refine ⟨warnings, ?_⟩
    rw [respond_eq, nobody, ← counted]
  · intro mistaken
    obtain ⟨e, found, first⟩ := mistaken.addressee
    refine ⟨by rw [pending_respond found, first], fun method waits => ?_⟩
    have settled := waits.dispatch_own foreign.response mistaken.own
    rwa [dispatch_of_response foreign.response] at settled

/-- While the first request waits, a response with the text `1` as its id is dropped, and one with
`true` settles it. -/
theorem foreign_dropped_text :
    let t : Traffic := { session := { reader := .waiting } }
    let s := (t.run [.call 1 (.request "first" .null .inherited), .goOn 1]).session
    let answer (id : Json) : Members := [("id", id), ("result", .str "hi")]
    (∃ warnings, s.dispatch (answer (.str "1")) =
      ({ s with warnings, dropped := s.dropped + 1 }, none)) ∧
    Settled 1 (.ok (.str "hi")) (s.dispatch (answer (.bool true))).1 := by
  intro t s answer
  have started : t.Started := ⟨rfl, rfl, rfl, rfl, rfl, rfl, fun _ => rfl, rfl⟩
  have plain (id : Json) : IsResponse (answer id) := by
    intro method named
    cases named
  have text : Foreign (answer (.str "1")) := ⟨plain _, nofun⟩
  have truth : Foreign (answer (.bool true)) := ⟨plain _, nofun⟩
  have waits : Waiting 1 "first" s := ⟨rfl, rfl, rfl⟩
  have there : ∃ e ∈ s.pending, e.id = 1 := ⟨⟨1, "first", false⟩, by decide, rfl⟩
  refine ⟨(foreign_dropped started _ text).1 fun mistaken => ?_, ?_⟩
  · exact absurd mistaken.1 nofun
  · exact ((foreign_dropped started _ truth).2 ⟨rfl, there⟩).2 "first" waits

/-- **A foreign response is not always dropped.** -/
theorem not_dropped_when_true :
    ¬ ∀ (t : Traffic) (events : List Event) (message : Members), t.Started → Foreign message →
      ∃ warnings, (t.run events).session.dispatch message =
        ({ (t.run events).session with
          warnings, dropped := (t.run events).session.dropped + 1 }, none) := by
  intro always
  let t : Traffic := { session := { reader := .waiting } }
  let message : Members := [("id", .bool true), ("result", .str "hi")]
  have foreign : Foreign message := ⟨nofun, nofun⟩
  obtain ⟨warnings, counted⟩ := always t [.call 1 (.request "first" .null .inherited), .goOn 1]
    message ⟨rfl, rfl, rfl, rfl, rfl, rfl, fun _ => rfl, rfl⟩ foreign
  have kept := congrArg (fun r => r.1.pending.length) counted
  cases kept

end Traffic

end ProbeBench
