import ProbeBench.Proofs.Session.Alike
import ProbeBench.Proofs.Session.Traffic

/-!
# Noise

A server sends what nobody waits for: notifications, requests of its own, responses without a
request, and frames that hold no message. To the calls on a session such `IsNoise`. A run with noise
in it is a list of `Occasion`s, and the `original` run is what is left without the noise. Both go on
side by side: whatever has happened, calls cannot tell one session from the other.

* `Session.Unasked`, `IsNoise`, `Noisy`: what noise is, at every point of a run.
* `alike_step`, `alike_noise`: one event on both sides, or noise on one.
* `alike_after`, `diary_original`: whole runs.
-/

namespace ProbeBench

/-- A message from the server that no request waits for: it names a method, in a notification or in
a request with whatever id, or it is a response whose id is missing, is neither a whole number nor a
truth value, or is that of no pending request. -/
def Session.Unasked (s : Session) (message : Members) : Prop :=
  (∃ method, message.get? "method" = some (.str method)) ∨
    ∀ n, requestId? (message.get? "id") = some n → ∀ e ∈ s.pending, (e.id : Int) ≠ n

namespace Session.Alike

variable {s s' : Session} {e : Traffic.Event}

theorem warns (h : s.Alike s') (text : String) : s.Alike (s'.warn text) := by
  unfold Session.warn
  split
  · exact { h with }
  · exact h

/-- **A message that no request waits for** is not seen by calls. -/
theorem hears (h : s.Alike s') {message : Members} (unasked : s.Unasked message) :
    s.Alike (s'.dispatch message).1 ∧ (s'.dispatch message).2 = none := by
  unfold Session.dispatch
  split
  · rename_i method _
    cases named : message.get? "id" with
    | none =>
      obtain ⟨notified, warnings, handled⟩ := handle_of_no_id h.listens' named method
      rw [handled]
      exact ⟨{ h with }, rfl⟩
    | some id =>
      rw [handle_of_id h.wire.whole' named]
      split
      · exact ⟨h, rfl⟩
      · exact ⟨h.refuses id method, rfl⟩
  · rename_i no_method
    have nobody : ((requestId? (message.get? "id")).bind fun n =>
        s'.pending.find? fun e => (e.id : Int) = n) = none := by
      obtain ⟨method, named⟩ | other := unasked
      · exact absurd named (no_method method)
      · rw [Option.bind_eq_none_iff, h.pending]
        intro n hn
        rw [List.find?_eq_none]
        intro entry mem
        simpa using other n hn entry mem
    have dropped : s'.respond message = s'.drop (message.get? "id") := by
      unfold Session.respond
      simp only [nobody]
    rw [dropped]
    have counted : s.Alike { s' with dropped := s'.dropped + 1 } := { h with }
    exact ⟨counted.warns _, rfl⟩

/-- What the reader finds leaves both alike. -/
theorem absorb (h : s.Alike s') (unbroken : ∀ fault, e ≠ .breaks fault) :
    (s.absorb e).Alike (s'.absorb e) := by
  cases e with
  | receive message =>
    obtain ⟨alike, handled, handled'⟩ := h.dispatch message
    rw [absorb_of_handled handled, absorb_of_handled handled']
    exact alike
  | garbled fault =>
    have counted : Alike { s with frameFaults := s.frameFaults + 1 }
        { s' with frameFaults := s'.frameFaults + 1 } := { h with }
    exact counted.warn _ _
  | finish =>
    have ending : s'.endingAtEnd = s.endingAtEnd := by
      rw [Session.endingAtEnd, h.closing, Session.endingAtEnd]
    unfold Session.absorb
    rw [ending]
    exact (h.lose _).endReader
  | fail fault => exact (h.lose _).endReader
  | quit => exact h.endReader
  | breaks fault => exact absurd rfl (unbroken fault)
  | stir inbox decoder reader wakes => exact { h with reader := rfl }
  | call task call => exact h
  | goOn task => exact h
  | expire task => exact h
  | unwritten task fault => exact h

theorem answer? (h : s.Alike s') (stage : Stage) : s'.answer? stage = s.answer? stage := by
  unfold Session.answer?
  split <;> simp only [h.outcome?]

end Session.Alike

namespace Traffic

/-- Events that calls on a session do not see: the reader handles a message that no request waits
for, or a frame that holds none, or is let go on in vain. -/
inductive IsNoise (s : Session) : Event → Prop
  | message {message : Members} (unasked : s.Unasked message) : IsNoise s (.receive message)
  | garbled (fault : Frame.Fault) : IsNoise s (.garbled fault)
  | stir (inbox : Inbox) (decoder : Frame.Decoder) {reader : Reader} (wakes : List Wake)
      (same : reader.unwoken = s.reader.unwoken) : IsNoise s (.stir inbox decoder reader wakes)

/-- Two sessions that calls cannot tell apart, with the same calls on them, of which the same have
ended. -/
structure Alike (t t' : Traffic) : Prop where
  session : t.session.Alike t'.session
  stage : t'.stage = t.stage
  answers : t'.answers = t.answers
  finished : t'.finished = t.finished

variable {t t' : Traffic} {e : Event}

/-- The same call moves on both sides, and comes to the same, or none does. -/
theorem Alike.move? (h : t.Alike t') (e : Event) :
    (t.move? e = none ∧ t'.move? e = none) ∨
      ∃ task r r', t.move? e = some (task, r) ∧ t'.move? e = some (task, r') ∧
        Session.Agree r r' := by
  cases e with
  | call task call =>
    simp only [Traffic.move?, h.stage]
    split
    · exact .inr ⟨task, _, _, rfl, rfl, h.session.begin call⟩
    · exact .inl ⟨rfl, rfl⟩
  | goOn task =>
    simp only [Traffic.move?, h.stage]
    cases t.stage task with
    | none => exact .inl ⟨rfl, rfl⟩
    | some stage => exact .inr ⟨task, _, _, rfl, rfl, h.session.resume stage⟩
  | expire task =>
    simp only [Traffic.move?, h.stage]
    cases t.stage task with
    | none => exact .inl ⟨rfl, rfl⟩
    | some stage =>
      simp only [Option.bind_some]
      have agree := h.session.resume stage
      generalize t.session.resume stage = r at agree
      generalize t'.session.resume stage = r' at agree
      obtain ⟨v, p⟩ := r
      obtain ⟨v', p'⟩ := r'
      obtain ⟨alike, rfl⟩ : v.Alike v' ∧ p' = p := agree
      split
      · rename_i goal id failure e
        cases e
        exact .inr ⟨task, _, _, rfl, rfl, alike.giveUp goal id failure⟩
      · rename_i other
        refine .inl ⟨rfl, ?_⟩
        split
        · rename_i e
          cases e
          exact absurd rfl (other _ _ _ _)
        · rfl
  | unwritten task fault =>
    simp only [Traffic.move?, h.stage]
    split
    · exact .inr ⟨task, _, _, rfl, rfl, h.session.unwritten fault.failure _⟩
    · exact .inl ⟨rfl, rfl⟩
  | _ => exact .inl ⟨rfl, rfl⟩

theorem Alike.answer? (h : t.Alike t') (e : Event) : t'.answer? e = t.answer? e := by
  cases e with
  | goOn task =>
    simp only [Traffic.answer?, h.stage]
    cases t.stage task with
    | none => rfl
    | some stage => exact h.session.answer? stage
  | _ => rfl

/-- **An event that happens on both sides** leaves both alike. -/
theorem alike_step (h : t.Alike t') (unbroken : ∀ fault, e ≠ .breaks fault) :
    (t.step e).Alike (t'.step e) := by
  obtain ⟨still, still'⟩ | ⟨task, r, r', moved, moved', alike, same⟩ := h.move? e
  · rw [step_of_none still, step_of_none still']
    exact { h with session := h.session.absorb unbroken }
  · rw [step_of_move moved, step_of_move moved']
    refine ⟨alike, ?_, ?_, ?_⟩
    · simp only [same, h.stage]
    · simp only [h.answers, h.answer?]
    · simp only [same, h.finished]

/-- **Noise on one side** leaves both alike. -/
theorem alike_noise (h : t.Alike t') (noise : IsNoise t.session e) : t.Alike (t'.step e) := by
  cases noise with
  | @message message unasked =>
    obtain ⟨alike, handled⟩ := h.session.hears unasked
    refine { h with session := ?_ }
    show t.session.Alike (t'.session.absorb (.receive message))
    rw [Session.absorb_of_handled handled]
    exact alike
  | garbled fault =>
    have counted : t.session.Alike { t'.session with frameFaults := t'.session.frameFaults + 1 } :=
      { h.session with }
    exact { h with session := counted.warns _ }
  | stir inbox decoder wakes same => exact { h with session := { h.session with reader := same } }

/-! ## Runs -/

/-- An event at a time, which may be noise. -/
structure Occasion where
  time : Float
  event : Event
  noise : Bool := false

/-- What is left of a run without its noise. -/
def original (xs : List Occasion) : List Occasion := xs.filter (!·.noise)

/-- What is left after a run. -/
def after (t : Traffic) (xs : List Occasion) : Traffic := t.run (xs.map (·.event))

/-- What is marked as noise in a run is noise, where the original run has come to, and all else can
happen as long as what is written is taken. -/
inductive Noisy : Traffic → List Occasion → Prop
  | done {t : Traffic} : Noisy t []
  | original {t : Traffic} {x : Occasion} {xs : List Occasion} (own : x.noise = false)
      (unbroken : ∀ fault, x.event ≠ .breaks fault) (later : Noisy (t.step x.event) xs) :
      Noisy t (x :: xs)
  | noise {t : Traffic} {x : Occasion} {xs : List Occasion} (other : x.noise = true)
      (noise : IsNoise t.session x.event) (later : Noisy t xs) : Noisy t (x :: xs)

/-- A request or a call that has ended, and how. -/
inductive Ended where
  | request (id : Nat) (outcome : Outcome)
  | call (task : Nat) (outcome : Outcome)

/-- What ends with an event. -/
def ended (t : Traffic) (e : Event) : List Ended :=
  ((t.answer? e).toList.map fun a => .request a.1 a.2) ++
    ((t.move? e).bind fun m => m.2.2.outcome?.map (Ended.call m.1)).toList

/-- What ends in a run, with its times. -/
def diary (t : Traffic) : List Occasion → List (Float × Ended)
  | [] => []
  | x :: xs => (t.ended x.event).map (x.time, ·) ++ (t.step x.event).diary xs

theorem Alike.ended (h : t.Alike t') (e : Event) : t'.ended e = t.ended e := by
  unfold Traffic.ended
  rw [h.answer?]
  obtain ⟨still, still'⟩ | ⟨task, r, r', moved, moved', _, same⟩ := h.move? e
  · rw [still, still']
  · rw [moved, moved']
    simp only [Option.bind_some, same]

/-- No call or request ends with noise. -/
theorem ended_noise {s : Session} (noise : IsNoise s e) : t.ended e = [] := by
  cases noise <;> rfl

/-- **Wherever a run with noise has come to**, calls cannot tell it from the original run. -/
theorem alike_after (h : t.Alike t') {xs : List Occasion} (noisy : Noisy t xs) :
    (t.after (original xs)).Alike (t'.after xs) := by
  induction noisy generalizing t' with
  | done => exact h
  | @original t x xs own unbroken later ih =>
    have kept : original (x :: xs) = x :: original xs := by simp [original, own]
    rw [kept]
    exact ih (alike_step h unbroken)
  | @noise t x xs other noise later ih =>
    have erased : original (x :: xs) = original xs := by simp [original, other]
    rw [erased]
    exact ih (alike_noise h noise)

/-- **The same ends at the same times** as in the original run. -/
theorem diary_original (h : t.Alike t') {xs : List Occasion} (noisy : Noisy t xs) :
    t'.diary xs = t.diary (original xs) := by
  induction noisy generalizing t' with
  | done => rfl
  | @original t x xs own unbroken later ih =>
    have kept : original (x :: xs) = x :: original xs := by simp [original, own]
    rw [kept, diary, diary, h.ended, ih (alike_step h unbroken)]
  | @noise t x xs other noise later ih =>
    have erased : original (x :: xs) = original xs := by simp [original, other]
    rw [erased, diary, ended_noise noise, ih (alike_noise h noise)]
    rfl

/-- What a run begins with is a run with noise of its own. -/
theorem Noisy.take {xs ys : List Occasion} (h : Noisy t (xs ++ ys)) : Noisy t xs := by
  induction xs generalizing t with
  | nil => exact .done
  | cons x xs ih =>
    cases h with
    | original own unbroken later => exact .original own unbroken (ih later)
    | noise other noise later => exact .noise other noise (ih later)

theorem Noisy.initial {xs ys : List Occasion} (h : Noisy t ys) (initial : xs <+: ys) :
    Noisy t xs := by
  obtain ⟨rest, rfl⟩ := initial
  exact h.take

/-- Two runs that differ in nothing but noise: what else happens is the same, in the same order and
at the same times. -/
structure SameButNoise (t : Traffic) (xs ys : List Occasion) : Prop where
  noisy : Noisy t xs
  noisy' : Noisy t ys
  same : original ys = original xs

theorem Alike.refl (whole : t.session.transport.wire.broken = none)
    (listens : ∀ text, t.session.listener ≠ .failing text) : t.Alike t :=
  ⟨.refl whole listens, rfl, rfl, rfl⟩

theorem Alike.common {u : Traffic} (h : t.Alike t') (h' : t.Alike u) : t'.Alike u :=
  ⟨h.session.common h'.session, h'.stage.trans h.stage.symm, h'.answers.trans h.answers.symm,
    h'.finished.trans h.finished.symm⟩

theorem Alike.itself (h : t.Alike t') : t.Alike t :=
  .refl h.session.wire.whole h.session.listens

/-- **Where runs that differ in nothing but noise have come to**, calls cannot tell. -/
theorem SameButNoise.alike {xs ys : List Occasion} (h : t.SameButNoise xs ys) (alike : t.Alike t') :
    (t.after xs).Alike (t'.after ys) := by
  have noisy := alike_after alike.itself h.noisy
  have noisy' := alike_after alike h.noisy'
  rw [h.same] at noisy'
  exact noisy.common noisy'

/-- **What ends in runs that differ in nothing but noise** is the same, at the same times. -/
theorem SameButNoise.diary {xs ys : List Occasion} (h : t.SameButNoise xs ys)
    (alike : t.Alike t') : t'.diary ys = t.diary xs := by
  rw [diary_original alike h.noisy', h.same, diary_original alike.itself h.noisy]

/-- Runs that differ in nothing but noise begin with such runs. -/
theorem SameButNoise.initial {xs ys xs' ys' : List Occasion} (h : t.SameButNoise xs ys)
    (initial : xs' <+: xs) (initial' : ys' <+: ys) (same : original ys' = original xs') :
    t.SameButNoise xs' ys' :=
  ⟨h.noisy.initial initial, h.noisy'.initial initial', same⟩

end Traffic

end ProbeBench
