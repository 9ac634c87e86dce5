import ProbeBench.Proofs.Schedule
import ProbeBench.Session.Loop

/-!
# Bookkeeping

Between the moves of its calls a loop does nothing but bookkeeping: the server hears what was
written, what it sends is scheduled, timers are set and stopped, and who can go on is lined up. That
leaves the session and its calls as they are. What it adds to what is ready only lets somebody go on
or comes from the server, so whatever holds of these (`Ready.Plain`, `Server.Hears`) and of all that
is ready or will be (`Loop.All`) still does.

* `Leaves`: the same session, with the same calls on it.
* `later_leaves` … `flush_leaves`: single steps.
* `record_leaves`, `handle_read_leaves`, `receive_leaves`: behind a call, the reader and a delivery.
-/

namespace ProbeBench

/-- It holds of everything that lets somebody go on. -/
structure Ready.Plain (p : Ready → Prop) : Prop where
  relay : ∀ id, p (.relay id)
  resume : ∀ task, p (.resume task)
  read : p .read
  serve : p .serve

/-- It holds of everything that comes from a server which hears messages. -/
def Server.Hears {σ : Type} (serve : Server σ) (p : Ready → Prop) : Prop :=
  ∀ s now message, ∀ d ∈ (serve.hear s now message).deliveries, p (.deliver d)

namespace Loop

variable {σ : Type} {serve : Server σ} {p : Ready → Prop} {l l' : Loop σ}

/-- It holds of everything that is ready, or will be. -/
structure All (p : Ready → Prop) (l : Loop σ) : Prop where
  current : ∀ r ∈ l.current, p r
  next : ∀ r ∈ l.next, p r
  schedule : l.schedule.All p

/-- The same session with the same calls on it. -/
structure Leaves (p : Ready → Prop) (l l' : Loop σ) : Prop where
  session : l'.session = l.session
  stages : l'.stages = l.stages
  finished : l'.finished = l.finished
  all : l.All p → l'.All p

theorem Leaves.refl (l : Loop σ) : Leaves p l l := ⟨rfl, rfl, rfl, id⟩

theorem Leaves.trans {l m n : Loop σ} (h : Leaves p l m) (h' : Leaves p m n) : Leaves p l n :=
  ⟨h'.session.trans h.session, h'.stages.trans h.stages, h'.finished.trans h.finished,
    h'.all ∘ h.all⟩

/-- What is done for one item after the other leaves what each of them leaves. -/
theorem Leaves.foldl {α : Type} {f : Loop σ → α → Loop σ} {items : List α}
    (h : ∀ l, ∀ a ∈ items, Leaves p l (f l a)) (l : Loop σ) : Leaves p l (items.foldl f l) :=
  List.foldlRecOn _ _ (.refl l) fun l' left a ha => left.trans (h l' a ha)

/-! ## Single steps -/

theorem later_leaves (l : Loop σ) (delay : Float) {r : Ready} (hr : p r) :
    Leaves p l (l.later delay r) :=
  ⟨rfl, rfl, rfl, fun h => ⟨h.current, h.next, h.schedule.add hr _⟩⟩

theorem push_leaves (l : Loop σ) {r : Ready} (hr : p r) : Leaves p l (l.push r) := by
  refine ⟨rfl, rfl, rfl, fun h => ⟨h.current, fun x hx => ?_, h.schedule⟩⟩
  rcases List.mem_append.mp hx with there | new
  · exact h.next x there
  · rw [List.mem_singleton.mp new]
    exact hr

section Plain

variable (plain : Ready.Plain p)

include plain

theorem adopt_leaves (l : Loop σ) {turn : Turn σ} (sends : ∀ d ∈ turn.deliveries, p (.deliver d)) :
    Leaves p l (l.adopt turn) := by
  have server : Leaves p l { l with server := turn.state } :=
    ⟨rfl, rfl, rfl, fun h => ⟨h.current, h.next, h.schedule⟩⟩
  have sent := server.trans (Leaves.foldl (fun l d hd => l.later_leaves d.delay (sends d hd)) _)
  unfold adopt
  simp only
  split
  · refine sent.trans ⟨rfl, rfl, rfl, fun h => ⟨h.current, h.next, ?_⟩⟩
    exact (h.schedule.stop _).add plain.serve _
  · exact sent

theorem hear_leaves (hears : serve.Hears p) (l : Loop σ) : Leaves p l (l.hear serve) := by
  have heard : Leaves p l { l with heard := l.session.transport.wire.sent.length } :=
    ⟨rfl, rfl, rfl, fun h => ⟨h.current, h.next, h.schedule⟩⟩
  exact heard.trans
    (Leaves.foldl (fun l message _ => l.adopt_leaves plain (hears _ _ message)) _)

theorem plain_of_readyFor? {id : Nat} {r : Ready} (h : l.readyFor? id = some r) : p r := by
  obtain ⟨⟨task, stage⟩, _, hr⟩ := List.exists_of_findSome?_eq_some h
  cases stage with
  | awaiting goal other method limit =>
    obtain ⟨_, e⟩ := Option.ite_none_right_eq_some.mp hr
    cases e
    split
    · exact plain.relay id
    · exact plain.resume task
  | expiring goal other failure =>
    obtain ⟨_, e⟩ := Option.ite_none_right_eq_some.mp hr
    cases e
    exact plain.relay id
  | _ => cases hr

theorem lineUp_leaves (l : Loop σ) (wake : Wake) : Leaves p l (l.lineUp wake) := by
  cases wake with
  | caller id =>
    rw [lineUp]
    cases he : l.readyFor? id with
    | none => exact .refl l
    | some r => exact l.push_leaves (plain_of_readyFor? plain he)
  | reader => exact l.push_leaves plain.read

/-- Who can go on is lined up, and no longer noted. -/
theorem flush_leaves (l : Loop σ) :
    Leaves p { l with session := { l.session with wakes := [] } } l.flush := by
  have lined : Leaves p l (l.session.wakes.foldl lineUp l) :=
    Leaves.foldl (fun l wake _ => lineUp_leaves plain l wake) l
  refine ⟨?_, lined.stages, lined.finished, fun h => ?_⟩
  · unfold flush
    simp only [lined.session]
  · have still := lined.all ⟨h.current, h.next, h.schedule⟩
    exact ⟨still.current, still.next, still.schedule⟩

theorem arm_leaves (l : Loop σ) (task : Nat) (stage : Stage) : Leaves p l (l.arm task stage) := by
  unfold arm
  split
  · exact l.later_leaves _ (plain.relay _)
  · exact ⟨rfl, rfl, rfl, fun h => ⟨h.current, h.next, h.schedule⟩⟩
  · exact .refl l

omit plain in
theorem disarm_leaves (l : Loop σ) (stage : Stage) : Leaves p l (l.disarm stage) := by
  unfold disarm
  split
  · exact ⟨rfl, rfl, rfl, fun h => ⟨h.current, h.next, h.schedule.stop _⟩⟩
  · exact .refl l

theorem release_leaves (l : Loop σ) (id : Nat) : Leaves p l (l.release id) := by
  unfold release
  split
  · have noted : Leaves p l { l with released := l.released ++ [id] } :=
      ⟨rfl, rfl, rfl, fun h => ⟨h.current, h.next, h.schedule⟩⟩
    exact noted.trans (push_leaves _ (plain.resume _))
  · exact .refl l

/-- What bookkeeping leaves, and with it who is noted, is left when these are lined up. -/
theorem Leaves.flush (h : Leaves p l l') :
    Leaves p { l with session := { l.session with wakes := [] } } l'.flush := by
  have flushed := flush_leaves plain l'
  refine ⟨?_, flushed.stages.trans h.stages, flushed.finished.trans h.finished, fun all => ?_⟩
  · rw [flushed.session, h.session]
  · have still := h.all ⟨all.current, all.next, all.schedule⟩
    exact flushed.all ⟨still.current, still.next, still.schedule⟩

end Plain

/-! ## Behind a call, the reader and a delivery -/

/-- The calls after one of them has gone on. -/
def stagesAfter (stages : List (Nat × Stage)) (task : Nat) : Progress → List (Nat × Stage)
  | .finished _ => stages.filter (·.1 ≠ task)
  | .waiting stage => stages.filter (·.1 ≠ task) ++ [(task, stage)]

/-- The outcomes of the calls that have ended, after one of them has gone on. -/
def finishedAfter (finished : List (Nat × Outcome)) (task : Nat) : Progress → List (Nat × Outcome)
  | .finished outcome => finished ++ [(task, outcome)]
  | .waiting _ => finished

section Plain

variable (plain : Ready.Plain p)

include plain

/-- **What a call has done is taken over**, and nothing else. -/
theorem record_leaves (hears : serve.Hears p) (l : Loop σ) (task : Nat)
    (r : Session × Progress) :
    Leaves p
      { l with
        session := { (Session.through 3 r).1 with wakes := [] }
        stages := stagesAfter l.stages task (Session.through 3 r).2
        finished := finishedAfter l.finished task (Session.through 3 r).2 }
      (l.record serve task r) := by
  unfold record
  generalize Session.through 3 r = r'
  obtain ⟨s, progress⟩ := r'
  let m : Loop σ := { l with session := s }
  cases progress with
  | finished outcome => exact (hear_leaves plain hears (m.finish task outcome)).flush plain
  | waiting stage =>
    have heard := hear_leaves plain hears (m.place task stage)
    exact (heard.trans (arm_leaves plain _ task stage)).flush plain

/-- Having read, the loop goes on with what the reader has left, and lets those go on who wait for
the reader to end. -/
theorem handle_read_leaves (hears : serve.Hears p) (l : Loop σ) :
    Leaves p { l with session := { l.session.read with wakes := [] } } (l.handle serve .read) := by
  have flushed := (hear_leaves plain hears { l with session := l.session.read }).flush plain
  unfold handle
  simp only
  split
  · have cleared (l : Loop σ) : Leaves p l { l with closers := [] } :=
      ⟨rfl, rfl, rfl, fun h => ⟨h.current, h.next, h.schedule⟩⟩
    refine (flushed.trans (cleared _)).trans (Leaves.foldl (fun l task _ => ?_) _)
    exact l.push_leaves (plain.resume task)
  · exact flushed

theorem receive_leaves (l : Loop σ) (d : Delivery) :
    Leaves p { l with session := (l.receive d).session } (l.receive d) := by
  have flushed (m : Loop σ) : Leaves p { m with session := m.flush.session } m.flush := by
    have left := flush_leaves plain m
    exact ⟨rfl, left.stages, left.finished,
      fun all => left.all ⟨all.current, all.next, all.schedule⟩⟩
  unfold receive
  exact flushed _

end Plain

end Loop

end ProbeBench
