import ProbeBench.Proofs.Loop.Bookkeeping

/-!
# What one turn of a loop does

Behind a server that neither breaks nor ends a stream (`Server.Steady`), and with no calls lined up,
a loop is `Harmless`, and stays so. Then a turn does one of a few things to the session and its
calls, which `Went` lists: nothing, the reader reads, octets arrive, or a call goes on.

* `Keeps`: what the bookkeeping between loop and server leaves as it is.
* `record_keeps`: what taking over the work of a call does.
* `tick?_cases`, `tick_went`: what a turn does.
* `await_keeps`: what all turns keep.
-/

namespace ProbeBench

/-- What arrives are octets, and they are not the last ones. -/
def Delivery.Harmless (d : Delivery) : Prop := d.breaks = none ∧ d.ends = false ∧ d.fails = none

/-- Whatever the server does, it keeps both streams up. -/
structure Server.Steady {σ : Type} (serve : Server σ) : Prop where
  hear : ∀ s now message, ∀ d ∈ (serve.hear s now message).deliveries, d.Harmless
  goOn : ∀ s now, ∀ d ∈ (serve.goOn s now).deliveries, d.Harmless

/-- It begins no call and harms no stream. -/
def Ready.Harmless : Ready → Prop
  | .begin .. => False
  | .deliver d => d.Harmless
  | _ => True

/-- The same session, but for who is to go on. -/
def Session.SameButWakes (s s' : Session) : Prop :=
  { s' with wakes := [] } = { s with wakes := [] }

theorem Session.SameButWakes.nextId {s s' : Session} (h : s.SameButWakes s') :
    s'.nextId = s.nextId := by
  have e : { s' with wakes := [] } = { s with wakes := [] } := h
  have nextId := congrArg Session.nextId e
  exact nextId

/-- What a call keeps whenever it goes on, it keeps as long as it waits for the stream. -/
theorem Session.through_keeps {P : Session → Prop}
    (resume : ∀ {s}, P s → ∀ stage, P (s.resume stage).1) (fuel : Nat) {r : Session × Progress}
    (h : P r.1) : P (through fuel r).1 := by
  induction fuel generalizing r with
  | zero => exact h
  | succ fuel ih =>
    unfold through
    split
    · exact h
    · split
      · exact ih (resume h _)
      · exact h

namespace Loop

variable {σ : Type} {serve : Server σ}

/-- Nothing that is ready, or will be, begins a call or harms a stream. -/
structure Harmless (l : Loop σ) : Prop where
  current : ∀ r ∈ l.current, r.Harmless
  next : ∀ r ∈ l.next, r.Harmless
  schedule : l.schedule.All Ready.Harmless

/-- Nothing has happened to the session and its calls. -/
structure Keeps (l l' : Loop σ) : Prop where
  session : l.session.SameButWakes l'.session
  stages : l'.stages = l.stages
  finished : l'.finished = l.finished
  harmless : l.Harmless → l'.Harmless

theorem Keeps.refl (l : Loop σ) : Keeps l l := ⟨rfl, rfl, rfl, id⟩

theorem Keeps.trans {l m n : Loop σ} (h : Keeps l m) (h' : Keeps m n) : Keeps l n :=
  ⟨h'.session.trans h.session, h'.stages.trans h.stages, h'.finished.trans h.finished,
    h'.harmless ∘ h.harmless⟩

/-! ## Bookkeeping -/

theorem plain_harmless : Ready.Plain Ready.Harmless :=
  ⟨fun _ => trivial, fun _ => trivial, trivial, trivial⟩

theorem Harmless.all {l : Loop σ} (h : l.Harmless) : l.All Ready.Harmless :=
  ⟨h.current, h.next, h.schedule⟩

/-- What bookkeeping leaves, but for who is noted, it keeps. -/
theorem Leaves.keeps {l l' : Loop σ}
    (h : Leaves Ready.Harmless { l with session := { l.session with wakes := [] } } l') :
    Keeps l l' := by
  refine ⟨?_, h.stages, h.finished, fun harmless => ?_⟩
  · rw [Session.SameButWakes, h.session]
  · have still := h.all ⟨harmless.current, harmless.next, harmless.schedule⟩
    exact ⟨still.current, still.next, still.schedule⟩

/-- What bookkeeping leaves, it keeps. -/
theorem Leaves.keeps_all {l l' : Loop σ} (h : Leaves Ready.Harmless l l') : Keeps l l' := by
  refine ⟨by rw [Session.SameButWakes, h.session], h.stages, h.finished, fun harmless => ?_⟩
  have still := h.all harmless.all
  exact ⟨still.current, still.next, still.schedule⟩

theorem adopt_keeps (l : Loop σ) {t : Turn σ} (steady : ∀ d ∈ t.deliveries, d.Harmless) :
    Keeps l (l.adopt t) :=
  (l.adopt_leaves plain_harmless steady).keeps_all

theorem flush_keeps (l : Loop σ) : Keeps l l.flush :=
  (l.flush_leaves plain_harmless).keeps

/-- What a turn does to the session, the calls that wait and the outcomes of the others. -/
inductive Went (l : Loop σ) : Session → List (Nat × Stage) → List (Nat × Outcome) → Prop
  | still : Went l l.session l.stages l.finished
  | read : Went l l.session.read l.stages l.finished
  | arrive (octets : List UInt8) : Went l (l.session.arrive octets) l.stages l.finished
  | goOn {task : Nat} {stage : Stage} (there : l.stage? task = some stage) {s : Session}
      {p : Progress} (goes : Session.through 3 (l.session.resume stage) = (s, p)) :
      Went l s (stagesAfter l.stages task p) (finishedAfter l.finished task p)

theorem Keeps.went {l l' : Loop σ} (h : Keeps l l') (harmless : l.Harmless) :
    l'.Harmless ∧ ∃ s, Went l s l'.stages l'.finished ∧ s.SameButWakes l'.session :=
  ⟨h.harmless harmless, l.session, h.stages ▸ h.finished ▸ .still, h.session⟩

/-- What comes in lies there, and whoever waits for it is lined up. -/
theorem receive_eq {P : Session → Prop} (l : Loop σ) (d : Delivery) (before : P l.session)
    (breaks : ∀ s fault, P s → P { s with transport.wire.broken := some fault })
    (arrive : ∀ s octets, P s → P (s.arrive octets)) (finish : ∀ s, P s → P s.finish)
    (fail : ∀ s fault, P s → P (s.failReader fault)) :
    ∃ s, P s ∧ l.receive d = ({ l with session := s } : Loop σ).flush := by
  refine ⟨_, ?_, rfl⟩
  have lies (s : Session) (h : P s) : P (if d.ends then s.finish else s) := by
    split
    · exact finish _ h
    · exact h
  split
  · refine fail _ _ (lies _ (arrive _ _ ?_))
    split
    · exact breaks _ _ before
    · exact before
  · refine lies _ (arrive _ _ ?_)
    split
    · exact breaks _ _ before
    · exact before

/-- Octets arrive. -/
theorem receive_of_harmless (l : Loop σ) {d : Delivery} (hd : d.Harmless) :
    l.receive d = ({ l with session := l.session.arrive d.octets } : Loop σ).flush := by
  simp [receive, hd.1, hd.2.1, hd.2.2]

/-- A turn lets what is first in the round go on, or begins the next round. -/
theorem tick?_cases {l l' : Loop σ} (h : l.tick? serve = some l') :
    (∃ r rest, l.current = r :: rest ∧ l' = handle serve { l with current := rest } r) ∨
      l.current = [] ∧ l' =
        { l with
          current := l.next ++ (l.schedule.tidy.take (isDueAt l.now)).1
          next := []
          schedule := (l.schedule.tidy.take (isDueAt l.now)).2 } := by
  unfold tick? at h
  split at h
  · rename_i r rest hc
    cases h
    exact .inl ⟨r, rest, hc, rfl⟩
  · rename_i hc
    refine .inr ⟨hc, ?_⟩
    generalize l.schedule.tidy.take (isDueAt l.now) = taken at h ⊢
    cases he : l.next ++ taken.1 with
    | nil =>
      simp only [he] at h
      cases h
    | cons x more =>
      simp only [he] at h
      cases h
      rfl

/-- Where nothing is ready, nothing is lined up. -/
theorem tick?_none {l : Loop σ} (h : l.tick? serve = none) : l.current = [] ∧ l.next = [] := by
  unfold tick? at h
  split at h
  · cases h
  · rename_i hc
    generalize l.schedule.tidy.take (isDueAt l.now) = taken at h
    cases he : l.next ++ taken.1 with
    | nil => exact ⟨hc, (List.append_eq_nil_iff.mp he).1⟩
    | cons x more =>
      simp only [he] at h
      cases h

theorem jump_keeps {l l' : Loop σ} (h : l.jump? = some l') : Keeps l l' := by
  obtain ⟨deadline, _, rfl⟩ := Option.map_eq_some_iff.mp h
  exact ⟨rfl, rfl, rfl, fun h => ⟨h.current, h.next, h.schedule⟩⟩

/-- **What is kept from turn to turn is kept while a call is waited for.** -/
theorem await_keeps {P : Loop σ → Prop} (tick : ∀ {l l'}, P l → l.tick? serve = some l' → P l')
    (jump : ∀ {l l'}, P l → l.jump? = some l' → P l')
    (taken : ∀ {l} finished, P l → P { l with finished }) {l : Loop σ} (h : P l)
    (task fuel : Nat) : P (l.await serve task fuel).1 := by
  induction fuel generalizing l with
  | zero =>
    rw [await]
    split
    · exact taken _ h
    · exact h
  | succ fuel ih =>
    rw [await]
    split
    · exact taken _ h
    · split
      · rename_i ht
        exact ih (tick h ht)
      · split
        · rename_i hj
          exact ih (jump h hj)
        · exact h

end Loop

end ProbeBench
