import ProbeBench.Proofs.Session.Traffic
import ProbeBench.Session.Loop

/-!
# What happens on a session, event by event

A reader that goes on does many things at once: it takes octets out of the inbox, handles one item
after the other, and finds that more may come or that the stream has ended. So does a call that goes
on as long as it waits for nothing but the stream. Both are stretches of traffic.

* `Stirred`: nothing has happened but that octets lie elsewhere and somebody can go on.
* `reading`, `read_eq`: what a reader does.
* `moving`, `Moved.through`: what a call does.
-/

namespace ProbeBench

namespace Session

/-! ## Readers -/

/-- The event that leaves octets, reader and those who can go on as they are in a session. -/
def stirring (s : Session) : Traffic.Event :=
  .stir s.transport.inbox s.transport.decoder s.reader s.wakes

/-- Nothing but octets, reader and those who can go on is different. -/
def Stirred (s s' : Session) : Prop := s.absorb s'.stirring = s'

theorem Stirred.trans {s s' s'' : Session} (h : s.Stirred s') (h' : s'.Stirred s'') :
    s.Stirred s'' := by
  have first : s.absorb s'.stirring = s' := h
  have last : (s.absorb s'.stirring).absorb s''.stirring = s'' := by
    rw [first]
    exact h'
  exact last

theorem Stirred.same {s s' : Session} (h : s.Stirred s') : SameTable s s' := by
  have stirred : SameTable s (s.absorb s'.stirring) := absorb_plain nofun nofun nofun
  have there : s.absorb s'.stirring = s' := h
  exact there ▸ stirred

theorem Stirred.wire {s s' : Session} (h : s.Stirred s') :
    s'.transport.wire = s.transport.wire := by
  have there : s.absorb s'.stirring = s' := h
  rw [← there]
  rfl

theorem wakeReader_stirred (s : Session) : s.Stirred s.wakeReader := by
  unfold wakeReader
  split <;> rfl

/-- Only a reader that waits is let go on. -/
theorem reader_wakeReader (s : Session) :
    s.wakeReader.reader = s.reader ∨ s.reader = .waiting ∧ s.wakeReader.reader = .woken := by
  unfold wakeReader
  split
  · rename_i waits
    exact .inr ⟨waits, rfl⟩
  · exact .inl rfl

/-- Octets that arrive only lie there until they are read. -/
theorem arrive_stirred (s : Session) (octets : List UInt8) : s.Stirred (s.arrive octets) := by
  unfold arrive
  split
  · rfl
  · refine Stirred.trans ?_ (wakeReader_stirred _)
    unfold Transport.arrive
    split <;> rfl

theorem reader_arrive (s : Session) (octets : List UInt8) :
    (s.arrive octets).reader = s.reader ∨
      s.reader = .waiting ∧ (s.arrive octets).reader = .woken := by
  unfold arrive
  split
  · exact .inl rfl
  · exact reader_wakeReader { s with transport := s.transport.arrive octets }

theorem finish_stirred (s : Session) : s.Stirred s.finish := by
  have ended : s.Stirred { s with transport := s.transport.finish } := rfl
  exact ended.trans (wakeReader_stirred _)

theorem failReader_stirred (s : Session) (fault : StreamFault) :
    s.Stirred (s.failReader fault) := by
  have failed : s.Stirred { s with transport := s.transport.fail fault } := rfl
  exact failed.trans (wakeReader_stirred _)

/-- Items that a reader handles in order, up to the first that stops it. -/
def handling (s : Session) : List Frame.Item → List Traffic.Event
  | [] => []
  | .fault fault :: rest => .garbled fault :: handling (s.absorb (.garbled fault)) rest
  | .message message :: rest =>
    .receive message ::
      match s.dispatch message with
      | (s, none) => handling s rest
      | (_, some _) => []

/-- What happens when the reader goes on. -/
def reading (s : Session) : List Traffic.Event :=
  match s.reader with
  | .cancelled => [.quit]
  | .woken =>
    let (items, transport, status) := s.transport.pull
    let pulled := { s with transport }
    pulled.stirring :: pulled.handling items ++
      match pulled.takeIn items with
      | (_, some _) => []
      | (s, none) =>
        match status with
        | .waiting => [stirring { s with reader := .waiting }]
        | .ended => [.finish]
        | .failed fault => [.fail fault]
  | _ => []

theorem absorb_handling (items : List Frame.Item) (s : Session) :
    (s.handling items).foldl absorb s =
      match s.takeIn items with
      | (s, none) => s
      | (s, some fault) => (s.lose (.lost (lossOf fault))).endReader := by
  induction items generalizing s with
  | nil => rfl
  | cons item rest ih =>
    cases item with
    | fault fault => exact ih _
    | message message =>
      rcases handled : s.dispatch message with ⟨v, _ | fault⟩
      · simp only [handling, takeIn, List.foldl_cons, absorb, handled]
        exact ih v
      · simp only [handling, takeIn, List.foldl_cons, absorb, handled]
        rfl

/-- Reading takes octets out of the inbox and changes nothing else of the streams. -/
theorem pull_eq (t : Transport) :
    t.pull.2.1 = { t with inbox := t.pull.2.1.inbox, decoder := t.pull.2.1.decoder } := by
  unfold Transport.pull
  split
  · rfl
  · split
    · rfl
    · simp only
      split <;> rfl
    · split <;> rfl

end Session

/-- It comes from the server: no call moves with it. -/
def Traffic.Event.IsIncoming : Traffic.Event → Prop
  | .call .. => False
  | .goOn _ => False
  | .expire _ => False
  | .unwritten .. => False
  | _ => True

theorem Traffic.move?_of_incoming {e : Traffic.Event} (h : e.IsIncoming) (t : Traffic) :
    t.move? e = none := by
  cases e with
  | call task call => cases h
  | goOn task => cases h
  | expire task => cases h
  | unwritten task fault => cases h
  | _ => rfl

/-- What comes in is absorbed, one event after the other. -/
theorem Traffic.run_incoming {es : List Traffic.Event} (incoming : ∀ e ∈ es, e.IsIncoming)
    (t : Traffic) : t.run es = { t with session := es.foldl Session.absorb t.session } := by
  induction es generalizing t with
  | nil => rfl
  | cons e rest ih =>
    have still := move?_of_incoming (incoming e List.mem_cons_self) t
    rw [run_cons, step_of_none still, ih fun e' he' => incoming e' (List.mem_cons_of_mem _ he')]
    rfl

namespace Session

theorem handling_incoming (items : List Frame.Item) (s : Session) :
    ∀ e ∈ s.handling items, e.IsIncoming := by
  induction items generalizing s with
  | nil => exact fun e he => absurd he List.not_mem_nil
  | cons item rest ih =>
    cases item with
    | fault fault => exact List.forall_mem_cons.mpr ⟨trivial, ih _⟩
    | message message =>
      refine List.forall_mem_cons.mpr ⟨trivial, ?_⟩
      split
      · exact ih _
      · exact fun e he => absurd he List.not_mem_nil

theorem reading_incoming (s : Session) : ∀ e ∈ s.reading, e.IsIncoming := by
  unfold reading
  split
  · exact List.forall_mem_singleton.mpr trivial
  · refine List.forall_mem_append.mpr
      ⟨List.forall_mem_cons.mpr ⟨trivial, handling_incoming _ _⟩, ?_⟩
    split
    · exact fun e he => absurd he List.not_mem_nil
    · split <;> exact List.forall_mem_singleton.mpr trivial
  · exact fun e he => absurd he List.not_mem_nil

/-- **A reader does what its events do.** -/
theorem read_eq (s : Session) : s.reading.foldl absorb s = s.read := by
  cases goes : s.reader with
  | woken =>
    have moved := pull_eq s.transport
    simp only [reading, read, goes]
    generalize s.transport.pull = pulled at moved
    obtain ⟨items, transport, status⟩ := pulled
    have stirred : s.absorb (stirring { s with transport }) = { s with transport } := by
      rw [stirring, absorb, ← moved]
    have handled := absorb_handling items { s with transport }
    rw [goes] at stirred handled
    simp only [List.cons_append, List.foldl_cons, List.foldl_append, stirred, handled]
    split
    · rename_i taken
      rw [taken]
      cases status <;> rfl
    · rename_i taken
      rw [taken]
      rfl
  | _ =>
    simp only [reading, read, goes]
    rfl

/-! ## Calls -/

/-- How often a call goes on at once because it waits for nothing but the stream. -/
def strides : Nat → Session × Progress → Nat
  | 0, _ => 0
  | fuel + 1, r =>
    match r.2 with
    | .finished _ => 0
    | .waiting stage => if stage.isForStream then strides fuel (r.1.resume stage) + 1 else 0

/-- What happens when a call moves with an event and comes to `r`. -/
def moving (task : Nat) (e : Traffic.Event) (r : Session × Progress) : List Traffic.Event :=
  e :: (List.replicate (strides 3 r) (.goOn task) ++
    [stirring { (through 3 r).1 with wakes := [] }])

end Session

namespace Traffic

/-- A call has just moved and come to `r`, among others that are at their stages. -/
structure Moved (t : Traffic) (stage : Nat → Option Stage) (finished : List (Nat × Outcome))
    (task : Nat) (r : Session × Progress) : Prop where
  session : t.session = r.1
  stage : t.stage = fun k => if k = task then r.2.stage? else stage k
  finished : t.finished = finished ++ (r.2.outcome?.map (task, ·)).toList

variable {t : Traffic} {stage : Nat → Option Stage} {finished : List (Nat × Outcome)} {task : Nat}
  {r : Session × Progress}

theorem moved_step {e : Traffic.Event} (h : t.move? e = some (task, r)) :
    (t.step e).Moved t.stage t.finished task r := by
  rw [step_of_move h]
  exact ⟨rfl, rfl, rfl⟩

theorem Moved.goOn {s : Session} {at_ : Stage} (h : t.Moved stage finished task (s, .waiting at_)) :
    (t.step (.goOn task)).Moved stage finished task (s.resume at_) := by
  have there : t.stage task = some at_ := by
    rw [h.stage]
    exact if_pos rfl
  have moves : t.move? (.goOn task) = some (task, s.resume at_) := by
    rw [move?, there, h.session]
    rfl
  rw [step_of_move moves]
  refine ⟨rfl, ?_, ?_⟩
  · funext k
    simp only [h.stage]
    split <;> rfl
  · simp only [h.finished]
    rw [List.append_assoc]
    rfl

/-- **A call goes on as long as it waits for nothing but the stream.** -/
theorem Moved.through (fuel : Nat) (h : t.Moved stage finished task r) :
    (t.run (List.replicate (Session.strides fuel r) (.goOn task))).Moved stage finished task
      (Session.through fuel r) := by
  induction fuel generalizing t r with
  | zero => exact h
  | succ fuel ih =>
    obtain ⟨s, p⟩ := r
    cases p with
    | finished outcome => exact h
    | waiting at_ =>
      by_cases streams : at_.isForStream
      · simp only [Session.strides, Session.through, streams, if_true, List.replicate_succ,
          run_cons]
        exact ih h.goOn
      · simp only [Session.strides, Session.through, streams]
        exact h

end Traffic

end ProbeBench
