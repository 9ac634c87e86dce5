import ProbeBench.Proofs.Loop.Tick
import ProbeBench.Proofs.Session.Noise
import ProbeBench.Proofs.Session.Reading

/-!
# The course of a loop

Every turn of a loop is a stretch of traffic on its session. So a whole call has a course: the
events that happen on the session while it is made and waited for, with their times (`courseOf`).

The loop stands where the traffic has come to (`Follows`), as long as no call begins besides the one
that is waited for (`Alone`).

* `follows_record`, `follows_handle`, `follows_tick`: what one turn does.
* `follows_await`, `perform_follows`: whole calls.
-/

namespace ProbeBench

/-- It begins no call. -/
def Ready.Continues : Ready → Prop
  | .begin .. => False
  | _ => True

theorem Ready.Harmless.continues {r : Ready} (h : r.Harmless) : r.Continues := by
  cases r with
  | begin => exact h
  | _ => trivial

theorem Ready.plain_continues : Ready.Plain Ready.Continues :=
  ⟨fun _ => trivial, fun _ => trivial, trivial, trivial⟩

theorem Server.hears_continues {σ : Type} (serve : Server σ) : serve.Hears Ready.Continues :=
  fun _ _ _ _ _ => trivial

namespace Loop

open Ready (plain_continues)

variable {σ : Type} {serve : Server σ} {l l' : Loop σ} {t : Traffic}

/-- Nothing that is ready, or will be, begins a call. -/
def Alone (l : Loop σ) : Prop := l.All Ready.Continues

theorem Harmless.alone (h : l.Harmless) : l.Alone where
  current r hr := (h.current r hr).continues
  next r hr := (h.next r hr).continues
  schedule t ht := (h.schedule t ht).continues

/-! ## Turns -/

/-- The traffic on the session of a loop. -/
def traffic (l : Loop σ) : Traffic :=
  { session := l.session, stage := l.stage?, finished := l.finished }

/-- The loop stands where the traffic has come to. -/
structure Follows (l : Loop σ) (t : Traffic) : Prop where
  session : t.session = l.session
  stage : t.stage = l.stage?
  finished : t.finished = l.finished

theorem traffic_follows (l : Loop σ) : l.Follows l.traffic := ⟨rfl, rfl, rfl⟩

theorem Leaves.follows {p : Ready → Prop} (h : Leaves p l l') (there : l.Follows t) :
    l'.Follows t := by
  refine ⟨there.session.trans h.session.symm, ?_, there.finished.trans h.finished.symm⟩
  rw [there.stage]
  funext k
  rw [stage?, stage?, h.stages]

theorem stage?_stagesAfter (l : Loop σ) (task : Nat) (p : Progress) :
    ({ l with stages := stagesAfter l.stages task p } : Loop σ).stage? =
      fun k => if k = task then p.stage? else l.stage? k := by
  funext k
  have others : (l.stages.filter (·.1 ≠ task)).find? (fun s => s.1 = k) =
      if k = task then none else l.stages.find? fun s => s.1 = k := by
    rw [List.find?_filter]
    split
    · rename_i same
      subst same
      simp
    · rename_i ne
      refine congrArg (l.stages.find? ·) (funext fun s => ?_)
      by_cases own : s.1 = k
      · simp [own, ne]
      · simp [own]
  cases p with
  | finished outcome =>
    rw [stage?, stagesAfter, others]
    split <;> rfl
  | waiting stage =>
    rw [stage?, stagesAfter, List.find?_append, others]
    split
    · rename_i same
      subst same
      simp [Progress.stage?]
    · rename_i ne
      simp [stage?, Ne.symm ne]

/-- **A call that moves** does what its events do. -/
theorem follows_record (serve : Server σ) (h : l.Follows t) {task : Nat} {e : Traffic.Event}
    {r : Session × Progress} (moves : t.move? e = some (task, r)) :
    (l.record serve task r).Follows (t.run (Session.moving task e r)) := by
  have moved := (Traffic.moved_step moves).through 3
  have left := record_leaves plain_continues serve.hears_continues l task r
  refine left.follows ?_
  rw [Session.moving, Traffic.run_cons, Traffic.run_append]
  generalize (t.step e).run _ = u at moved
  generalize Session.through 3 r = r' at moved
  obtain ⟨s, p⟩ := r'
  have session : u.session = s := moved.session
  refine ⟨?_, ?_, ?_⟩
  · show u.session.absorb (Session.stirring { s with wakes := [] }) = _
    rw [session]
    rfl
  · show u.stage = _
    rw [moved.stage, h.stage]
    exact (stage?_stagesAfter l task p).symm
  · show u.finished = _
    rw [moved.finished, h.finished]
    cases p with
    | finished outcome => rfl
    | waiting stage => exact List.append_nil _

/-- A call has not ended, or does not wait any more. -/
def Settled (l : Loop σ) (task : Nat) : Prop :=
  (l.finished.find? fun f => f.1 = task) = none ∨ l.stage? task = none

theorem Leaves.settled {p : Ready → Prop} {task : Nat} (h : Leaves p l l')
    (settled : l.Settled task) : l'.Settled task := by
  refine settled.imp (fun unended => ?_) fun gone => ?_
  · rw [h.finished]
    exact unended
  · rw [stage?, h.stages]
    exact gone

/-- What happens on the session when something goes on. -/
def doing (l : Loop σ) : Ready → List Traffic.Event
  | .begin task call => Session.moving task (.call task call) (l.session.begin call)
  | .resume task =>
    match l.stage? task with
    | some stage => Session.moving task (.goOn task) (l.session.resume stage)
    | none => []
  | .read => l.session.reading ++ [Session.stirring { l.session.read with wakes := [] }]
  | .deliver d => (d.breaks.map .breaks).toList ++ [(l.receive d).session.stirring]
  | .relay _ => []
  | .serve => []

/-- What happens on the session in the next turn. -/
def turn (l : Loop σ) : List Traffic.Event :=
  match l.current with
  | r :: rest => doing { l with current := rest } r
  | [] => []

/-- What comes in leads to the session that is left when it is absorbed. -/
theorem Follows.incoming (h : l.Follows t) {es : List Traffic.Event}
    (incoming : ∀ e ∈ es, e.IsIncoming) {s : Session}
    (absorbed : es.foldl Session.absorb l.session = s) :
    ({ l with session := s } : Loop σ).Follows (t.run es) := by
  rw [Traffic.run_incoming incoming]
  refine ⟨?_, h.stage, h.finished⟩
  show es.foldl Session.absorb t.session = s
  rw [h.session, absorbed]

/-- What arrives lies there, and breaks the stream to the server if it is to. -/
theorem receive_stirred (l : Loop σ) (d : Delivery) :
    ((d.breaks.map Traffic.Event.breaks).toList.foldl Session.absorb l.session).Stirred
      (l.receive d).session := by
  have lies (s : Session) :
      s.Stirred (if d.ends then (s.arrive d.octets).finish else s.arrive d.octets) := by
    split
    · exact (Session.arrive_stirred s _).trans (Session.finish_stirred _)
    · exact Session.arrive_stirred s _
  unfold receive
  simp only [(flush_leaves plain_continues _).session]
  cases d.breaks with
  | none =>
    have came := lies l.session
    cases d.fails with
    | none => exact came.trans rfl
    | some fault => exact (came.trans (Session.failReader_stirred _ fault)).trans rfl
  | some broken =>
    have came := lies { l.session with transport.wire.broken := some broken }
    cases d.fails with
    | none => exact came.trans rfl
    | some fault => exact (came.trans (Session.failReader_stirred _ fault)).trans rfl

/-- **What goes on does what its events do**, and begins no call. -/
theorem follows_handle (serve : Server σ) (alone : l.Alone) (h : l.Follows t) {r : Ready}
    (old : r.Continues) :
    (l.handle serve r).Alone ∧ (l.handle serve r).Follows (t.run (l.doing r)) := by
  cases r with
  | begin task call => cases old
  | relay id =>
    have left := l.release_leaves plain_continues id
    exact ⟨left.all alone, left.follows h⟩
  | serve =>
    have left : Leaves Ready.Continues l (l.adopt (serve.goOn l.server l.now)) :=
      l.adopt_leaves plain_continues fun _ _ => trivial
    exact ⟨left.all alone, left.follows h⟩
  | read =>
    have left := handle_read_leaves plain_continues serve.hears_continues l
    refine ⟨left.all ⟨alone.current, alone.next, alone.schedule⟩, left.follows ?_⟩
    refine h.incoming ?_ ?_
    · exact List.forall_mem_append.mpr
        ⟨l.session.reading_incoming, List.forall_mem_singleton.mpr trivial⟩
    · rw [doing, List.foldl_append, Session.read_eq]
      rfl
  | deliver d =>
    have left := l.receive_leaves plain_continues d
    refine ⟨left.all ⟨alone.current, alone.next, alone.schedule⟩, left.follows ?_⟩
    refine h.incoming ?_ ?_
    · refine List.forall_mem_append.mpr ⟨?_, List.forall_mem_singleton.mpr trivial⟩
      cases d.breaks with
      | none => exact fun e he => absurd he List.not_mem_nil
      | some fault => exact List.forall_mem_singleton.mpr trivial
    · rw [doing, List.foldl_append]
      exact receive_stirred l d
  | resume task =>
    cases there : l.stage? task with
    | none =>
      have rests : l.handle serve (.resume task) = l := by simp [handle, there]
      have nothing : l.doing (.resume task) = [] := by simp [doing, there]
      rw [rests, nothing]
      exact ⟨alone, h⟩
    | some stage =>
      have disarmed : Leaves Ready.Continues l (l.disarm stage) := l.disarm_leaves stage
      have moves : t.move? (.goOn task) = some (task, l.session.resume stage) := by
        rw [Traffic.move?, h.stage, there, h.session]
        rfl
      have resumed : l.handle serve (.resume task) =
          (l.disarm stage).record serve task (l.session.resume stage) := by
        simp [handle, there]
      have happens : l.doing (.resume task) =
          Session.moving task (.goOn task) (l.session.resume stage) := by
        simp [doing, there]
      have still := disarmed.all alone
      rw [resumed, happens]
      exact ⟨(record_leaves plain_continues serve.hears_continues _ task _).all
          ⟨still.current, still.next, still.schedule⟩,
        follows_record serve (disarmed.follows h) moves⟩

/-- **A turn does what its events do.** -/
theorem follows_tick (alone : l.Alone) (h : l.Follows t) (ticks : l.tick? serve = some l') :
    l'.Alone ∧ l'.Follows (t.run l.turn) := by
  rcases tick?_cases ticks with ⟨r, rest, hc, rfl⟩ | ⟨hc, rfl⟩
  · have mem : ∀ x ∈ r :: rest, x.Continues := hc ▸ alone.current
    let m : Loop σ := { l with current := rest }
    have still : m.Alone :=
      ⟨fun x hx => mem x (List.mem_cons_of_mem _ hx), alone.next, alone.schedule⟩
    have there : m.Follows t := ⟨h.session, h.stage, h.finished⟩
    have happens : l.turn = m.doing r := by rw [turn, hc]
    rw [happens]
    exact follows_handle serve still there (mem r List.mem_cons_self)
  · have nothing : l.turn = [] := by rw [turn, hc]
    have due := alone.schedule.tidy.take (isDueAt l.now)
    rw [nothing]
    refine ⟨⟨fun y hy => ?_, fun y hy => absurd hy List.not_mem_nil, due.2⟩,
      h.session, h.stage, h.finished⟩
    rcases List.mem_append.mp hy with next | now
    · exact alone.next y next
    · exact due.1 y now

theorem follows_jump (alone : l.Alone) (h : l.Follows t) (jumps : l.jump? = some l') :
    l'.Alone ∧ l'.Follows t := by
  obtain ⟨deadline, _, rfl⟩ := Option.map_eq_some_iff.mp jumps
  exact ⟨⟨alone.current, alone.next, alone.schedule⟩, h.session, h.stage, h.finished⟩

/-- **What every event keeps**, waiting for a call keeps. -/
theorem await_holds (serve : Server σ) {P : Session → Prop}
    (step : ∀ {t : Traffic} {events : List Traffic.Event}, P t.session → P (t.run events).session)
    (alone : l.Alone) (h : P l.session) (task fuel : Nat) :
    (l.await serve task fuel).1.Alone ∧ P (l.await serve task fuel).1.session := by
  refine await_keeps (P := fun l' => l'.Alone ∧ P l'.session) ?_ ?_ ?_ ⟨alone, h⟩ task fuel
  · intro m l' ⟨alone, h⟩ ticks
    obtain ⟨still, there⟩ := follows_tick alone m.traffic_follows ticks
    refine ⟨still, ?_⟩
    rw [← there.session]
    exact step (t := m.traffic) h
  · intro m l' ⟨alone, h⟩ jumps
    obtain ⟨still, there⟩ := follows_jump alone m.traffic_follows jumps
    exact ⟨still, there.session ▸ h⟩
  · intro m _ ⟨alone, h⟩
    exact ⟨⟨alone.current, alone.next, alone.schedule⟩, h⟩

/-- What a call leaves of the session. -/
theorem session_record (serve : Server σ) (l : Loop σ) (task : Nat) (r : Session × Progress) :
    (l.record serve task r).session = { (Session.through 3 r).1 with wakes := [] } :=
  (record_leaves plain_continues serve.hears_continues l task r).session

theorem record_alone (serve : Server σ) (alone : l.Alone) (task : Nat) (r : Session × Progress) :
    (l.record serve task r).Alone :=
  (record_leaves plain_continues serve.hears_continues l task r).all
    ⟨alone.current, alone.next, alone.schedule⟩

/-- What every move of a call keeps, its beginning keeps. -/
theorem begin_holds (serve : Server σ) {P : Session → Prop}
    (moves : ∀ {s : Session} {own : Option Nat} {r : Session × Progress},
      Moves s own r → P s → P r.1)
    (hush : ∀ {s : Session}, P s → P { s with wakes := [] }) (h : P l.session) (task : Nat)
    (call : Call) : P (l.record serve task (l.session.begin call)).session := by
  rw [session_record]
  exact hush (Session.through_keeps (fun h stage => moves (Session.resume_moves _ stage) h) 3
    (moves (Session.begin_moves l.session call) h))

/-- **What moves and events keep**, a whole call keeps, however it ends. -/
theorem perform_holds (serve : Server σ) {P : Session → Prop}
    (moves : ∀ {s : Session} {own : Option Nat} {r : Session × Progress},
      Moves s own r → P s → P r.1)
    (hush : ∀ {s : Session}, P s → P { s with wakes := [] })
    (step : ∀ {t : Traffic} {events : List Traffic.Event}, P t.session → P (t.run events).session)
    (alone : l.Alone) (h : P l.session) (call : Call) :
    (l.perform serve call).1.Alone ∧ P (l.perform serve call).1.session :=
  await_holds serve step (record_alone serve alone 0 (l.session.begin call))
    (begin_holds serve moves hush h 0 call) 0 _

/-- The events of a turn, at the time it takes place. -/
def dated (l : Loop σ) (events : List Traffic.Event) : List Traffic.Occasion :=
  events.map fun event => { time := l.now, event }

/-- What happens on the session while a call is waited for, in at most `fuel` turns. -/
def course (serve : Server σ) (task : Nat) : Nat → Loop σ → List Traffic.Occasion
  | 0, _ => []
  | fuel + 1, l =>
    match l.finished.find? fun f => f.1 = task with
    | some _ => []
    | none =>
      match l.tick? serve with
      | some next => l.dated l.turn ++ course serve task fuel next
      | none =>
        match l.jump? with
        | some next => course serve task fuel next
        | none => []

/-- What happens on the session while a call is made and waited for. -/
def courseOf (serve : Server σ) (l : Loop σ) (call : Call) : List Traffic.Occasion :=
  let begun := l.record serve 0 (l.session.begin call)
  l.dated (Session.moving 0 (.call 0 call) (l.session.begin call)) ++
    begun.course serve 0 begun.budget

/-- No call is open, has ended or is to begin. -/
structure Free (l : Loop σ) : Prop where
  alone : l.Alone
  idle : l.stage? 0 = none
  unended : (l.finished.find? fun f => f.1 = 0) = none

end Loop

end ProbeBench
