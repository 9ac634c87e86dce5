import ProbeBench.Proofs.Loop.Course
import ProbeBench.Proofs.Session.Releasing

/-!
# What a loop releases

Behind any server, whatever calls are made and however they end, a loop keeps its session tidy
(`Loop.Tidy`): its stream has been released once if it is closed, and not at all if it is open.

* `await_holds`: what every event on the session keeps, waiting keeps.
* `perform_tidy`, `close_tidy`, `abandon_tidy`: the invariant.
* `perform_shutdown_released`, `close_released`: what releases everything.
-/

namespace ProbeBench.Loop

open Ready (plain_continues)

variable {σ : Type} {serve : Server σ} {l l' : Loop σ}

/-- No call is to begin, call 0 has not ended, and the session is tidy. -/
structure Tidy (l : Loop σ) : Prop where
  alone : l.Alone
  unended : (l.finished.find? fun f => f.1 = 0) = none
  session : l.session.Tidy

/-- The session may be exchanged for another tidy one. -/
theorem Tidy.exchange (h : l.Tidy) {s : Session} (tidy : s.Tidy) :
    ({ l with session := s } : Loop σ).Tidy :=
  ⟨⟨h.alone.current, h.alone.next, h.alone.schedule⟩, h.unended, tidy⟩

/-! ## Turns -/

/-- Whoever has waited for a call has taken its outcome, if it has ended. -/
theorem await_unended (serve : Server σ) (l : Loop σ) (task fuel : Nat) :
    ((l.await serve task fuel).1.finished.find? fun f => f.1 = task) = none := by
  have taken (l : Loop σ) :
      ((l.finished.filter (·.1 ≠ task)).find? fun f => f.1 = task) = none := by
    rw [List.find?_filter]
    simp
  induction fuel generalizing l with
  | zero =>
    rw [await]
    split
    · exact taken l
    · assumption
  | succ fuel ih =>
    rw [await]
    split
    · exact taken l
    · rename_i unended
      split
      · exact ih _
      · split
        · exact ih _
        · exact unended

theorem awaitWithin_holds (serve : Server σ) {P : Session → Prop}
    (step : ∀ {t : Traffic} {events : List Traffic.Event}, P t.session → P (t.run events).session)
    (alone : l.Alone) (h : P l.session) (task rounds : Nat) :
    (l.awaitWithin serve task rounds).1.Alone ∧ P (l.awaitWithin serve task rounds).1.session := by
  induction rounds generalizing l with
  | zero =>
    rw [awaitWithin]
    exact await_holds serve step alone h task 0
  | succ rounds ih =>
    obtain ⟨alone', h'⟩ := await_holds serve step alone h task (l.current.length + 1)
    rw [awaitWithin]
    split
    · rename_i he
      rw [he] at alone' h'
      exact ih alone' h'
    · exact ⟨alone', h'⟩

theorem awaitWithin_unended (serve : Server σ) (l : Loop σ) (task rounds : Nat) :
    ((l.awaitWithin serve task rounds).1.finished.find? fun f => f.1 = task) = none := by
  induction rounds generalizing l with
  | zero =>
    rw [awaitWithin]
    exact await_unended serve l task 0
  | succ rounds ih =>
    rw [awaitWithin]
    split
    · exact ih _
    · exact await_unended serve l task _

/-! ## Calls -/

theorem begin_tidy (serve : Server σ) (h : l.session.Tidy) (task : Nat) (call : Call) :
    (l.record serve task (l.session.begin call)).session.Tidy :=
  begin_holds serve (fun moves tidy => moves.tidy tidy) (fun h => h.hush) h task call

/-- **Whatever call is made**, and however it ends. -/
theorem perform_tidy (serve : Server σ) (h : l.Tidy) (call : Call) :
    (l.perform serve call).1.Tidy := by
  obtain ⟨alone, tidy⟩ := perform_holds serve (fun moves tidy => moves.tidy tidy) (fun h => h.hush)
    (fun h => Traffic.tidy_run h _) h.alone h.session call
  exact ⟨alone, await_unended serve _ 0 _, tidy⟩

theorem close_tidy (serve : Server σ) (h : l.Tidy) : (l.close serve).1.Tidy := by
  have alone := record_alone serve h.alone 0 (l.session.begin .close)
  have tidy : (l.record serve 0 (l.session.begin .close)).session.Tidy :=
    begin_tidy serve h.session 0 .close
  unfold close
  generalize l.record serve 0 (l.session.begin .close) = begun at alone tidy
  obtain ⟨alone', tidy'⟩ := awaitWithin_holds serve (fun h => Traffic.tidy_run h _) alone tidy 0 3
  exact ⟨alone', awaitWithin_unended serve begun 0 3, tidy'⟩

theorem abandon_tidy (h : l.Tidy) (task : Nat) : (l.abandon task).Tidy := by
  unfold abandon
  split
  · rename_i stage _
    have disarmed : Leaves Ready.Continues l (l.disarm stage) := l.disarm_leaves stage
    have alone := disarmed.all h.alone
    have unended : ((l.disarm stage).finished.find? fun f => f.1 = 0) = none :=
      disarmed.finished ▸ h.unended
    have session : (l.disarm stage).session.Tidy := disarmed.session ▸ h.session
    simp only
    split
    · exact ⟨⟨alone.current, alone.next, alone.schedule⟩, unended, session.forget _⟩
    · exact ⟨⟨alone.current, alone.next, alone.schedule⟩, unended, session⟩
  · exact h

/-! ## What releases everything -/

/-- A session that begins to close has closed its stream at once. -/
theorem closed_begin_close (s : Session) :
    (s.begin .close).1.transport.wire.closed = true := by
  show (s.close _).1.transport.wire.closed = true
  unfold Session.close
  simp only
  split
  · rename_i closed
    exact (Session.release_moves s.shut _ _).closed closed
  · exact Wire.closed_close _

/-- **Closing releases everything**, however long it is waited for. -/
theorem close_released (serve : Server σ) (h : l.Tidy) : (l.close serve).1.session.Released := by
  refine (close_tidy serve h).session.released ?_
  have stays {t : Traffic} {events : List Traffic.Event}
      (closed : t.session.transport.wire.closed = true) :
      (t.run events).session.transport.wire.closed = true := by
    cases open_ : (t.run events).session.transport.wire.closed with
    | true => rfl
    | false =>
      rw [Traffic.open_of_run open_] at closed
      cases closed
  have alone := record_alone serve h.alone 0 (l.session.begin .close)
  have closed :
      (l.record serve 0 (l.session.begin .close)).session.transport.wire.closed = true := by
    rw [session_record]
    exact Session.through_keeps (P := fun s => s.transport.wire.closed = true)
      (fun closed stage => (Session.resume_moves _ stage).closed closed) 3
      (closed_begin_close l.session)
  unfold close
  generalize l.record serve 0 (l.session.begin .close) = begun at alone closed
  exact (awaitWithin_holds serve (P := fun s => s.transport.wire.closed = true) stays alone closed
    0 3).2

/-- No call begins with what goes on. -/
theorem doing_begins_nothing (l : Loop σ) {r : Ready} (old : r.Continues) :
    ∀ e ∈ l.doing r, ∀ task call, e ≠ .call task call := by
  have absorbed {events : List Traffic.Event} (incoming : ∀ e ∈ events, e.IsIncoming) :
      ∀ e ∈ events, ∀ task call, e ≠ .call task call := fun e he task call same => by
    subst same
    exact incoming _ he
  cases r with
  | begin task call => cases old
  | relay id => exact absorbed fun _ he => absurd he List.not_mem_nil
  | serve => exact absorbed fun _ he => absurd he List.not_mem_nil
  | read =>
    rw [doing]
    exact absorbed (List.forall_mem_append.mpr
      ⟨l.session.reading_incoming, List.forall_mem_singleton.mpr trivial⟩)
  | deliver d =>
    rw [doing]
    refine absorbed (List.forall_mem_append.mpr ⟨?_, List.forall_mem_singleton.mpr trivial⟩)
    cases d.breaks with
    | none => exact fun e he => absurd he List.not_mem_nil
    | some fault => exact List.forall_mem_singleton.mpr trivial
  | resume task =>
    rw [doing]
    split
    · rw [Session.moving]
      intro e he
      rcases List.mem_cons.mp he with rfl | later
      · exact fun _ _ => Traffic.Event.noConfusion
      · rcases List.mem_append.mp later with again | last
        · rw [List.eq_of_mem_replicate again]
          exact fun _ _ => Traffic.Event.noConfusion
        · rw [List.mem_singleton.mp last]
          exact fun _ _ => Traffic.Event.noConfusion
    · exact absorbed fun _ he => absurd he List.not_mem_nil

theorem turn_begins_nothing (alone : l.Alone) :
    ∀ e ∈ l.turn, ∀ task call, e ≠ .call task call := by
  unfold turn
  split
  · rename_i r rest hc
    exact doing_begins_nothing _ (alone.current r (hc ▸ List.mem_cons_self))
  · exact fun _ he => absurd he List.not_mem_nil

/-- Only what the traffic shows matters. -/
theorem Follows.departing {t : Traffic} {n : Nat} (there : l.Follows t) (h : t.Departing 0 n) :
    l.traffic.Departing 0 n := by
  obtain ⟨session, stage, answers, finished⟩ := t
  obtain ⟨rfl, rfl, rfl⟩ := there
  exact ⟨h.tidy, h.place, h.released⟩

/-- **Who waits for a shutdown** finds everything released when it ends without a failure. -/
theorem await_released {n : Nat} (alone : l.Alone) (h : l.traffic.Departing 0 n) {fuel : Nat}
    {o : Outcome} (ended : l.await serve 0 fuel = (l', some o)) (ok : o.isOk = true) :
    l'.session.Released := by
  have taken {k : Nat} {o' : Outcome} {l : Loop σ} (h : l.traffic.Departing 0 n)
      (found : l.finished.find? (fun f => f.1 = 0) = some (k, o')) (ok : o'.isOk = true) :
      l.session.Released := by
    have zero : k = 0 := by simpa using List.find?_some found
    subst zero
    exact h.released o' (List.mem_of_find?_eq_some found) ok
  induction fuel generalizing l with
  | zero =>
    rw [await] at ended
    split at ended
    · rename_i found
      cases ended
      exact taken (l := l) h found ok
    · cases ended
  | succ fuel ih =>
    rw [await] at ended
    split at ended
    · rename_i found
      cases ended
      exact taken (l := l) h found ok
    · split at ended
      · rename_i ticks
        obtain ⟨still, there⟩ := follows_tick alone l.traffic_follows ticks
        have begun := turn_begins_nothing alone
        exact ih still (there.departing (Traffic.departing_run h fun e he => begun e he 0)) ended
      · split at ended
        · rename_i jumps
          obtain ⟨still, there⟩ := follows_jump alone l.traffic_follows jumps
          exact ih still (there.departing h) ended
        · cases ended

/-- **A shutdown that ends without a failure has released everything.** -/
theorem perform_shutdown_released (h : l.Tidy) {o : Outcome}
    (performed : l.perform serve (.shutdown .inherited) = (l', some o)) (ok : o.isOk = true) :
    l'.session.Released := by
  have departs := (Session.departs_begin h.session).through
    ((l.session.begin_moves (.shutdown .inherited)).truthful h.session.truthful) 3
  have tidy := begin_tidy serve h.session 0 (.shutdown .inherited)
  have left := record_leaves plain_continues serve.hears_continues l 0
    (l.session.begin (.shutdown .inherited))
  refine await_released (n := l.session.nextId) (record_alone serve h.alone 0 _) ?_ performed ok
  generalize l.record serve 0 (l.session.begin (.shutdown .inherited)) = begun at tidy left
  generalize Session.through 3 (l.session.begin (.shutdown .inherited)) = r at departs left
  obtain ⟨s, p⟩ := r
  refine .of_departs departs.hush tidy left.session ?_ fun o there ok => .inr ?_
  · have stood := congrFun (stage?_stagesAfter l 0 p) 0
    rw [if_pos rfl] at stood
    rw [← stood]
    show begun.stage? 0 = _
    rw [stage?, stage?, left.stages]
  · have fresh : (0, o) ∉ l.finished := fun mem => by
      simpa using List.find?_eq_none.mp h.unended _ mem
    have finished : begun.finished = finishedAfter l.finished 0 p := left.finished
    have ended : (0, o) ∈ finishedAfter l.finished 0 p := finished ▸ there
    cases p with
    | waiting stage => exact absurd ended fresh
    | finished o' =>
      cases List.mem_singleton.mp ((List.mem_append.mp ended).resolve_left fresh)
      rfl

end ProbeBench.Loop
