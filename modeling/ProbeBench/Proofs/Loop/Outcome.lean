import ProbeBench.Proofs.Loop.Releasing
import ProbeBench.Proofs.Session.Failing
import ProbeBench.Proofs.Session.Writing

/-!
# What a call comes to behind any server

Whatever the server sends, and whenever, a call that is made and waited for comes to a usual end
(`IsUsual`), or never ends; and it writes its own message, the notices of the session, refusals and
withdrawals of requests, and nothing else. A notification is written at once, or its call fails at
once; nobody else goes on in between.

* `Loop.Usual`: the invariant of a loop.
* `perform_usual`, `close_usual`, `abandon_usual`: what calls come to.
* `perform_writes`, `close_writes`: what they write.
* `perform_notify_cases`: notifications.
-/

namespace ProbeBench.Loop

open Ready (plain_continues)

variable {σ : Type} {serve : Server σ} {l l' : Loop σ}

/-- The loop is tidy, and all its calls come to a usual end. -/
structure Usual (l : Loop σ) : Prop where
  tidy : l.Tidy
  traffic : l.traffic.Usual

/-! ## Ends -/

/-- Only what the traffic shows matters. -/
theorem Follows.usual {t : Traffic} (there : l.Follows t) (h : t.Usual) : l.traffic.Usual := by
  obtain ⟨session, stage, answers, finished⟩ := t
  obtain ⟨rfl, rfl, rfl⟩ := there
  exact ⟨h.truthful, h.stages, h.finished⟩

/-- What a call that moves comes to is taken over. -/
theorem record_usual (serve : Server σ) (h : l.traffic.Usual) {r : Session × Progress}
    (truthful : r.1.Truthful) (usual : r.2.Usual) (task : Nat) :
    (l.record serve task r).traffic.Usual := by
  have left := record_leaves plain_continues serve.hears_continues l task r
  have through := Session.through_usual truthful usual 3
  have still : (Session.through 3 r).1.Truthful :=
    Session.through_keeps (fun h stage => (Session.resume_moves _ stage).truthful h) 3 truthful
  generalize Session.through 3 r = r' at left through still
  obtain ⟨s, p⟩ := r'
  have session : (l.record serve task r).session = { s with wakes := [] } := left.session
  have finished : (l.record serve task r).finished = finishedAfter l.finished task p :=
    left.finished
  have stages : (l.record serve task r).stage? = fun k =>
      if k = task then p.stage? else l.stage? k := by
    rw [← stage?_stagesAfter]
    funext k
    rw [stage?, stage?, left.stages]
  refine ⟨?_, fun k stage there => ?_, fun k outcome there => ?_⟩
  · show (l.record serve task r).session.Truthful
    rw [session]
    exact still
  · rw [traffic, stages] at there
    simp only at there
    split at there
    · cases p with
      | finished => cases there
      | waiting stage' =>
        cases there
        exact through
    · exact h.stages k stage there
  · rw [traffic, finished] at there
    cases p with
    | waiting => exact h.finished k outcome there
    | finished outcome' =>
      rcases List.mem_append.mp there with before | now
      · exact h.finished k outcome before
      · cases List.mem_singleton.mp now
        exact through

/-- What has become of a call that was waited for. -/
structure Waited (l : Loop σ) (o : Option Outcome) : Prop where
  alone : l.Alone
  traffic : l.traffic.Usual
  usual : ∀ outcome, o = some outcome → IsUsual outcome

/-- Whoever takes the outcome of a call finds a usual one. -/
theorem Waited.taken {task k : Nat} {outcome : Outcome} (alone : l.Alone) (h : l.traffic.Usual)
    (found : l.finished.find? (fun f => f.1 = task) = some (k, outcome)) :
    Waited { l with finished := l.finished.filter (·.1 ≠ task) } (some outcome) where
  alone := ⟨alone.current, alone.next, alone.schedule⟩
  traffic := ⟨h.truthful, h.stages,
    fun k outcome there => h.finished k outcome (List.mem_filter.mp there).1⟩
  usual := by
    rintro _ ⟨⟩
    exact h.finished k outcome (List.mem_of_find?_eq_some found)

/-- A call that is still waited for. -/
theorem Waited.unended (alone : l.Alone) (h : l.traffic.Usual) : Waited l none :=
  ⟨alone, h, nofun⟩

/-- **Whoever waits for a call** finds that it has come to a usual end, if it has ended. -/
theorem await_usual (serve : Server σ) (alone : l.Alone) (h : l.traffic.Usual) (task fuel : Nat) :
    Waited (l.await serve task fuel).1 (l.await serve task fuel).2 := by
  induction fuel generalizing l with
  | zero =>
    rw [await]
    split
    · rename_i found
      exact .taken alone h found
    · exact .unended alone h
  | succ fuel ih =>
    rw [await]
    split
    · rename_i found
      exact .taken alone h found
    · split
      · rename_i ticks
        obtain ⟨still, there⟩ := follows_tick alone l.traffic_follows ticks
        exact ih still (there.usual (Traffic.usual_run h (turn_begins_nothing alone)))
      · split
        · rename_i jumps
          obtain ⟨still, there⟩ := follows_jump alone l.traffic_follows jumps
          exact ih still (there.usual h)
        · exact .unended alone h

theorem awaitWithin_usual (serve : Server σ) (alone : l.Alone) (h : l.traffic.Usual)
    (task rounds : Nat) :
    Waited (l.awaitWithin serve task rounds).1 (l.awaitWithin serve task rounds).2 := by
  induction rounds generalizing l with
  | zero =>
    rw [awaitWithin]
    exact await_usual serve alone h task 0
  | succ rounds ih =>
    have waited := await_usual serve alone h task (l.current.length + 1)
    rw [awaitWithin]
    split
    · rename_i he
      rw [he] at waited
      exact ih waited.alone waited.traffic
    · exact waited

/-- **A call that is made and waited for** comes to a usual end, or never ends. -/
theorem perform_usual (serve : Server σ) (h : l.Usual) {call : Call}
    (patient : call.patience = .inherited) :
    (l.perform serve call).1.Usual ∧
      ∀ outcome, (l.perform serve call).2 = some outcome → IsUsual outcome := by
  have truthful := (l.session.begin_moves call).truthful h.tidy.session.truthful
  have usual : (l.session.begin call).2.Usual :=
    Session.begin_usual (by rw [patient]; exact h.tidy.session.timed)
  have waited := await_usual serve (record_alone serve h.tidy.alone 0 _)
    (record_usual serve h.traffic truthful usual 0) 0
    (l.record serve 0 (l.session.begin call)).budget
  exact ⟨⟨perform_tidy serve h.tidy call, waited.traffic⟩, waited.usual⟩

/-- **Closing a session** comes to a usual end, however long it is waited for. -/
theorem close_usual (serve : Server σ) (h : l.Usual) :
    (l.close serve).1.Usual ∧
      ∀ outcome, (l.close serve).2 = some outcome → IsUsual outcome := by
  have truthful := (l.session.begin_moves .close).truthful h.tidy.session.truthful
  have waited := awaitWithin_usual serve (record_alone serve h.tidy.alone 0 _)
    (record_usual serve h.traffic truthful (Session.close_usual l.session (isUsual_ok .null)) 0) 0 3
  exact ⟨⟨close_tidy serve h.tidy, waited.traffic⟩, waited.usual⟩

/-- A call that is abandoned leaves the others where they wait, and what has ended. -/
theorem abandon_others (l : Loop σ) (task : Nat) :
    (∀ k stage, (l.abandon task).stage? k = some stage → l.stage? k = some stage) ∧
      (l.abandon task).finished = l.finished ∧
      (l.abandon task).session.transport.wire = l.session.transport.wire := by
  unfold abandon
  split
  · rename_i stage _
    have left : Leaves Ready.Continues l (l.disarm stage) := l.disarm_leaves stage
    have others (k : Nat) (stage' : Stage)
        (there : ((l.stages.filter (·.1 ≠ task)).find? fun s => s.1 = k).map (·.2) =
          some stage') : l.stage? k = some stage' := by
      have stands := congrFun (stage?_stagesAfter l task (.finished (.ok .null))) k
      rw [stage?, stagesAfter, there] at stands
      split at stands
      · cases stands
      · exact stands.symm
    have wire := congrArg (·.transport.wire) left.session
    simp only
    split
    · exact ⟨others, left.finished, wire⟩
    · exact ⟨others, left.finished, wire⟩
  · exact ⟨fun _ _ there => there, rfl, rfl⟩

theorem abandon_usual (h : l.Usual) (task : Nat) : (l.abandon task).Usual := by
  obtain ⟨others, finished, -⟩ := l.abandon_others task
  have tidy := abandon_tidy h.tidy task
  refine ⟨tidy, tidy.session.truthful, fun k stage there => ?_, fun k outcome there => ?_⟩
  · exact h.traffic.stages k stage (others k stage there)
  · have before : (k, outcome) ∈ l.finished := finished ▸ there
    exact h.traffic.finished k outcome before

/-! ## What calls write -/

section Writes

variable {P : Members → Prop} (own : OwnNotices P) (refuses : ∀ id method, P (refusal id method))
  (withdraws : ∀ id, P (cancellation id))

include own withdraws

/-- A call that is taken over has written the notices of the session, and what it had written. -/
theorem record_writes (serve : Server σ) {r : Session × Progress}
    (begun : Session.Adds P l.session r.1) (task : Nat) :
    Session.Adds P l.session (l.record serve task r).session := by
  have through : Session.Adds P l.session (Session.through 3 r).1 :=
    Session.through_keeps (fun h stage =>
      h.trans (Session.resume_adds own _ fun _ id _ _ => withdraws id)) 3 begun
  rw [session_record]
  exact through.trans (.of_eq rfl)

include refuses

/-- **Waiting for a call** writes nothing else. -/
theorem await_writes (serve : Server σ) (alone : l.Alone) (task fuel : Nat) :
    (l.await serve task fuel).1.Alone ∧
      Session.Adds P l.session (l.await serve task fuel).1.session := by
  refine await_keeps (P := fun l' => l'.Alone ∧ Session.Adds P l.session l'.session) ?_ ?_ ?_
    ⟨alone, .refl _⟩ task fuel
  · intro m l' ⟨alone, added⟩ ticks
    obtain ⟨still, there⟩ := follows_tick alone m.traffic_follows ticks
    have more := Traffic.run_adds own refuses withdraws m.traffic (turn_begins_nothing alone)
    rw [there.session] at more
    exact ⟨still, added.trans more⟩
  · intro m l' ⟨alone, added⟩ jumps
    obtain ⟨still, there⟩ := follows_jump alone m.traffic_follows jumps
    exact ⟨still, added.trans (.of_eq (congrArg (·.transport.wire.sent) there.session.symm))⟩
  · intro m _ ⟨alone, added⟩
    exact ⟨⟨alone.current, alone.next, alone.schedule⟩, added⟩

theorem awaitWithin_writes (serve : Server σ) (alone : l.Alone) (task rounds : Nat) :
    Session.Adds P l.session (l.awaitWithin serve task rounds).1.session := by
  induction rounds generalizing l with
  | zero =>
    rw [awaitWithin]
    exact (await_writes own refuses withdraws serve alone task 0).2
  | succ rounds ih =>
    obtain ⟨still, added⟩ :=
      await_writes own refuses withdraws serve alone task (l.current.length + 1)
    rw [awaitWithin]
    split
    · rename_i he
      rw [he] at still added
      exact added.trans (ih still)
    · exact added

/-- **A call writes its own message**, and nothing else but on account of the session. -/
theorem perform_writes (serve : Server σ) (alone : l.Alone) {call : Call}
    (writes : call.Writes P) : Session.Adds P l.session (l.perform serve call).1.session := by
  have begun := record_writes own withdraws serve (l.session.begin_adds own writes) 0
  exact begun.trans
    (await_writes own refuses withdraws serve (record_alone serve alone 0 _) 0 _).2

theorem close_writes (serve : Server σ) (alone : l.Alone) :
    Session.Adds P l.session (l.close serve).1.session := by
  have silent : Call.close.Writes P := trivial
  have begun := record_writes own withdraws serve (l.session.begin_adds own silent) 0
  exact begun.trans
    (awaitWithin_writes own refuses withdraws serve (record_alone serve alone 0 _) 0 3)

end Writes

/-! ## Notifications -/

/-- **A notification is written at once**, or its call fails at once and writes nothing. -/
theorem perform_notify_cases (serve : Server σ)
    (unended : (l.finished.find? fun f => f.1 = 0) = none) (method : String) (params : Json) :
    ∃ o, (l.perform serve (.notify method params)).2 = some o ∧
      (l.perform serve (.notify method params)).1.session.transport.wire.sent =
        l.session.transport.wire.sent ++ if o.isOk then [notification method params] else [] := by
  have left := record_leaves plain_continues serve.hears_continues l 0
    (l.session.begin (.notify method params))
  obtain ⟨s, o, ended, sent⟩ : ∃ s o,
      Session.through 3 (l.session.begin (.notify method params)) = (s, .finished o) ∧
      s.transport.wire.sent =
        l.session.transport.wire.sent ++ if o.isOk then [notification method params] else [] := by
    unfold Session.begin
    simp only
    split
    · rename_i r told
      unfold Session.tell at told
      split at told
      · cases told
      · split at told
        · rename_i s' taken
          cases told
          obtain ⟨-, -, rfl⟩ := Session.send_ok taken
          exact ⟨_, .ok .null, rfl, rfl⟩
        · cases told
    · exact ⟨_, _, rfl, (List.append_nil _).symm⟩
  rw [ended] at left
  have taken : ((l.record serve 0 (l.session.begin (.notify method params))).finished.find?
      fun f => f.1 = 0) = some (0, o) := by
    rw [left.finished]
    show (l.finished ++ [(0, o)]).find? _ = _
    rw [List.find?_append, unended]
    rfl
  have session : (l.record serve 0 (l.session.begin (.notify method params))).session =
      { s with wakes := [] } := left.session
  unfold perform
  simp only
  generalize l.record serve 0 (l.session.begin (.notify method params)) = begun at taken session
  refine ⟨o, ?_⟩
  unfold await
  rw [taken]
  refine ⟨rfl, ?_⟩
  rw [← sent]
  exact congrArg (·.transport.wire.sent) session

end ProbeBench.Loop
