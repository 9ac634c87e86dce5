import ProbeBench.Proofs.Session.Shutdown

/-!
# What releases a stream

The stream of a session is released once, when it is closed from this side, and by nothing else that
may happen. So a shutdown that ends without a failure has released it, whatever the server and the
other calls do.

* `Session.Tidy`: the invariant (`Moves.tidy`, `Tidy.absorb`, `tidy_run`).
* `Session.Departs`: what a shutdown comes to at last (`departs_begin`, `Departs.through`).
* `Traffic.Departing`: where it stands on a run (`departing_run`).
-/

namespace ProbeBench

namespace Session

/-- Neither is the stream closed or released, nor does the session get another limit. -/
structure SameSeal (s s' : Session) : Prop where
  closed : s'.transport.wire.closed = s.transport.wire.closed
  releases : s'.transport.wire.releases = s.transport.wire.releases
  limit : s'.limit = s.limit

/-- The table is sound, requests fail in a truthful way, the limit of the session can be measured,
and the stream has been released once if it is closed, and not at all if it is open. -/
structure Tidy (s : Session) : Prop where
  sound : s.Sound
  truthful : s.Truthful
  timed : ∀ x, s.limit = some x → x.isTime = true
  once : s.transport.wire.releases = if s.transport.wire.closed then 1 else 0

variable {s s' : Session}

/-! ## What leaves the stream as it is -/

theorem SameSeal.refl (s : Session) : SameSeal s s := ⟨rfl, rfl, rfl⟩

theorem SameSeal.trans {s'' : Session} (h : SameSeal s s') (h' : SameSeal s' s'') :
    SameSeal s s'' :=
  ⟨h'.closed.trans h.closed, h'.releases.trans h.releases, h'.limit.trans h.limit⟩

theorem warn_seal (s : Session) (text : String) : SameSeal s (s.warn text) := by
  unfold warn
  split <;> exact ⟨rfl, rfl, rfl⟩

theorem endWith_seal (s : Session) (ending : Ending) : SameSeal s (s.endWith ending) := by
  rw [endWith_eq]
  exact ⟨rfl, rfl, rfl⟩

/-- **Only closing releases the stream.** -/
theorem act_seal (s : Session) {a : Act} (other : a ≠ .close) : SameSeal s (s.act a) := by
  cases a with
  | warn text => exact warn_seal s text
  | adopt result =>
    simp only [act, adopt]
    split <;> exact ⟨rfl, rfl, rfl⟩
  | start =>
    simp only [act, start]
    split <;> exact ⟨rfl, rfl, rfl⟩
  | cancelReader =>
    simp only [act, cancelReader]
    split <;> exact ⟨rfl, rfl, rfl⟩
  | close => exact absurd rfl other
  | _ => exact ⟨rfl, rfl, rfl⟩

/-- **Nothing that comes from the server releases the stream.** -/
theorem absorb_seal (s : Session) (e : Traffic.Event) : SameSeal s (s.absorb e) := by
  have along : Along SameSeal :=
    .of_steps .refl .trans
      (fun noted => by
        obtain ⟨_, _, _, _, rfl⟩ := noted
        exact ⟨rfl, rfl, rfl⟩)
      (fun _ _ _ _ => ⟨rfl, rfl, rfl⟩) (fun _ _ => ⟨rfl, rfl, rfl⟩) fun _ _ _ => ⟨rfl, rfl, rfl⟩
  exact along.absorb (fun s ending => (endWith_seal s ending).trans ⟨rfl, rfl, rfl⟩)
    (fun _ _ _ _ _ => ⟨rfl, rfl, rfl⟩) fun _ _ => ⟨rfl, rfl, rfl⟩

/-! ## The invariant -/

theorem Tidy.of_seal (h : s.Tidy) (sealed : SameSeal s s') (sound : s'.Sound)
    (truthful : s'.Truthful) : s'.Tidy where
  sound := sound
  truthful := truthful
  timed := sealed.limit ▸ h.timed
  once := by rw [sealed.releases, sealed.closed, h.once]

/-- Only the table, the stream and the limit matter. -/
theorem Tidy.congr (h : s.Tidy) (same : SameTable s s')
    (releases : s'.transport.wire.releases = s.transport.wire.releases)
    (timed : ∀ x, s'.limit = some x → x.isTime = true) : s'.Tidy where
  sound := h.sound.congr same
  truthful := h.truthful.congr same
  timed := timed
  once := by rw [releases, same.closed, h.once]

theorem Tidy.hush (h : s.Tidy) : ({ s with wakes := [] } : Session).Tidy :=
  h.congr ⟨rfl, rfl, rfl, rfl, rfl⟩ rfl h.timed

/-- **Closing releases the stream**, unless that has been done. -/
theorem once_close {w : Wire} (h : w.releases = if w.closed then 1 else 0) :
    w.close.1.releases = if w.close.1.closed then 1 else 0 := by
  cases closed : w.closed with
  | true => simpa [Wire.close, closed] using h
  | false => simpa [Wire.close, closed] using h

theorem Tidy.act (h : s.Tidy) {own : Option Nat} {a : Act} (allowed : a.Allowed s own) :
    (s.act a).Tidy := by
  have sound := h.sound.act allowed
  have truthful := h.truthful.act a
  by_cases closes : a = .close
  · subst closes
    have shut : SameSeal s s.shut := by
      unfold Session.shut
      have begun : SameSeal s { s with closing := true } := ⟨rfl, rfl, rfl⟩
      exact begun.trans (endWith_seal _ _)
    refine ⟨sound, truthful, shut.limit ▸ h.timed, ?_⟩
    have once := once_close (w := s.shut.transport.wire)
      (by rw [shut.releases, shut.closed, h.once])
    exact once
  · exact h.of_seal (act_seal s closes) sound truthful

/-- **Whatever comes from the server keeps the invariant.** -/
theorem Tidy.absorb (h : s.Tidy) (e : Traffic.Event) : (s.absorb e).Tidy :=
  h.of_seal (absorb_seal s e) (h.sound.absorb e) (h.truthful.absorb e)

theorem Tidy.forget (h : s.Tidy) (id : Nat) : (s.forget id).Tidy :=
  h.of_seal ⟨rfl, rfl, rfl⟩ (h.sound.forget id) fun n failure there => h.truthful n failure there

/-- A stream that is closed has been released, and nothing is pending. -/
theorem Tidy.released (h : s.Tidy) (closed : s.transport.wire.closed = true) : s.Released :=
  ⟨closed, h.sound.closed closed, h.sound.ended (h.sound.closed closed)⟩

/-! ## A shutdown -/

/-- What a shutdown with the request `n` comes to: it waits, or it has ended, and has released
everything if it does so without a failure. -/
inductive Departs (n : Nat) : Session × Progress → Prop
  | waits {s : Session} {stage : Stage} (retiring : Retiring n s stage) :
      Departs n (s, .waiting stage)
  | ends {s : Session} {o : Outcome} (released : o.isOk = true → s.Released) :
      Departs n (s, .finished o)

variable {n : Nat}

theorem Comes.departs {drained : WriteFault → Prop} {ready : Prop} {r : Session × Progress}
    (h : Comes n drained s ready r) : Departs n r := by
  cases h with
  | waits retiring _ => exact .waits retiring
  | ends retired _ =>
    refine .ends fun ok => ?_
    cases retired with
    | released released => exact released
    | jammed released => exact released
    | failed _ _ => cases ok

/-- **A shutdown begins**, with a limit that can be measured. -/
theorem departs_begin (h : s.Tidy) : Departs s.nextId (s.begin (.shutdown .inherited)) := by
  have comes : Comes s.nextId (fun _ => False) s True (s.begin (.shutdown .inherited)) :=
    begin_comes h.timed
  exact comes.departs

/-- **It goes on as long as it waits for nothing but the stream.** -/
theorem Departs.through {r : Session × Progress} (h : Departs n r) (truthful : r.1.Truthful)
    (fuel : Nat) : Departs n (Session.through fuel r) := by
  induction fuel generalizing r with
  | zero => exact h
  | succ fuel ih =>
    cases h with
    | ends released => exact .ends released
    | @waits s stage retiring =>
      simp only [Session.through]
      split
      · have comes : Comes n (fun _ => False) s _ (s.resume stage) := resume_comes truthful retiring
        exact ih comes.departs ((s.resume_moves stage).truthful truthful)
      · exact .waits retiring

/-- Who is noted to go on does not matter. -/
theorem Departs.hush {p : Progress} (h : Departs n (s, p)) :
    Departs n ({ s with wakes := [] }, p) := by
  have still (released : s.Released) : ({ s with wakes := [] } : Session).Released :=
    ⟨released.closed, released.ended, released.empty⟩
  cases h with
  | waits retiring =>
    cases retiring with
    | asks asks => exact .waits (.asks asks)
    | leaves => exact .waits .leaves
    | closes released => exact .waits (.closes (still released))
    | releases released => exact .waits (.releases (still released))
  | ends released => exact .ends fun ok => still (released ok)

end Session

open Session

theorem Moves.tidy {s : Session} {own : Option Nat} {r : Session × Progress} (h : Moves s own r)
    (tidy : s.Tidy) : r.1.Tidy := by
  induction h with
  | rest => exact tidy
  | act a allowed _ ih => exact ih (tidy.act allowed)

namespace Traffic

variable {t : Traffic} {e : Event} {task n : Nat}

/-- **Every event keeps the invariant.** -/
theorem tidy_step (h : t.session.Tidy) (e : Event) : (t.step e).session.Tidy :=
  session_step t e (fun moves => moves.tidy h) (h.absorb e)

theorem tidy_run (h : t.session.Tidy) (events : List Event) : (t.run events).session.Tidy :=
  session_run (fun moves h => moves.tidy h) (fun h => h.absorb) h events

/-- A shutdown with the request `n` stands somewhere, or has ended; and it has released everything
if it has ended without a failure. -/
structure Departing (task n : Nat) (t : Traffic) : Prop where
  tidy : t.session.Tidy
  place : ∀ stage, t.stage task = some stage → Retiring n t.session stage
  released : ∀ o, (task, o) ∈ t.finished → o.isOk = true → t.session.Released

/-- What a shutdown has come to says where it stands. -/
theorem Departing.of_departs {r : Session × Progress} (h : Departs n r) (tidy : t.session.Tidy)
    (session : t.session = r.1) (place : t.stage task = r.2.stage?)
    (past : ∀ o, (task, o) ∈ t.finished → o.isOk = true →
      t.session.Released ∨ r.2.outcome? = some o) : t.Departing task n := by
  obtain ⟨s, p⟩ := r
  subst session
  refine ⟨tidy, fun stage there => ?_, fun o there ok => (past o there ok).elim id fun now => ?_⟩
  · rw [place] at there
    cases h with
    | waits retiring =>
      cases there
      exact retiring
    | ends _ => cases there
  · cases h with
    | waits _ => cases now
    | ends released =>
      cases now
      exact released ok

/-- A call that moves without having just begun has stood somewhere. -/
theorem stage_of_move? {r : Session × Progress} (hm : t.move? e = some (task, r))
    (begun : ∀ call, e ≠ .call task call) : ∃ stage, t.stage task = some stage := by
  rcases task_of_move? hm with ⟨call, same, -⟩ | rfl | rfl | ⟨fault, rfl⟩
  · exact absurd same (begun call)
  · obtain ⟨stage, there, -⟩ := Option.map_eq_some_iff.mp hm
    exact ⟨stage, there⟩
  · obtain ⟨stage, there, -⟩ := Option.bind_eq_some_iff.mp hm
    exact ⟨stage, there⟩
  · simp only [move?] at hm
    split at hm
    · rename_i there
      exact ⟨_, there⟩
    · cases hm

/-- The outcomes of a call after a move: those before, and its own if the move has ended it. -/
theorem finished_of_move {k : Nat} {r : Session × Progress} (hm : t.move? e = some (k, r))
    {o : Outcome} (there : (task, o) ∈ (t.step e).finished) :
    (task, o) ∈ t.finished ∨ k = task ∧ r.2.outcome? = some o := by
  rw [step_of_move hm] at there
  refine (List.mem_append.mp there).imp_right fun now => ?_
  obtain ⟨o', ended, same⟩ := Option.map_eq_some_iff.mp (Option.mem_toList.mp now)
  cases same
  exact ⟨rfl, ended⟩

/-- **Every event leaves a shutdown where it stands, or moves it on its way.** -/
theorem departing_step (h : t.Departing task n) (begun : ∀ call, e ≠ .call task call) :
    (t.step e).Departing task n := by
  have tidy := tidy_step h.tidy e
  have still {o : Outcome} (there : (task, o) ∈ t.finished) (ok : o.isOk = true) :=
    released_step h.tidy.sound (h.released o there ok) e
  have stays (stage : (t.step e).stage task = t.stage task)
      (finished : ∀ o, (task, o) ∈ (t.step e).finished → (task, o) ∈ t.finished) :
      (t.step e).Departing task n :=
    ⟨tidy, fun at_ there => retiring_step h.tidy.sound (h.place at_ (stage ▸ there)) e,
      fun o there => still (finished o there)⟩
  cases hm : t.move? e with
  | none =>
    have left := step_of_none hm
    exact stays (by rw [left]) fun o there => by rwa [left] at there
  | some m =>
    obtain ⟨k, r⟩ := m
    by_cases mine : k = task
    · subst mine
      obtain ⟨stage, there⟩ := stage_of_move? hm begun
      have departs := (comes_of_move h.tidy.truthful there (h.place stage there) hm).departs
      have left := step_of_move hm
      refine .of_departs departs tidy (by rw [left]) ?_ fun o there' ok => ?_
      · rw [left]
        exact if_pos rfl
      · exact (finished_of_move hm there').imp (still · ok) (·.2)
    · refine stays (stage_of_other hm mine) fun o there => ?_
      exact (finished_of_move hm there).resolve_right fun now => mine now.1

theorem departing_run (h : t.Departing task n) {events : List Event}
    (begun : ∀ e ∈ events, ∀ call, e ≠ .call task call) : (t.run events).Departing task n := by
  induction events generalizing t with
  | nil => exact h
  | cons e rest ih =>
    exact ih (departing_step h (begun e List.mem_cons_self))
      fun e' he' => begun e' (List.mem_cons_of_mem _ he')

end Traffic

end ProbeBench
