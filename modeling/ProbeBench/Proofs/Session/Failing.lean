import ProbeBench.Proofs.Session.Releasing

/-!
# With what calls fail

A session fails its calls in five ways only: the server answers with an error, or not in time, the
connection is lost, the session is closed, or its stream fails (`Failure.isUsual`). Whatever comes
from the server, nothing else becomes of a call, as long as its limit is a number of seconds; a
limit that cannot be measured has a failure of its own.

* `Stage.Usual`: where a call waits that can only come to a usual end.
* `begin_usual`, `resume_usual`: calls begin so, and go on so.
* `Traffic.usual_run`: the same for all calls on a session, in any order of events.
-/

namespace ProbeBench

/-- Whether a session fails its calls in this way. -/
def Failure.isUsual : Failure → Bool
  | .request .. => true
  | .timeout .. => true
  | .lost _ => true
  | .closed => true
  | .stream _ => true
  | _ => false

/-- The outcome is no failure, or a usual one. -/
def IsUsual (o : Outcome) : Prop := ∀ failure, o = .error failure → failure.isUsual = true

/-- What is still to be done comes to a usual end. -/
def After.Usual : After → Prop
  | .check _ _ failure => failure.isUsual = true
  | .fail _ _ failure => failure.isUsual = true
  | _ => True

/-- A call that waits here comes to a usual end. -/
def Stage.Usual : Stage → Prop
  | .writing after => after.Usual
  | .awaiting .. => True
  | .expiring _ _ failure => failure.isUsual = true
  | .closing result _ => IsUsual result
  | .releasing result => IsUsual result

/-- A call that has come this far comes to a usual end, or has come to one. -/
def Progress.Usual : Progress → Prop
  | .finished outcome => IsUsual outcome
  | .waiting stage => stage.Usual

/-- How long a call lets its request wait. -/
def Call.patience : Call → Patience
  | .request _ _ patience => patience
  | .shutdown patience => patience
  | _ => .inherited

theorem isUsual_ok (value : Json) : IsUsual (.ok value) := nofun

theorem isUsual_error {failure : Failure} (h : failure.isUsual = true) :
    IsUsual (.error failure) := by
  rintro _ ⟨⟩
  exact h

theorem isUsual_ending (ending : Ending) : ending.failure.isUsual = true := by
  cases ending <;> rfl

theorem isUsual_fault (fault : WriteFault) : fault.failure.isUsual = true := by
  cases fault <;> rfl

namespace Session

variable {s : Session} {goal : Goal} {id : Nat} {failure : Failure} {outcome : Outcome}

/-- What a session has for its callers is usual. -/
theorem Truthful.usual (h : s.Truthful) (found : s.outcome? id = some outcome) :
    IsUsual outcome := by
  obtain ⟨o, there, rfl⟩ := Option.map_eq_some_iff.mp found
  intro failure fails
  rcases h o.1 failure (fails ▸ List.mem_of_find?_eq_some there) with soft | ⟨cause, -, rfl⟩
  · cases failure <;> first | rfl | cases soft
  · rfl

/-! ## One move -/

theorem refuse_fails (h : s.refuse = .error failure) : failure.isUsual = true := by
  unfold refuse at h
  split at h
  · cases h
    exact isUsual_ending _
  · cases h

theorem tell_fails {method : String} {params : Json} {after : After}
    (h : s.tell method params after = .error failure) : failure.isUsual = true := by
  unfold tell at h
  split at h
  · rename_i refused
    cases h
    exact refuse_fails refused
  · split at h
    · cases h
    · cases h
      exact isUsual_fault _

theorem tell_usual {method : String} {params : Json} {after : After} {r : Session × Progress}
    (h : s.tell method params after = .ok r) (usual : after.Usual) : r.2.Usual := by
  rw [tell_waits h]
  exact usual

theorem release_usual (s : Session) (usual : IsUsual outcome) (fault : Option StreamFault) :
    (s.release outcome fault).2.Usual := by
  unfold release
  split
  · exact isUsual_error rfl
  · split
    · exact usual
    · exact usual

theorem close_usual (s : Session) (usual : IsUsual outcome) : (s.close outcome).2.Usual := by
  unfold close
  simp only
  split
  · exact release_usual _ usual none
  · exact usual

theorem failHandshake_usual (s : Session) (goal : Goal) (usual : failure.isUsual = true) :
    (s.failHandshake goal failure).2.Usual := by
  unfold failHandshake
  split
  · exact close_usual s (isUsual_error usual)
  · exact isUsual_error usual

theorem acknowledge_usual (s : Session) (goal : Goal) (result : Json) :
    (s.acknowledge goal result).2.Usual := by
  unfold acknowledge
  simp only
  split
  · rename_i told
    exact tell_usual told trivial
  · rename_i refused
    exact failHandshake_usual _ goal (tell_fails refused)

theorem exit_usual (s : Session) : s.exit.2.Usual := by
  unfold exit
  split
  · exact close_usual s (isUsual_ok _)
  · split
    · rename_i told
      exact tell_usual told trivial
    · rename_i refused
      exact isUsual_error (tell_fails refused)

theorem proceed_usual (s : Session) (goal : Goal) (usual : IsUsual outcome) :
    (s.proceed goal outcome).2.Usual := by
  unfold proceed
  split
  · exact usual
  · exact exit_usual s
  · split
    · exact exit_usual _
    · exact usual
  · exact acknowledge_usual s _ _
  · exact failHandshake_usual s _ (usual _ rfl)

theorem conclude_usual (s : Session) (goal : Goal) (id : Nat) (usual : IsUsual outcome) :
    (s.conclude goal id outcome).2.Usual :=
  proceed_usual _ goal usual

theorem concludeOr_usual (truthful : s.Truthful) {otherwise : Session × Progress}
    (usual : otherwise.2.Usual) : (s.concludeOr goal id otherwise).2.Usual := by
  unfold concludeOr
  split
  · rename_i found
    exact conclude_usual s goal id (truthful.usual found)
  · exact usual

theorem written_usual (truthful : s.Truthful) {after : After} (usual : after.Usual) :
    (s.written after).2.Usual := by
  unfold written
  split
  · exact concludeOr_usual truthful trivial
  · trivial
  · exact concludeOr_usual truthful usual
  · exact conclude_usual s _ _ (isUsual_error usual)
  · exact isUsual_ok _
  · exact isUsual_ok _
  · exact close_usual s (isUsual_ok _)
  · exact isUsual_ok _

theorem unwritten_usual (s : Session) (usual : failure.isUsual = true) (after : After) :
    (s.unwritten failure after).2.Usual := by
  unfold unwritten
  split
  · exact conclude_usual s _ _ (isUsual_error usual)
  · exact conclude_usual s _ _ (isUsual_error usual)
  · exact conclude_usual s _ _ (isUsual_error usual)
  · exact failHandshake_usual s _ usual
  · exact isUsual_error usual
  · exact isUsual_error usual

theorem giveUp_usual (s : Session) (goal : Goal) (id : Nat) (usual : failure.isUsual = true) :
    (s.giveUp goal id failure).2.Usual := by
  unfold giveUp
  simp only
  split
  · rename_i told
    exact tell_usual told usual
  · rename_i refused
    exact conclude_usual _ goal id (isUsual_error (tell_fails refused))

/-- **A call that goes on comes to a usual end**, or waits for one. -/
theorem resume_usual (truthful : s.Truthful) {stage : Stage} (usual : stage.Usual) :
    (s.resume stage).2.Usual := by
  unfold resume
  split
  · exact written_usual truthful usual
  · exact concludeOr_usual truthful trivial
  · exact concludeOr_usual truthful rfl
  · exact giveUp_usual s _ _ usual
  · exact release_usual s usual _
  · exact usual

theorem afterRequest_usual (goal : Goal) (id : Nat) (method : String) {limit : Option Limit}
    (timed : ∀ x, limit = some x → x.isTime = true) :
    (afterRequest goal id method limit).Usual := by
  unfold afterRequest
  split
  · trivial
  · split
    · rfl
    · trivial
  · cases timed _ rfl
  · cases timed _ rfl

theorem request_usual (s : Session) (goal : Goal) (method : String) (params : Json)
    {patience : Patience} (timed : ∀ x, s.limitOf patience = some x → x.isTime = true) :
    (s.request goal method params patience).2.Usual := by
  unfold request
  split
  · rename_i refused
    exact proceed_usual s goal (isUsual_error (refuse_fails refused))
  · simp only
    split
    · exact afterRequest_usual goal _ method (by cases patience <;> exact timed)
    · exact unwritten_usual _ (isUsual_fault _) _

/-- **Every call begins so**, if its limit is a number of seconds. -/
theorem begin_usual {call : Call}
    (timed : ∀ x, s.limitOf call.patience = some x → x.isTime = true) :
    (s.begin call).2.Usual := by
  have started : s.start.limit = s.limit := by
    unfold start
    split <;> rfl
  cases call with
  | request method params patience => exact request_usual s _ _ _ timed
  | handshake params => exact request_usual s _ _ _ timed
  | connect params =>
    refine request_usual s.start _ _ _ fun x given => timed x ?_
    rw [← given]
    exact started.symm
  | shutdown patience =>
    unfold begin
    simp only
    split
    · exact close_usual s (isUsual_ok _)
    · exact request_usual _ _ _ _ (by cases patience <;> exact timed)
  | close => exact close_usual s (isUsual_ok _)
  | start => exact isUsual_ok _
  | notify method params =>
    unfold begin
    simp only
    split
    · rename_i told
      exact tell_usual told trivial
    · rename_i refused
      exact isUsual_error (tell_fails refused)

/-- **It goes on so as long as it waits for nothing but the stream.** -/
theorem through_usual {r : Session × Progress} (truthful : r.1.Truthful) (usual : r.2.Usual)
    (fuel : Nat) : (through fuel r).2.Usual := by
  induction fuel generalizing r with
  | zero => exact usual
  | succ fuel ih =>
    obtain ⟨s, p⟩ := r
    cases p with
    | finished outcome => exact usual
    | waiting stage =>
      unfold through
      simp only
      split
      · exact ih ((s.resume_moves stage).truthful truthful) (resume_usual truthful usual)
      · exact usual

end Session

/-! ## Any order of events -/

namespace Traffic

/-- All calls on a session come to a usual end, and so did those that have ended. -/
structure Usual (t : Traffic) : Prop where
  truthful : t.session.Truthful
  stages : ∀ task stage, t.stage task = some stage → stage.Usual
  finished : ∀ task outcome, (task, outcome) ∈ t.finished → IsUsual outcome

variable {t : Traffic} {e : Event}

/-- A move of a call that has begun before. -/
theorem Usual.move (h : t.Usual) (old : ∀ task call, e ≠ .call task call) {task : Nat}
    {r : Session × Progress} (moves : t.move? e = some (task, r)) : r.2.Usual := by
  rcases task_of_move? moves with ⟨call, rfl, -⟩ | rfl | rfl | ⟨fault, rfl⟩
  · exact absurd rfl (old task call)
  · obtain ⟨stage, there, same⟩ := Option.map_eq_some_iff.mp moves
    cases same
    exact Session.resume_usual h.truthful (h.stages task stage there)
  · obtain ⟨stage, there, moved⟩ := Option.bind_eq_some_iff.mp moves
    have resumed := Session.resume_usual h.truthful (h.stages task stage there)
    split at moved
    · rename_i same
      cases moved
      rw [same] at resumed
      exact Session.giveUp_usual _ _ _ resumed
    · cases moved
  · simp only [move?] at moves
    split at moves
    · cases moves
      exact Session.unwritten_usual _ (isUsual_fault fault) _
    · cases moves

/-- **Every event keeps the invariant** with which no call begins. -/
theorem usual_step (h : t.Usual) (old : ∀ task call, e ≠ .call task call) : (t.step e).Usual := by
  have truthful := truthful_step h.truthful e
  cases moves : t.move? e with
  | none =>
    rw [step_of_none moves] at truthful ⊢
    exact ⟨truthful, h.stages, h.finished⟩
  | some m =>
    obtain ⟨task, r⟩ := m
    have usual := h.move old moves
    refine ⟨truthful, fun k stage there => ?_, fun k outcome there => ?_⟩
    · rw [step_of_move moves] at there
      simp only at there
      split at there
      · obtain ⟨s, p⟩ := r
        cases p with
        | finished => cases there
        | waiting stage' =>
          cases there
          exact usual
      · exact h.stages k stage there
    · rcases finished_of_move moves there with before | ⟨-, now⟩
      · exact h.finished k outcome before
      · obtain ⟨s, p⟩ := r
        cases p with
        | waiting => cases now
        | finished outcome' =>
          cases now
          exact usual

/-- **All calls come to a usual end**, in whatever order things happen. -/
theorem usual_run (h : t.Usual) {events : List Event}
    (old : ∀ e ∈ events, ∀ task call, e ≠ .call task call) : (t.run events).Usual := by
  induction events generalizing t with
  | nil => exact h
  | cons e rest ih =>
    exact ih (usual_step h (old e List.mem_cons_self)) fun e' he' =>
      old e' (List.mem_cons_of_mem _ he')

end Traffic

end ProbeBench
