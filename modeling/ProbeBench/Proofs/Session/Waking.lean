import ProbeBench.Proofs.Session.Incoming

/-!
# Outcomes let their callers go on

A session records whom its operations have let go on. Nobody is forgotten: whatever comes from the
server, and however the session ends, the caller of a request that gets its outcome is let go on.

* `Announces`: the caller of each outcome that is new is let go on, once.
* `read_announces`, `arrive_announces`, `finish_announces`: what comes from the server does so.
* `Poised`: a call that waits has not missed its outcome.
-/

namespace ProbeBench.Session

/-- How often the caller of a request is to be let go on. -/
def calls (id : Nat) (s : Session) : Nat := s.wakes.countP (· = .caller id)

/-- How many outcomes of a request nobody has taken yet. -/
def untaken (id : Nat) (s : Session) : Nat := s.outcomes.countP (·.1 = id)

theorem untaken_eq_zero {id : Nat} {s : Session} : s.untaken id = 0 ↔ s.outcome? id = none := by
  rw [untaken, List.countP_eq_zero, outcome?, Option.map_eq_none_iff, List.find?_eq_none]

theorem mem_of_calls {id : Nat} {s : Session} (h : 0 < s.calls id) : .caller id ∈ s.wakes := by
  obtain ⟨w, hw, same⟩ := List.countP_pos_iff.mp h
  exact of_decide_eq_true same ▸ hw

/-- No id is given, and for each outcome that is new its caller is let go on once. -/
structure Announces (s s' : Session) : Prop where
  nextId : s'.nextId = s.nextId
  calls : ∀ id, s'.calls id + s.untaken id = s.calls id + s'.untaken id

theorem Announces.trans {s t u : Session} (h : Announces s t) (h' : Announces t u) :
    Announces s u := by
  refine ⟨h'.nextId.trans h.nextId, fun id => ?_⟩
  have first := h.calls id
  have last := h'.calls id
  omega

/-- Nobody who has got an outcome is forgotten. -/
theorem Announces.outcomes {s s' : Session} (h : Announces s s') (id : Nat)
    (none_yet : s.outcome? id = none) : s'.outcome? id = none ∨ .caller id ∈ s'.wakes := by
  have even := h.calls id
  rw [untaken_eq_zero.mpr none_yet] at even
  rcases Nat.eq_zero_or_pos (s'.untaken id) with none_now | new
  · exact .inl (untaken_eq_zero.mp none_now)
  · exact .inr (mem_of_calls (by omega))

/-- What gives no outcome lets no caller go on. -/
theorem Announces.of_eq {s s' : Session} (nextId : s'.nextId = s.nextId)
    (outcomes : s'.outcomes = s.outcomes) (calls : ∀ id, s'.calls id = s.calls id) :
    Announces s s' :=
  ⟨nextId, fun id => by rw [calls, untaken, untaken, outcomes]⟩

theorem Announces.refl (s : Session) : Announces s s := .of_eq rfl rfl fun _ => rfl

theorem settle_announces (s : Session) (id : Nat) (outcome : Outcome) :
    Announces s (s.settle id outcome) := by
  refine ⟨rfl, fun other => ?_⟩
  simp only [calls, untaken, settle, List.countP_append, List.countP_singleton, Wake.caller.injEq]
  omega

theorem forget_announces (s : Session) (id : Nat) : Announces s (s.forget id) :=
  .of_eq rfl rfl fun _ => rfl

theorem endWith_announces (s : Session) (ending : Ending) : Announces s (s.endWith ending) := by
  have settled (entries : List Entry) (failure : Failure) (s : Session) :
      Announces s (s.settleAll entries failure) := by
    induction entries generalizing s with
    | nil => exact .refl s
    | cons e rest ih =>
      refine Announces.trans ?_ (ih _)
      show Announces s (if e.expired then s else s.settle e.id (.error failure))
      split
      · exact .refl s
      · exact settle_announces s _ _
  have emptied : Announces s
      { s with ending := some (s.ending.getD ending), pending := [] } :=
    .of_eq rfl rfl fun _ => rfl
  exact emptied.trans (settled _ _ _)

/-! ## Reading -/

/-- Messages let the callers of what they answer go on. -/
theorem announces_along : Along Announces :=
  .of_steps .refl .trans
    (fun noted => by
      obtain ⟨_, _, _, _, rfl⟩ := noted
      exact .of_eq rfl rfl fun _ => rfl)
    (fun _ _ _ _ => .of_eq rfl rfl fun _ => rfl) forget_announces settle_announces

/-- **Reading lets the callers of all that it answers go on.** -/
theorem read_announces (s : Session) : Announces s s.read :=
  announces_along.read (fun _ => .of_eq rfl rfl fun _ => rfl) (fun _ => .of_eq rfl rfl fun _ => rfl)
    (fun _ => .of_eq rfl rfl fun _ => rfl)
    (fun s ending => (endWith_announces s ending).trans (.of_eq rfl rfl fun _ => rfl)) s

theorem wakeReader_announces (s : Session) : Announces s s.wakeReader := by
  unfold wakeReader
  split
  · refine .of_eq rfl rfl fun _ => ?_
    simp only [calls, List.countP_append, List.countP_singleton]
    rfl
  · exact .refl s

theorem arrive_announces (s : Session) (octets : List UInt8) : Announces s (s.arrive octets) := by
  have lies : Announces s { s with transport := s.transport.arrive octets } :=
    .of_eq rfl rfl fun _ => rfl
  unfold Session.arrive
  split
  · exact .refl s
  · exact lies.trans (wakeReader_announces _)

theorem finish_announces (s : Session) : Announces s s.finish := by
  have ended : Announces s { s with transport := s.transport.finish } := .of_eq rfl rfl fun _ => rfl
  exact ended.trans (wakeReader_announces _)

theorem failReader_announces (s : Session) (fault : StreamFault) :
    Announces s (s.failReader fault) := by
  have failed : Announces s { s with transport := s.transport.fail fault } :=
    .of_eq rfl rfl fun _ => rfl
  exact failed.trans (wakeReader_announces _)

/-! ## Calls -/

/-- A call that waits at a stage has missed nothing: its request has no outcome that it should have
taken, and if it has stopped waiting it has been let go on. -/
def Poised (s : Session) : Stage → Prop
  | .awaiting _ id _ none => s.outcome? id = none
  | .expiring _ id _ => .caller id ∈ s.wakes
  | _ => True

end ProbeBench.Session
