import ProbeBench.Proofs.Loop.Tick
import ProbeBench.Proofs.Session.Live

/-!
# No call is forgotten

Between turns, a call that waits for a response goes on in time: without a limit, as soon as there
is an outcome it is lined up; with one, its timer runs, or has run out and is about to let it go
(`Going`). So where nothing is ready and no timer runs, nobody waits but for a response that has not
come.

* `Grows`: what is lined up and scheduled stays so.
* `flush_going`, `record_going`, `handle_going`: what the parts of a turn do to a call that waits.
* `tick_going`, `jump_going`: what a turn does to it, and the passing of time.
* `untimed_of_rests`: a call that waits when all is at rest waits without a limit, and for nothing
  that is there.
-/

namespace ProbeBench.Loop

variable {σ : Type} {serve : Server σ} {l : Loop σ} {stage : Stage}

/-- Something goes on in this round or the next one. -/
def Queued (l : Loop σ) (r : Ready) : Prop := r ∈ l.current ∨ r ∈ l.next

/-- Call 0, which waits at a stage, will go on when it can, and at the end of its time. -/
def Going (l : Loop σ) : Stage → Prop
  | .awaiting _ id _ none => l.session.outcome? id = none ∨ l.Queued (.resume 0)
  | .awaiting _ id _ (some _) =>
    l.Queued (.resume 0) ∨ id ∉ l.released ∧ (l.Queued (.relay id) ∨ l.schedule.Holds (.relay id))
  | .expiring _ id _ => l.Queued (.resume 0) ∨ l.Queued (.relay id)
  | _ => True

/-- It has been let go on, and has only to be lined up. -/
def Woken (l : Loop σ) : Stage → Prop
  | .awaiting _ id _ none => .caller id ∈ l.session.wakes
  | .expiring _ id _ => .caller id ∈ l.session.wakes
  | _ => False

/-! ## What is lined up stays so -/

/-- More is lined up and scheduled, and nothing less but turns of the server. -/
structure Grows (l l' : Loop σ) : Prop where
  session : l'.session = l.session
  stages : l'.stages = l.stages
  released : l'.released = l.released
  current : l'.current = l.current
  next : ∀ r ∈ l.next, r ∈ l'.next
  holds : ∀ r, r.isServe = false → l.schedule.Holds r → l'.schedule.Holds r

theorem Grows.refl (l : Loop σ) : Grows l l :=
  ⟨rfl, rfl, rfl, rfl, fun _ hr => hr, fun _ _ hr => hr⟩

theorem Grows.trans {l m n : Loop σ} (h : Grows l m) (h' : Grows m n) : Grows l n :=
  ⟨h'.session.trans h.session, h'.stages.trans h.stages, h'.released.trans h.released,
    h'.current.trans h.current, fun r hr => h'.next r (h.next r hr),
    fun r other hr => h'.holds r other (h.holds r other hr)⟩

theorem Grows.queued {l' : Loop σ} (h : Grows l l') {r : Ready} (hr : l.Queued r) : l'.Queued r :=
  hr.imp (fun now => h.current ▸ now) (h.next r)

theorem Grows.going {l' : Loop σ} (h : Grows l l') (going : l.Going stage) : l'.Going stage := by
  cases stage with
  | awaiting goal id method limit =>
    cases limit with
    | none =>
      rw [Going, h.session]
      exact going.imp_right h.queued
    | some x =>
      rw [Going, h.released]
      exact going.imp h.queued fun ⟨held, lets⟩ => ⟨held, lets.imp h.queued (h.holds _ rfl)⟩
  | expiring goal id failure => exact going.imp h.queued h.queued
  | _ => trivial

theorem Grows.woken {l' : Loop σ} (h : Grows l l') (woken : l.Woken stage) : l'.Woken stage := by
  unfold Woken
  rw [h.session]
  exact woken

theorem later_grows (l : Loop σ) (delay : Float) (r : Ready) : Grows l (l.later delay r) :=
  ⟨rfl, rfl, rfl, rfl, fun _ hr => hr, fun _ _ held => held.add _ _⟩

theorem push_grows (l : Loop σ) (r : Ready) : Grows l (l.push r) :=
  ⟨rfl, rfl, rfl, rfl, fun _ hr => List.mem_append_left _ hr, fun _ _ held => held⟩

theorem adopt_grows (l : Loop σ) (t : Turn σ) : Grows l (l.adopt t) := by
  have server : Grows l { l with server := t.state } :=
    ⟨rfl, rfl, rfl, rfl, fun _ hr => hr, fun _ _ held => held⟩
  have sent : Grows l (t.deliveries.foldl (fun l d => l.later d.delay (.deliver d))
      { l with server := t.state }) :=
    List.foldlRecOn _ _ server fun l' h d _ => h.trans (later_grows l' _ _)
  unfold adopt
  simp only
  split
  · exact sent.trans ⟨rfl, rfl, rfl, rfl, fun _ hr => hr,
      fun _ other held => (held.stop other).add _ _⟩
  · exact sent

theorem hear_grows (l : Loop σ) : Grows l (l.hear serve) := by
  have heard : Grows l { l with heard := l.session.transport.wire.sent.length } :=
    ⟨rfl, rfl, rfl, rfl, fun _ hr => hr, fun _ _ held => held⟩
  exact List.foldlRecOn _ _ heard fun l' h message _ => h.trans (adopt_grows l' _)

/-! ## Lining up -/

theorem lineUp_grows (l : Loop σ) (wake : Wake) : Grows l (l.lineUp wake) := by
  cases wake with
  | caller id =>
    rw [lineUp]
    cases l.readyFor? id with
    | none => exact .refl l
    | some r => exact push_grows l r
  | reader => exact push_grows l _

theorem foldl_lineUp_grows (wakes : List Wake) (l : Loop σ) : Grows l (wakes.foldl lineUp l) :=
  List.foldlRecOn _ _ (.refl l) fun l' h wake _ => h.trans (lineUp_grows l' wake)

/-- Whatever lining up somebody makes ready is ready where all have been lined up. -/
theorem mem_foldl_lineUp {wakes : List Wake} {wake : Wake} (mem : wake ∈ wakes) {r : Ready}
    (lines : ∀ m, Grows l m → r ∈ (m.lineUp wake).next) : r ∈ (wakes.foldl lineUp l).next := by
  obtain ⟨before, after, rfl⟩ := List.append_of_mem mem
  rw [List.foldl_append, List.foldl_cons]
  exact (foldl_lineUp_grows after _).next r (lines _ (foldl_lineUp_grows before l))

/-- A call that has come to a stage is noted there, the server hears what it has written, and then
its timer is set. -/
theorem record_at_stage (serve : Server σ) (l : Loop σ) {r : Session × Progress} {s : Session}
    {stage : Stage} (hr : Session.through 3 r = (s, .waiting stage))
    (alone : l.stages.filter (·.1 ≠ 0) = []) :
    let n := (({ l with session := s } : Loop σ).place 0 stage).hear serve
    l.record serve 0 r = (n.arm 0 stage).flush ∧ n.stages = [(0, stage)] ∧ n.session = s ∧
      n.released = l.released := by
  let m : Loop σ := { l with session := s }
  have placed : (m.place 0 stage).stages = [(0, stage)] := by
    show l.stages.filter (·.1 ≠ 0) ++ [(0, stage)] = [(0, stage)]
    rw [alone]
    rfl
  have heard : Grows (m.place 0 stage) ((m.place 0 stage).hear serve) := hear_grows _
  refine ⟨?_, heard.stages.trans placed, heard.session, heard.released⟩
  rw [record, hr]

theorem Queued.rest {rest : List Ready} {r x : Ready} (hc : l.current = r :: rest) (other : r ≠ x)
    (hx : l.Queued x) : ({ l with current := rest } : Loop σ).Queued x := by
  refine hx.imp_left fun now => ?_
  rw [hc] at now
  exact (List.mem_cons.mp now).resolve_left other.symm

/-- What is no matter of the call may be taken out of the round. -/
theorem Going.rest {rest : List Ready} {r : Ready} (hc : l.current = r :: rest)
    (other : r ≠ .resume 0) (other' : ∀ id, stage.id? = some id → r ≠ .relay id)
    (going : l.Going stage) : ({ l with current := rest } : Loop σ).Going stage := by
  cases stage with
  | awaiting goal id method limit =>
    cases limit with
    | none => exact going.imp_right (.rest hc other)
    | some x =>
      refine going.imp (.rest hc other) fun ⟨held, lets⟩ => ⟨held, lets.imp_left ?_⟩
      exact .rest hc (other' id rfl)
  | expiring goal id failure => exact going.imp (.rest hc other) (.rest hc (other' id rfl))
  | _ => trivial

/-- A call is not held for the request of another one. -/
theorem held?_of_other {i : Nat} (hs : l.stages = [(0, stage)]) (other : stage.id? ≠ some i) :
    l.held? i = none := by
  have ne (id : Nat) (h : stage.id? = some id) : id ≠ i := fun e => other (e ▸ h)
  cases stage with
  | awaiting goal id method limit => cases limit <;> simp [held?, hs, ne id rfl]
  | expiring goal id failure => simp [held?, hs, ne id rfl]
  | _ => simp [held?, hs]

/-- What comes from the server wakes a call that waits for it. -/
theorem announced (going : l.Going stage) {s : Session} (announces : l.session.Announces s) :
    ({ l with session := s } : Loop σ).Going stage ∨
      ({ l with session := s } : Loop σ).Woken stage := by
  cases stage with
  | awaiting goal id method limit =>
    cases limit with
    | none =>
      rcases going with none_yet | queued
      · exact (announces.outcomes id none_yet).imp .inl fun woken => woken
      · exact .inl (.inr queued)
    | some x => exact .inl going
  | expiring goal id failure => exact .inl going
  | _ => exact .inl trivial

/-- Having read, the loop lines up who has been let go on, and who has waited for the reader. -/
theorem read_grows (l : Loop σ) :
    Grows ({ l with session := l.session.read }.hear serve).flush (l.handle serve .read) := by
  unfold handle
  simp only
  split
  · exact List.foldlRecOn _ _
      ⟨rfl, rfl, rfl, rfl, fun _ hr => hr, fun _ _ held => held⟩
      fun l' h task _ => h.trans (push_grows l' _)
  · exact .refl _

theorem jump_going (going : l.Going stage) {l' : Loop σ} (hj : l.jump? = some l') :
    l'.Going stage := by
  obtain ⟨deadline, _, rfl⟩ := Option.map_eq_some_iff.mp hj
  exact Grows.going ⟨rfl, rfl, rfl, rfl, fun _ hr => hr, fun _ _ held => held⟩ going

/-! ## Rest -/

/-- Nothing goes on any more, whatever time passes. -/
structure Rests (serve : Server σ) (l : Loop σ) : Prop where
  ready : l.tick? serve = none
  timers : l.jump? = none

theorem Rests.not_queued (h : l.Rests serve) (r : Ready) : ¬ l.Queued r := by
  obtain ⟨current, next⟩ := tick?_none h.ready
  rw [Queued, current, next]
  simp

theorem Rests.not_holds (h : l.Rests serve) (r : Ready) : ¬ l.schedule.Holds r := fun held =>
  held.tidy.next? (Option.map_eq_none_iff.mp h.timers)

/-- **Where all is at rest, a call waits for nothing but a response** that has not come, and it has
no limit. -/
theorem untimed_of_rests (h : l.Rests serve) {goal : Goal} {id : Nat} {method : String}
    {limit : Option Float} (going : l.Going (.awaiting goal id method limit)) :
    limit = none ∧ l.session.outcome? id = none := by
  cases limit with
  | none => exact ⟨rfl, going.resolve_right (h.not_queued _)⟩
  | some x =>
    rcases going with queued | ⟨_, lined | scheduled⟩
    · exact absurd queued (h.not_queued _)
    · exact absurd lined (h.not_queued _)
    · exact absurd scheduled (h.not_holds _)

/-- No call waits for its end there. -/
theorem not_expiring_of_rests (h : l.Rests serve) {goal : Goal} {id : Nat} {failure : Failure} :
    ¬ l.Going (.expiring goal id failure) := fun going =>
  going.elim (h.not_queued _) (h.not_queued _)

/-! ## Ids -/

/-- The id has been given, and nobody has been let go whose request is still to come. -/
structure Old (id : Nat) (l : Loop σ) : Prop where
  given : id < l.session.nextId
  released : ∀ i ∈ l.released, i < l.session.nextId

theorem Old.mono {id : Nat} {l' : Loop σ} (h : l.Old id) (le : l.session.nextId ≤ l'.session.nextId)
    (same : l'.released = l.released) : l'.Old id :=
  ⟨Nat.lt_of_lt_of_le h.given le, fun i hi => Nat.lt_of_lt_of_le (h.released i (same ▸ hi)) le⟩

theorem flush_released (l : Loop σ) : l.flush.released = l.released :=
  (foldl_lineUp_grows l.session.wakes l).released

theorem record_released (l : Loop σ) (task : Nat) (r : Session × Progress) :
    (l.record serve task r).released = l.released := by
  unfold record
  simp only
  split
  · rw [flush_released, (hear_grows _).released]
    rfl
  · rename_i stage _
    have armed (l : Loop σ) : (l.arm task stage).released = l.released := by
      unfold arm
      split <;> rfl
    rw [flush_released, armed, (hear_grows _).released]
    rfl

theorem jump_old {id : Nat} (old : l.Old id) {l' : Loop σ} (hj : l.jump? = some l') :
    l'.Old id := by
  obtain ⟨deadline, _, rfl⟩ := Option.map_eq_some_iff.mp hj
  exact ⟨old.given, old.released⟩

end ProbeBench.Loop
