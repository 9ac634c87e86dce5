import ProbeBench.Proofs.Loop.Leaving

/-!
# Who is let go on, and how often

A call goes on when it is lined up. It is lined up when its request has got an outcome, when its
timer runs out, when it has stopped waiting, and when the reader has ended for which it waits. So
how often it is to go on is a number of things that are lined up or scheduled (`lined`, `timed`);
bookkeeping between a loop and its server leaves these numbers as they are (`KeepsWaiting`).

* `Stage.cue?`: what lets a call go on when its caller is let go on.
* `flush_lined`: what letting callers go on lines up.
* `record_cues`, `read_cues`, `receive_cues`: what the parts of a turn line up.
-/

namespace ProbeBench

/-- Whether it lets call 0 go on. -/
def Ready.isResume : Ready → Bool
  | .resume task => task = 0
  | _ => false

/-- It has to do with callers only. -/
structure Ready.OfCallers (p : Ready → Bool) : Prop where
  deliver : ∀ d, p (.deliver d) = false
  serve : p .serve = false
  read : p .read = false

theorem Ready.isResume_ofCallers : Ready.OfCallers Ready.isResume := ⟨fun _ => rfl, rfl, rfl⟩

theorem Ready.isRelay_ofCallers (id : Nat) : Ready.OfCallers (Ready.isRelay id) :=
  ⟨fun _ => rfl, rfl, rfl⟩

/-- What is lined up for call 0 when the caller of its request is let go on. -/
def Stage.cue? : Stage → Option (Nat × Ready)
  | .awaiting _ id _ none => some (id, .resume 0)
  | .awaiting _ id _ (some _) => some (id, .relay id)
  | .expiring _ id _ => some (id, .relay id)
  | _ => none

/-- What the timer of a call that has come to a stage lines up when it runs out. -/
def Stage.timer? : Stage → Option Ready
  | .awaiting _ id _ (some _) => some (.relay id)
  | _ => none

namespace Loop

variable {σ : Type} {serve : Server σ} {l l' : Loop σ} {p : Ready → Bool} {stage : Stage}

/-- How often something with a property is lined up. -/
def lined (l : Loop σ) (p : Ready → Bool) : Nat := l.current.countP p + l.next.countP p

/-- How many timers run for something with a property. -/
def timed (l : Loop σ) (p : Ready → Bool) : Nat := l.schedule.count p

/-- Nobody is let go on, or will be, who was not before. -/
structure KeepsWaiting (l l' : Loop σ) : Prop where
  lined : ∀ {p}, Ready.OfCallers p → l'.lined p = l.lined p
  timed : ∀ {p}, Ready.OfCallers p → l'.timed p = l.timed p
  released : l'.released = l.released
  closers : l'.closers = l.closers

theorem KeepsWaiting.trans {l m n : Loop σ} (h : KeepsWaiting l m) (h' : KeepsWaiting m n) :
    KeepsWaiting l n :=
  ⟨fun hp => (h'.lined hp).trans (h.lined hp), fun hp => (h'.timed hp).trans (h.timed hp),
    h'.released.trans h.released, h'.closers.trans h.closers⟩

theorem KeepsWaiting.of_eq (current : l'.current = l.current) (next : l'.next = l.next)
    (schedule : l'.schedule = l.schedule) (released : l'.released = l.released)
    (closers : l'.closers = l.closers) : KeepsWaiting l l' :=
  ⟨fun _ => by rw [Loop.lined, Loop.lined, current, next],
    fun _ => by rw [Loop.timed, Loop.timed, schedule], released, closers⟩

theorem later_timed (l : Loop σ) (delay : Float) (r : Ready) (p : Ready → Bool) :
    (l.later delay r).timed p = l.timed p + if p r then 1 else 0 :=
  Schedule.count_add _ _ _

theorem push_lined (l : Loop σ) (r : Ready) (p : Ready → Bool) :
    (l.push r).lined p = l.lined p + if p r then 1 else 0 := by
  rw [lined, lined, push, List.countP_append, List.countP_singleton, Nat.add_assoc]

theorem adopt_keepsWaiting (l : Loop σ) (t : Turn σ) : KeepsWaiting l (l.adopt t) := by
  have server : KeepsWaiting l { l with server := t.state } := .of_eq rfl rfl rfl rfl rfl
  have sent : KeepsWaiting l (t.deliveries.foldl (fun m d => m.later d.delay (.deliver d))
      { l with server := t.state }) := by
    refine List.foldlRecOn _ _ server fun m h d _ => h.trans ⟨fun _ => rfl, fun hp => ?_, rfl, rfl⟩
    rw [later_timed, hp.deliver, if_neg Bool.false_ne_true, Nat.add_zero]
  unfold adopt
  simp only
  split
  · refine sent.trans ⟨fun _ => rfl, @fun p hp => ?_, rfl, rfl⟩
    have other (r : Ready) (hr : r.isServe = true) : p r = false := by
      cases r with
      | serve => exact hp.serve
      | _ => cases hr
    rw [timed, Schedule.count_add, hp.serve, Schedule.count_stop_of_other other]
    rfl
  · exact sent

theorem hear_keepsWaiting (serve : Server σ) (l : Loop σ) : KeepsWaiting l (l.hear serve) := by
  have heard : KeepsWaiting l { l with heard := l.session.transport.wire.sent.length } :=
    .of_eq rfl rfl rfl rfl rfl
  exact List.foldlRecOn _ _ heard fun m h message _ => h.trans (adopt_keepsWaiting m _)

/-! ## Letting callers go on -/

/-- What is lined up when somebody is let go on. -/
def cued? (l : Loop σ) : Wake → Option Ready
  | .caller id => l.readyFor? id
  | .reader => some .read

theorem lineUp_eq (l : Loop σ) (wake : Wake) :
    l.lineUp wake = ((l.cued? wake).map l.push).getD l := by
  cases wake <;> rfl

/-- **Who is let go on is lined up**, as often as that happens. -/
theorem flush_lined (l : Loop σ) (p : Ready → Bool) :
    l.flush.lined p = l.lined p + l.session.wakes.countP fun w => (l.cued? w).any p := by
  have lines (wakes : List Wake) (l : Loop σ) :
      (wakes.foldl lineUp l).lined p = l.lined p + wakes.countP fun w => (l.cued? w).any p := by
    induction wakes generalizing l with
    | nil => rfl
    | cons w rest ih =>
      have same : (l.lineUp w).cued? = l.cued? := by
        funext w'
        cases w' with
        | caller id => rw [cued?, readyFor?, (lineUp_grows l w).stages, cued?, readyFor?]
        | reader => rfl
      rw [List.foldl_cons, ih, same, List.countP_cons, lineUp_eq]
      cases l.cued? w with
      | none => simp
      | some r => simp [push_lined]; omega
  exact lines _ l

theorem flush_timed (l : Loop σ) (p : Ready → Bool) : l.flush.timed p = l.timed p := by
  have scheduled : (l.session.wakes.foldl lineUp l).schedule = l.schedule := by
    refine List.foldlRecOn (motive := fun m : Loop σ => m.schedule = l.schedule) _ _ rfl
      fun m h wake _ => ?_
    rw [lineUp_eq]
    cases m.cued? wake <;> exact h
  exact congrArg (Schedule.count · p) scheduled

/-- Where only call 0 waits, nobody is lined up but its own caller. -/
theorem cued?_alone (hs : l.stages = [(0, stage)]) (hp : Ready.OfCallers p) (w : Wake) :
    (l.cued? w).any p = stage.cue?.any fun c => p c.2 && decide (w = .caller c.1) := by
  cases w with
  | reader =>
    have spared : (l.cued? .reader).any p = false := hp.read
    rw [spared]
    cases stage.cue? <;> simp
  | caller id =>
    rw [cued?, readyFor?, hs]
    cases stage with
    | awaiting goal own method limit =>
      by_cases same : own = id
      · cases limit <;> simp [Stage.cue?, same]
      · cases limit <;> simp [Stage.cue?, same, Ne.symm same]
    | expiring goal own failure =>
      by_cases same : own = id
      · simp [Stage.cue?, same]
      · simp [Stage.cue?, same, Ne.symm same]
    | _ => simp [Stage.cue?]

/-- How much of what has a property is lined up for call 0, which waits at a stage, when callers are
let go on. -/
def cues (p : Ready → Bool) (s : Session) (stage : Stage) : Nat :=
  match stage.cue? with
  | some (id, r) => if p r then s.calls id else 0
  | none => 0

theorem flush_lined_alone (hs : l.stages = [(0, stage)]) (hp : Ready.OfCallers p) :
    l.flush.lined p = l.lined p + cues p l.session stage := by
  rw [flush_lined, funext (cued?_alone hs hp), cues]
  cases stage.cue? with
  | none => simp
  | some c => cases h : p c.2 <;> simp [h, Session.calls]

/-! ## The parts of a turn -/

/-- **A call that has come to a stage** is lined up if it has been let go on, and its timer runs. -/
theorem record_cues (serve : Server σ) {r : Session × Progress} {s : Session}
    (hr : Session.through 3 r = (s, .waiting stage)) (alone : l.stages.filter (·.1 ≠ 0) = [])
    (hp : Ready.OfCallers p) :
    (l.record serve 0 r).lined p = l.lined p + cues p s stage ∧
      (l.record serve 0 r).timed p = l.timed p + if stage.timer?.any p then 1 else 0 := by
  obtain ⟨recorded, stages, session, -⟩ := record_at_stage serve l hr alone
  rw [recorded]
  let m : Loop σ := ({ l with session := s } : Loop σ).place 0 stage
  have same : KeepsWaiting l m := .of_eq rfl rfl rfl rfl rfl
  have heard := same.trans (hear_keepsWaiting serve m)
  show ((m.hear serve).arm 0 stage).flush.lined p = _ ∧
    ((m.hear serve).arm 0 stage).flush.timed p = _
  change (m.hear serve).stages = _ at stages
  change (m.hear serve).session = _ at session
  generalize m.hear serve = n at heard stages session
  have armed : (n.arm 0 stage).session = s ∧ (n.arm 0 stage).stages = [(0, stage)] ∧
      (n.arm 0 stage).lined p = n.lined p ∧
      (n.arm 0 stage).timed p = n.timed p + if stage.timer?.any p then 1 else 0 := by
    cases stage with
    | awaiting goal id method limit =>
      cases limit with
      | none => exact ⟨session, stages, rfl, rfl⟩
      | some x => exact ⟨session, stages, rfl, later_timed n x (.relay id) p⟩
    | _ => exact ⟨session, stages, rfl, rfl⟩
  obtain ⟨session', stages', lined', timed'⟩ := armed
  rw [flush_lined_alone stages' hp, flush_timed, session', lined', timed', heard.lined hp,
    heard.timed hp]
  exact ⟨rfl, rfl⟩

theorem foldl_push_lined (closers : List Nat) (l : Loop σ) (p : Ready → Bool) :
    (closers.foldl (fun l task => l.push (.resume task)) l).lined p =
      l.lined p + closers.countP fun task => p (.resume task) := by
  induction closers generalizing l with
  | nil => rfl
  | cons task rest ih =>
    rw [List.foldl_cons, ih, push_lined, List.countP_cons]
    omega

/-- **Having read**, the loop lines up who has been let go on, and who has waited for the reader to
end if it has. -/
theorem read_cues (serve : Server σ) (hs : l.stages = [(0, stage)]) (hp : Ready.OfCallers p) :
    (l.handle serve .read).lined p =
        l.lined p + cues p l.session.read stage +
          (if l.session.read.reader = .ended then l.closers.countP fun task => p (.resume task)
            else 0) ∧
      (l.handle serve .read).timed p = l.timed p ∧
      (l.handle serve .read).released = l.released ∧
      (l.handle serve .read).closers =
        if l.session.read.reader = .ended then [] else l.closers := by
  let m : Loop σ := { l with session := l.session.read }
  have same : KeepsWaiting l m := .of_eq rfl rfl rfl rfl rfl
  have heard := same.trans (hear_keepsWaiting serve m)
  have grown : Grows m (m.hear serve) := hear_grows m
  have lined : (m.hear serve).flush.lined p = l.lined p + cues p l.session.read stage := by
    rw [flush_lined_alone (grown.stages.trans hs) hp, heard.lined hp, grown.session]
  have timed : (m.hear serve).flush.timed p = l.timed p := (flush_timed _ p).trans (heard.timed hp)
  have released : (m.hear serve).flush.released = l.released :=
    (flush_released _).trans heard.released
  have closers : (m.hear serve).flush.closers = l.closers := (flush_closers _).trans heard.closers
  have reader : (m.hear serve).flush.session.reader = l.session.read.reader := by
    rw [(flush_leaves Ready.plain_continues _).session, grown.session]
  have handled : l.handle serve .read =
      if l.session.read.reader = .ended then
        (m.hear serve).flush.closers.foldl (fun l task => l.push (.resume task))
          { (m.hear serve).flush with closers := [] }
      else (m.hear serve).flush := by
    rw [← reader]
    rfl
  generalize (m.hear serve).flush = n at lined timed released closers handled
  rw [handled]
  split
  · have pushed (closers : List Nat) (l : Loop σ) :
        (closers.foldl (fun (l : Loop σ) task => l.push (.resume task)) l).schedule = l.schedule ∧
          (closers.foldl (fun (l : Loop σ) task => l.push (.resume task)) l).released =
            l.released ∧
          (closers.foldl (fun (l : Loop σ) task => l.push (.resume task)) l).closers =
            l.closers := by
      induction closers generalizing l with
      | nil => exact ⟨rfl, rfl, rfl⟩
      | cons task rest ih => exact ih _
    obtain ⟨schedule, released', closers'⟩ := pushed n.closers { n with closers := [] }
    refine ⟨?_, ?_, released'.trans released, closers'⟩
    · rw [foldl_push_lined, ← lined, closers]
      rfl
    · rw [Loop.timed, schedule]
      exact timed
  · exact ⟨lined, timed, released, closers⟩

/-- **What comes in** lines nobody up but the reader. -/
theorem receive_cues (hs : l.stages = [(0, stage)]) (d : Delivery) (idle : l.session.wakes = []) :
    KeepsWaiting l (l.receive d) := by
  obtain ⟨s, ⟨announces, same⟩, received⟩ := l.receive_eq d
    (P := fun s => l.session.Announces s ∧ Session.SameTable l.session s) ⟨.refl _, .refl _⟩
    (fun s _ h => ⟨h.1.trans (.of_eq rfl rfl fun _ => rfl), h.2.trans ⟨rfl, rfl, rfl, rfl, rfl⟩⟩)
    (fun s octets h => ⟨h.1.trans (s.arrive_announces octets),
      h.2.trans (s.arrive_stirred octets).same⟩)
    (fun s h => ⟨h.1.trans s.finish_announces, h.2.trans s.finish_stirred.same⟩)
    (fun s fault h => ⟨h.1.trans (s.failReader_announces fault),
      h.2.trans (s.failReader_stirred fault).same⟩)
  have nobody (id : Nat) : s.calls id = 0 := by
    have even := announces.calls id
    simp only [Session.untaken, same.outcomes, Session.calls, idle, List.countP_nil] at even ⊢
    omega
  have none_cued (p : Ready → Bool) : cues p s stage = 0 := by
    unfold cues
    split
    · simp [nobody]
    · rfl
  rw [received]
  refine ⟨fun hp => ?_, fun hp => flush_timed _ _, flush_released _, flush_closers _⟩
  have flushed := flush_lined_alone (l := { l with session := s }) hs hp
  rw [none_cued] at flushed
  exact flushed

end Loop

end ProbeBench
