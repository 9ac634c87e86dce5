import ProbeBench.Proofs.Loop.Cues
import ProbeBench.Proofs.Session.Connecting

/-!
# A call that connects stands or goes on

A call connects a session that nobody has used, behind any server. While it waits it stands at one
of its places (`Loop.Shakes`), and it is let go on once when what it waits for is there
(`Loop.LetGoOnce`): neither twice, which would let it end before the reader has, nor never.

* `Shakes.keeps`, `Shakes.relay`, `Shakes.read`: what goes on around the call.
* `Called`, `record_waits`, `record_ends`, `record_stops`: a call that has gone on.
* `Shakes.last`, `Shakes.resume`: how the call goes on.
-/

namespace ProbeBench

namespace Loop

open Ready (plain_continues isResume isResume_ofCallers isRelay isRelay_ofCallers)
open Session (Granted)

variable {σ : Type} {serve : Server σ} {l l' : Loop σ} {n : Nat} {params : Json}
  {limit : Option Limit} {granted : Prop} {stage : Stage}

/-! ## How often somebody is let go on -/

/-- How often the caller of a request is let go on, or will be when its time is over. -/
def tickets (id : Nat) (l : Loop σ) : Nat :=
  l.lined isResume + l.lined (isRelay id) + l.timed (isRelay id)

theorem KeepsWaiting.tickets (h : KeepsWaiting l l') (id : Nat) : l'.tickets id = l.tickets id := by
  rw [Loop.tickets, Loop.tickets, h.lined isResume_ofCallers, h.lined (isRelay_ofCallers id),
    h.timed (isRelay_ofCallers id)]

theorem lined_of_current {r : Ready} {rest : List Ready} (hc : l.current = r :: rest)
    (p : Ready → Bool) :
    l.lined p = ({ l with current := rest } : Loop σ).lined p + if p r then 1 else 0 := by
  rw [lined, lined, hc, List.countP_cons]
  exact Nat.add_right_comm _ _ _

/-- Taking out of the round what lets no caller go on. -/
theorem rest_keepsWaiting {r : Ready} {rest : List Ready} (hc : l.current = r :: rest)
    (other : ∀ {p}, Ready.OfCallers p → p r = false) :
    KeepsWaiting l { l with current := rest } := by
  refine ⟨fun {p} hp => ?_, fun _ => rfl, rfl, rfl⟩
  have counted := lined_of_current hc p
  rw [other hp, if_neg Bool.false_ne_true] at counted
  exact counted.symm

/-- A new round lines up what is due, and loses nothing. -/
theorem round_counts (past : l.current = []) {current : List Ready}
    {schedule : Schedule Float Ready}
    (hc : current = l.next ++ (l.schedule.tidy.take (isDueAt l.now)).1)
    (hs : schedule = (l.schedule.tidy.take (isDueAt l.now)).2) (p : Ready → Bool) :
    let l' : Loop σ := { l with current, next := [], schedule }
    l'.lined p + l'.timed p = l.lined p + l.timed p ∧ l'.timed p ≤ l.timed p := by
  have taken := l.schedule.tidy.count_take (q := p) (isDueAt l.now)
  rw [Schedule.count_tidy, ← hs] at taken
  simp only [lined, timed, past, hc, List.countP_append, List.countP_nil]
  omega

/-! ## Where the call stands -/

/-- Call 0, which waits at a stage, is let go on once, when what it waits for is there. -/
def LetGoOnce (l : Loop σ) : Stage → Prop
  | .awaiting _ id _ none => l.closers = [] ∧ l.lined isResume = l.session.untaken id
  | .awaiting _ id _ (some _) =>
    l.closers = [] ∧ l.lined isResume = (if id ∈ l.released then 1 else 0) ∧ 1 ≤ l.tickets id ∧
      (l.session.untaken id = 0 → l.tickets id = 1)
  | .expiring _ id _ => l.closers = [] ∧ l.tickets id = 1
  | .releasing _ =>
    l.session.reader = .cancelled ∧ l.closers = [0] ∧ l.lined isResume = 0 ∨
      l.session.reader = .ended ∧ l.closers = [] ∧ l.lined isResume = 1
  | _ => True

/-- Call 0 connects the session and waits at a stage; no other call is open. -/
structure Shakes (n : Nat) (params : Json) (limit : Option Limit) (granted : Prop) (stage : Stage)
    (l : Loop σ) : Prop where
  stages : l.stages = [(0, stage)]
  finished : l.finished = []
  wakes : l.session.wakes = []
  timers : l.timed isResume = 0
  place : Session.Shakes n params granted l.session stage
  patient : stage = .awaiting .connect n "initialize" none → limit = none
  once : l.LetGoOnce stage

theorem Shakes.mono {granted' : Prop} (h : l.Shakes n params limit granted stage)
    (imp : granted → granted') : l.Shakes n params limit granted' stage :=
  ⟨h.stages, h.finished, h.wakes, h.timers, h.place.mono imp, h.patient, h.once⟩

/-- Call 0 connects the session, or has done so. -/
inductive Handshakes (n : Nat) (params : Json) (limit : Option Limit) (granted : Prop)
    (l : Loop σ) : Prop
  | waits {stage : Stage} (h : l.Shakes n params limit granted stage)
  | ended {o : Outcome} (finished : l.finished = [(0, o)])
      (ends : Session.Ends n params granted (l.session, .finished o))

theorem Handshakes.mono {granted' : Prop} (h : l.Handshakes n params limit granted)
    (imp : granted → granted') : l.Handshakes n params limit granted' := by
  cases h with
  | waits h => exact .waits (h.mono imp)
  | ended finished ends => exact .ended finished (ends.mono imp)

/-! ## What goes on around the call -/

/-- Only who lets the call go on matters, and for what. -/
theorem LetGoOnce.congr (h : l.LetGoOnce stage) (lined : l'.lined isResume = l.lined isResume)
    (tickets : ∀ id, stage.id? = some id → l'.tickets id = l.tickets id)
    (released : l'.released = l.released) (closers : l'.closers = l.closers)
    (nudged : l.session.Nudged l'.session) : l'.LetGoOnce stage := by
  have untaken (id : Nat) : l'.session.untaken id = l.session.untaken id := by
    rw [Session.untaken, Session.untaken, nudged.same.outcomes]
  cases stage with
  | awaiting goal id method seconds =>
    cases seconds with
    | none =>
      rw [LetGoOnce, closers, lined, untaken]
      exact h
    | some x =>
      rw [LetGoOnce, closers, lined, released, tickets id rfl, untaken]
      exact h
  | expiring goal id failure =>
    rw [LetGoOnce, closers, tickets id rfl]
    exact h
  | releasing result =>
    have awake : l.session.reader ≠ .waiting := by
      rcases h with ⟨phase, -⟩ | ⟨phase, -⟩ <;> rw [phase] <;> decide
    rw [LetGoOnce, closers, lined, nudged.reader_of_awake awake]
    exact h
  | _ => trivial

theorem Shakes.keeps (h : l.Shakes n params limit granted stage) (keeps : KeepsWaiting l l')
    (stages : l'.stages = l.stages) (finished : l'.finished = l.finished)
    (nudged : l.session.Nudged l'.session) (wakes : l'.session.wakes = []) :
    l'.Shakes n params limit granted stage :=
  ⟨stages.trans h.stages, finished.trans h.finished, wakes,
    (keeps.timed isResume_ofCallers).trans h.timers, h.place.nudge nudged, h.patient,
    h.once.congr (keeps.lined isResume_ofCallers) (fun id _ => keeps.tickets id) keeps.released
      keeps.closers nudged⟩

/-- **What arrives** lies there. -/
theorem Shakes.receive (h : l.Shakes n params limit granted stage) (d : Delivery) :
    (l.receive d).Shakes n params limit granted stage := by
  obtain ⟨s, nudged, received⟩ := l.receive_eq d (P := fun s => l.session.Nudged s) (.refl _)
    (fun s _ h => h.trans ⟨⟨rfl, rfl, rfl, rfl, rfl⟩, rfl, rfl, .inl rfl⟩)
    (fun s octets h => h.trans (s.arrive_nudged octets)) (fun s h => h.trans s.finish_nudged)
    (fun s fault h => h.trans (s.failReader_nudged fault))
  have left := l.receive_leaves plain_continues d
  have flushed := flush_leaves plain_continues { l with session := s }
  have session : (l.receive d).session = { s with wakes := [] } := by
    rw [received]
    exact flushed.session
  refine h.keeps (receive_cues h.stages d h.wakes) left.stages left.finished ?_ ?_
  · rw [session]
    exact nudged.trans ⟨⟨rfl, rfl, rfl, rfl, rfl⟩, rfl, rfl, .inl rfl⟩
  · rw [session]

/-- What the caller of a request is let go on for is that an outcome has been read. -/
theorem calls_read (wakes : l.session.wakes = []) (id : Nat) :
    l.session.read.calls id + l.session.untaken id = l.session.read.untaken id := by
  have even := l.session.read_announces.calls id
  simp only [Session.calls, wakes, List.countP_nil, Nat.zero_add] at even
  exact even

theorem read_session (serve : Server σ) (l : Loop σ) :
    (l.handle serve .read).session = { l.session.read with wakes := [] } :=
  (handle_read_leaves plain_continues serve.hears_continues l).session

theorem LetGoOnce.read_awaiting {goal : Goal} {method : String} {seconds : Option Float}
    (h : l.LetGoOnce (.awaiting goal n method seconds))
    (hs : l.stages = [(0, .awaiting goal n method seconds)]) (wakes : l.session.wakes = []) :
    (l.handle serve .read).LetGoOnce (.awaiting goal n method seconds) := by
  have called := calls_read wakes n
  have untaken : (l.handle serve .read).session.untaken n = l.session.read.untaken n := by
    rw [read_session]
    rfl
  obtain ⟨resumes, -, released, closers⟩ := read_cues serve hs isResume_ofCallers
  obtain ⟨relays, timed, -⟩ := read_cues serve hs (isRelay_ofCallers n)
  cases seconds with
  | none =>
    obtain ⟨nobody, lined⟩ := h
    simp only [nobody, cues, Stage.cue?, isResume, decide_true, if_true, List.countP_nil, ite_self,
      Nat.add_zero] at resumes closers
    refine ⟨closers, ?_⟩
    rw [resumes, untaken, lined, ← called, Nat.add_comm]
  | some x =>
    obtain ⟨nobody, lined, some_ticket, one⟩ := h
    simp only [nobody, cues, Stage.cue?, isResume, isRelay, decide_true, if_true, List.countP_nil,
      ite_self, Nat.add_zero, Bool.false_eq_true, if_false] at resumes relays closers
    have tickets : (l.handle serve .read).tickets n = l.tickets n + l.session.read.calls n := by
      rw [Loop.tickets, Loop.tickets, resumes, relays, timed]
      omega
    refine ⟨closers, ?_, by omega, fun none_yet => ?_⟩
    · rw [resumes, lined, released]
    · rw [untaken] at none_yet
      rw [tickets, one (by omega)]
      omega

theorem LetGoOnce.read_expiring {goal : Goal} {failure : Failure}
    (h : l.LetGoOnce (.expiring goal n failure)) (hs : l.stages = [(0, .expiring goal n failure)])
    (uncalled : l.session.read.calls n = 0) :
    (l.handle serve .read).LetGoOnce (.expiring goal n failure) := by
  obtain ⟨nobody, one⟩ := h
  obtain ⟨resumes, -, -, closers⟩ := read_cues serve hs isResume_ofCallers
  obtain ⟨relays, timed, -⟩ := read_cues serve hs (isRelay_ofCallers n)
  simp only [nobody, cues, Stage.cue?, isResume, isRelay, decide_true, List.countP_nil, ite_self,
    Nat.add_zero, Bool.false_eq_true, uncalled] at resumes relays closers
  refine ⟨closers, ?_⟩
  rw [Loop.tickets, resumes, relays, timed]
  exact one

theorem LetGoOnce.read_releasing {result : Outcome} (h : l.LetGoOnce (.releasing result))
    (hs : l.stages = [(0, .releasing result)]) :
    (l.handle serve .read).LetGoOnce (.releasing result) := by
  have ended : l.session.read.reader = .ended := by
    rcases h with ⟨phase, -⟩ | ⟨phase, -⟩ <;> simp only [Session.read, phase]
    rfl
  obtain ⟨resumes, -, -, closers⟩ := read_cues serve hs isResume_ofCallers
  simp only [ended, if_true] at resumes closers
  refine .inr ⟨?_, closers, ?_⟩
  · rw [read_session]
    exact ended
  · rcases h with ⟨-, waits, lined⟩ | ⟨-, waits, lined⟩
    · rw [resumes, waits, lined]
      rfl
    · rw [resumes, waits, lined]
      rfl

/-- **What is read** may bring the answer, and with it the call goes on; where the reader ends, who
waits for that goes on. -/
theorem Shakes.read (h : l.Shakes n params limit granted stage) :
    (l.handle serve .read).Shakes n params limit (granted ∨ Granted n l.session.reading) stage := by
  have left := handle_read_leaves plain_continues serve.hears_continues l
  obtain ⟨-, timers, -⟩ := read_cues serve h.stages isResume_ofCallers
  have session := read_session serve l
  refine ⟨left.stages.trans h.stages, left.finished.trans h.finished, by rw [session],
    timers.trans h.timers, ?_, h.patient, ?_⟩
  · rw [session]
    exact h.place.read.nudge ⟨⟨rfl, rfl, rfl, rfl, rfl⟩, rfl, rfl, .inl rfl⟩
  · obtain ⟨hs, -, wakes, -, place, -, once⟩ := h
    have later := place.read
    cases place with
    | waits => exact once.read_awaiting hs wakes
    | replied => exact once.read_awaiting hs wakes
    | overdue _ table =>
      have called := calls_read wakes n
      cases later with
      | overdue _ still =>
        refine once.read_expiring hs ?_
        rw [Session.untaken, Session.untaken, table.outcomes, still.outcomes] at called
        exact called
    | leaves => exact once.read_releasing hs

/-- A ticket that lets a caller go on is exchanged for his going on. -/
theorem tickets_relayed {i : Nat} {rest : List Ready} (hc : l.current = .relay i :: rest) :
    (({ l with current := rest, released := l.released ++ [i] } : Loop σ).push
      (.resume 0)).tickets i = l.tickets i := by
  have resumes : l.lined isResume = ({ l with current := rest } : Loop σ).lined isResume :=
    lined_of_current hc isResume
  have relays : l.lined (isRelay i) = ({ l with current := rest } : Loop σ).lined (isRelay i) + 1 :=
    lined_of_current hc _ |>.trans (by simp [isRelay])
  rw [tickets, tickets, push_lined, push_lined, resumes, relays]
  simp only [isResume, isRelay, Bool.false_eq_true, if_false]
  exact congrArg (· + l.timed (isRelay i)) (Nat.add_right_comm _ _ _)

/-- **The caller is let go**, unless that has happened before. -/
theorem Shakes.relay (h : l.Shakes n params limit granted stage) {i : Nat} {rest : List Ready}
    (hc : l.current = .relay i :: rest) :
    (({ l with current := rest } : Loop σ).release i).Shakes n params limit granted stage := by
  let m : Loop σ := { l with current := rest }
  have resumes : l.lined isResume = m.lined isResume := lined_of_current hc isResume
  have relays (id : Nat) : l.lined (isRelay id) = m.lined (isRelay id) + if i = id then 1 else 0 :=
    lined_of_current hc _ |>.trans (by simp [isRelay, m])
  -- whoever is not let go stands where he stood
  have stays (held : m.held? i = none) (once : m.LetGoOnce stage) :
      (m.release i).Shakes n params limit granted stage := by
    rw [release, held]
    exact ⟨h.stages, h.finished, h.wakes, h.timers, h.place, h.patient, once⟩
  have goes (held : m.held? i = some 0)
      (once : (({ m with released := m.released ++ [i] } : Loop σ).push (.resume 0)).LetGoOnce
        stage) : (m.release i).Shakes n params limit granted stage := by
    rw [release, held]
    exact ⟨h.stages, h.finished, h.wakes, h.timers, h.place, h.patient, once⟩
  by_cases own : stage.id? = some i
  · have once := h.once
    have relayed := relays i
    rw [if_pos rfl] at relayed
    cases stage with
    | awaiting goal id method seconds =>
      cases own
      cases seconds with
      | none =>
        refine stays (by simp [held?, m, h.stages]) ⟨once.1, ?_⟩
        rw [← resumes]
        exact once.2
      | some x =>
        obtain ⟨nobody, lined, some_ticket, one⟩ := once
        by_cases gone : i ∈ l.released
        · rw [if_pos gone] at lined
          refine stays (by simp [held?, m, h.stages, gone]) ⟨nobody, ?_, ?_, fun none_yet => ?_⟩
          · rw [← resumes, lined]
            exact (if_pos gone).symm
          · rw [tickets, ← resumes, lined]
            omega
          · have only := one none_yet
            rw [tickets] at only
            omega
        · rw [if_neg gone] at lined
          have same := tickets_relayed hc
          refine goes (by simp [held?, m, h.stages, gone])
            ⟨nobody, ?_, same ▸ some_ticket, fun none_yet => same.trans (one none_yet)⟩
          rw [push_lined]
          show m.lined isResume + _ = _
          rw [← resumes, lined]
          simp [isResume, push]
    | expiring goal id failure =>
      cases own
      exact goes (by simp [held?, m, h.stages]) ⟨once.1, (tickets_relayed hc).trans once.2⟩
    | writing after => cases h.place
    | _ => cases own
  · refine stays (held?_of_other h.stages own) (h.once.congr resumes.symm (fun id hid => ?_) rfl rfl
      (.refl _))
    have other : i ≠ id := fun e => own (e ▸ hid)
    have same := relays id
    rw [if_neg other] at same
    rw [Loop.tickets, Loop.tickets, ← resumes, same]
    rfl

/-! ## How the call goes on -/

/-- Call 0 goes on, and nothing else lets it go on, nor will. -/
structure Called (l : Loop σ) : Prop where
  stages : l.stages.filter (·.1 ≠ 0) = []
  finished : l.finished = []
  lined : l.lined isResume = 0
  timers : l.timed isResume = 0
  closers : l.closers = []

/-- Who closes the session waits for the reader. -/
theorem record_closers (l : Loop σ) {r : Session × Progress} {s : Session} :
    Session.through 3 r = (s, .waiting stage) →
      (l.record serve 0 r).closers =
        match stage with
        | .releasing _ => l.closers ++ [0]
        | _ => l.closers := by
  intro hr
  rw [record, hr]
  simp only
  rw [flush_closers]
  cases stage with
  | awaiting goal id method seconds => cases seconds <;> exact hear_closers _
  | releasing result => exact congrArg (· ++ [0]) (hear_closers _)
  | _ => exact hear_closers _

/-- A call that waits when it has gone on stands at its stage. -/
theorem Called.record (h : l.Called) {r : Session × Progress} {s : Session}
    (hr : Session.through 3 r = (s, .waiting stage))
    (place : Session.Shakes n params granted s stage)
    (patient : stage = .awaiting .connect n "initialize" none → limit = none)
    (untimed : stage.timer?.any isResume = false)
    (once : (l.record serve 0 r).LetGoOnce stage) :
    (l.record serve 0 r).Shakes n params limit granted stage := by
  have left := record_leaves plain_continues serve.hears_continues l 0 r
  obtain ⟨-, timed⟩ := record_cues serve hr h.stages isResume_ofCallers
  rw [hr] at left
  refine ⟨left.stages.trans ?_, left.finished.trans h.finished, by rw [left.session], ?_, ?_,
    patient, once⟩
  · show l.stages.filter (·.1 ≠ 0) ++ [(0, stage)] = _
    rw [h.stages]
    rfl
  · rw [timed, h.timers, untimed]
    rfl
  · rw [left.session]
    exact place.nudge ⟨⟨rfl, rfl, rfl, rfl, rfl⟩, rfl, rfl, .inl rfl⟩

/-- **A call that waits for its answer** is let go on by that, or by its timer. -/
theorem record_waits (h : l.Called) (spent : l.tickets n = 0) (held : n ∉ l.released)
    {r : Session × Progress} {s : Session} {seconds : Option Float}
    (hr : Session.through 3 r = (s, .waiting (.awaiting .connect n "initialize" seconds)))
    (shaking : s.Shaking n params) (table : s.Unanswered n) (idle : s.calls n = 0)
    (patient : seconds = none → limit = none) :
    (l.record serve 0 r).Handshakes n params limit granted := by
  have left := record_leaves plain_continues serve.hears_continues l 0 r
  obtain ⟨resumes, -⟩ := record_cues serve hr h.stages isResume_ofCallers
  obtain ⟨relays, timed⟩ := record_cues serve hr h.stages (isRelay_ofCallers n)
  have untaken : (l.record serve 0 r).session.untaken n = 0 := by
    rw [left.session, hr]
    exact Session.untaken_eq_zero.mpr table.outcome?
  have nobody : (l.record serve 0 r).closers = [] := (record_closers l hr).trans h.closers
  refine .waits (h.record hr (.waits shaking table) (fun e => patient (by cases e; rfl)) ?_ ?_)
  · cases seconds <;> rfl
  · rw [tickets] at spent
    cases seconds with
    | none =>
      simp only [cues, Stage.cue?, isResume, decide_true, if_true, idle, h.lined] at resumes
      exact ⟨nobody, resumes.trans untaken.symm⟩
    | some x =>
      simp only [cues, Stage.cue?, Stage.timer?, isResume, isRelay, decide_true, if_true,
        Bool.false_eq_true, if_false, idle, h.lined, Option.any_some] at resumes relays timed
      have one : (l.record serve 0 r).tickets n = 1 := by
        rw [tickets]
        omega
      refine ⟨nobody, ?_, Nat.le_of_eq one.symm, fun _ => one⟩
      rw [resumes, record_released, if_neg held]

/-- **A call that ends** has ended, or waits for the reader. -/
theorem record_ends (h : l.Called) {r : Session × Progress}
    (ends : Session.Ends n params granted (Session.through 3 r)) :
    (l.record serve 0 r).Handshakes n params limit granted := by
  have left := record_leaves plain_continues serve.hears_continues l 0 r
  have over_ {s : Session} {o : Outcome} (hr : Session.through 3 r = (s, .finished o))
      (ends : Session.Ends n params granted (s, .finished o)) :
      (l.record serve 0 r).Handshakes n params limit granted := by
    rw [hr] at left
    refine .ended (o := o) (left.finished.trans ?_) ?_
    · show l.finished ++ _ = _
      rw [h.finished]
      rfl
    · rw [left.session]
      exact ends.hush
  generalize hr : Session.through 3 r = r' at ends
  cases ends with
  | leaves dismissed reader =>
    refine .waits (h.record hr (.leaves dismissed (.inl reader)) nofun rfl (.inl ⟨?_, ?_, ?_⟩))
    · rw [left.session, hr]
      exact reader
    · rw [record_closers l hr, h.closers]
      rfl
    · rw [(record_cues serve hr h.stages isResume_ofCallers).1, h.lined]
      rfl
  | made greeted ok => exact over_ hr (.made greeted ok)
  | failed dismissed reader => exact over_ hr (.failed dismissed reader)

/-- **A call that has stopped waiting** is let go on once. -/
theorem record_stops (h : l.Called) (spent : l.tickets n = 0) {r : Session × Progress}
    (stops : Session.Stops n params (Session.through 3 r)) :
    (l.record serve 0 r).Handshakes n params limit granted := by
  generalize hr : Session.through 3 r = r' at stops
  cases stops with
  | stops shaking table called =>
    refine .waits (h.record hr (.overdue shaking table) nofun rfl ⟨?_, ?_⟩)
    · rw [record_closers l hr, h.closers]
    · obtain ⟨resumes, -⟩ := record_cues serve hr h.stages isResume_ofCallers
      obtain ⟨relays, timed⟩ := record_cues serve hr h.stages (isRelay_ofCallers n)
      rw [tickets] at spent ⊢
      simp only [cues, Stage.cue?, Stage.timer?, isResume, isRelay, decide_true, if_true,
        Bool.false_eq_true, if_false, Option.any_none, called] at resumes relays timed
      omega

/-- A clock that is stopped lets nobody go on. -/
theorem disarm_timed (l : Loop σ) (stage : Stage) (p : Ready → Bool) :
    (l.disarm stage).timed p ≤ l.timed p := by
  unfold disarm
  split
  · exact l.schedule.count_stop_le _
  · exact Nat.le_refl _

theorem disarm_lined (l : Loop σ) (stage : Stage) (p : Ready → Bool) :
    (l.disarm stage).lined p = l.lined p := by
  unfold disarm
  split <;> rfl

/-- **The call is let go on for the first and the last time**, when what it waits for is there. -/
theorem Shakes.last (h : l.Shakes n params limit granted stage) (now : 0 < l.lined isResume) :
    l.lined isResume = 1 ∧ l.closers = [] ∧
      (stage = .awaiting .connect n "initialize" none → l.session.outcome? n ≠ none) ∧
      ∀ result, stage = .releasing result → l.session.reader = .ended := by
  obtain ⟨-, -, -, -, place, -, once⟩ := h
  cases place with
  | @waits seconds _ table =>
    have none_yet : l.session.untaken n = 0 := Session.untaken_eq_zero.mpr table.outcome?
    cases seconds with
    | none =>
      have := once.2
      omega
    | some x =>
      obtain ⟨nobody, resumes, -⟩ := once
      refine ⟨?_, nobody, by rintro ⟨⟩, by rintro _ ⟨⟩⟩
      split at resumes <;> omega
  | @replied seconds o _ table =>
    have replied : l.session.outcome? n ≠ none := by
      rw [table.outcome?]
      exact Option.some_ne_none _
    cases seconds with
    | none =>
      have one : l.session.untaken n = 1 := by simp [Session.untaken, table.outcomes]
      have := once.2
      exact ⟨by omega, once.1, fun _ => replied, by rintro _ ⟨⟩⟩
    | some x =>
      obtain ⟨nobody, resumes, -⟩ := once
      refine ⟨?_, nobody, by rintro ⟨⟩, by rintro _ ⟨⟩⟩
      split at resumes <;> omega
  | overdue =>
    obtain ⟨nobody, one⟩ := once
    rw [tickets] at one
    exact ⟨by omega, nobody, by rintro ⟨⟩, by rintro _ ⟨⟩⟩
  | leaves =>
    rcases once with ⟨-, -, resumes⟩ | ⟨phase, nobody, resumes⟩
    · omega
    · exact ⟨by omega, nobody, by rintro ⟨⟩, fun _ _ => phase⟩

/-- **The call goes on.** -/
theorem Shakes.resume (h : l.Shakes n params limit granted stage) {rest : List Ready}
    (hc : l.current = .resume 0 :: rest) :
    (({ l with current := rest } : Loop σ).handle serve (.resume 0)).Handshakes n params limit
      granted := by
  let m : Loop σ := { l with current := rest }
  have lined : l.lined isResume = m.lined isResume + 1 := lined_of_current hc isResume
  have there : m.stage? 0 = some stage := by simp [stage?, m, h.stages]
  obtain ⟨first, nobody, answered, ended⟩ := h.last (by omega)
  have resumed : m.lined isResume = 0 := by omega
  have disarmed : Leaves Ready.Continues m (m.disarm stage) := m.disarm_leaves stage
  have lines (p : Ready → Bool) : (m.disarm stage).lined p = m.lined p := disarm_lined m stage p
  have called : (m.disarm stage).Called := by
    refine ⟨?_, disarmed.finished.trans h.finished, (lines _).trans resumed, ?_, ?_⟩
    · rw [disarmed.stages]
      show l.stages.filter _ = []
      rw [h.stages]
      rfl
    · exact Nat.le_zero.mp (h.timers ▸ disarm_timed m stage _)
    · unfold disarm
      split <;> exact nobody
  have idle : l.session.calls n = 0 := by rw [Session.calls, h.wakes]; rfl
  have goes : m.handle serve (.resume 0) =
      (m.disarm stage).record serve 0 (l.session.resume stage) := by
    rw [handle, there]
  rw [goes]
  rcases Session.shakes_resume h.place idle answered ended with ends | ⟨⟨x, rfl⟩, table, stops⟩
  · exact record_ends called ends
  · -- without an outcome it is let go on only by this, and its timer has run out
    refine record_stops called ?_ stops
    have only := h.once.2.2.2 (Session.untaken_eq_zero.mpr table.outcome?)
    have relays : l.lined (isRelay n) = m.lined (isRelay n) := lined_of_current hc _
    have timers := disarm_timed m (.awaiting .connect n "initialize" (some x)) (isRelay n)
    rw [tickets] at only ⊢
    rw [lines, lines]
    have same : m.timed (isRelay n) = l.timed (isRelay n) := rfl
    omega

end Loop

end ProbeBench
