import ProbeBench.Proofs.Loop.Connecting
import ProbeBench.Proofs.Loop.Prompt

/-!
# A handshake is all or nothing

Behind any server, one that answers in whatever way, late or never, that sends requests and
notifications of its own, or that ends, fails or breaks the stream at any time: turn by turn the
call that connects stands where it stood, goes on, or has its answer. So it ends in one of two ways,
or it waits for an answer without a limit.

* `handle_shakes`, `tick_shakes`, `await_handshakes`: turn by turn.
* `Shakes.unanswered`: what the call waits for where all is at rest.
* `record_begins`, `handshake_all_or_nothing`: the whole call.
-/

namespace ProbeBench

/-- It comes from the server. -/
def Ready.OfServer : Ready → Prop
  | .deliver _ => True
  | .serve => True
  | _ => False

theorem Ready.OfServer.ne {r : Ready} (h : r.OfServer) {p : Ready → Bool} (hp : Ready.OfCallers p)
    (yes : p r = true) : False := by
  cases r with
  | deliver d =>
    rw [hp.deliver] at yes
    cases yes
  | serve =>
    rw [hp.serve] at yes
    cases yes
  | _ => cases h

namespace Loop

open Ready (plain_continues isResume isResume_ofCallers isRelay isRelay_ofCallers)
open Session (Granted)

variable {σ : Type} {serve : Server σ} {l l' : Loop σ} {n : Nat} {params : Json}
  {limit : Option Limit} {granted : Prop} {stage : Stage}

/-! ## Turn by turn -/

/-- **Whatever goes on**, the call stands where it stood, goes on, or has its answer. -/
theorem handle_shakes (serve : Server σ) (h : l.Shakes n params limit granted stage) {r : Ready}
    {rest : List Ready} (hc : l.current = r :: rest) (old : r.Continues) :
    (({ l with current := rest } : Loop σ).handle serve r).Handshakes n params limit
      (granted ∨ Granted n l.turn) := by
  let m : Loop σ := { l with current := rest }
  have rested (other : ∀ {p}, Ready.OfCallers p → p r = false) :
      m.Shakes n params limit granted stage :=
    h.keeps (rest_keepsWaiting hc other) rfl rfl (.refl _) h.wakes
  cases r with
  | begin task call => cases old
  | relay i => exact (Handshakes.waits (h.relay hc)).mono .inl
  | resume task =>
    by_cases own : task = 0
    · subst own
      exact (h.resume hc).mono .inl
    · have gone : m.stage? task = none := by simp [stage?, m, h.stages, Ne.symm own]
      have still : m.handle serve (.resume task) = m := by rw [handle, gone]
      have resumes : l.lined isResume = m.lined isResume := by
        rw [lined_of_current hc isResume]
        simp [isResume, own, m]
      show (m.handle serve (.resume task)).Handshakes n params limit _
      rw [still]
      have tickets (id : Nat) : m.tickets id = l.tickets id := by
        have relays : l.lined (isRelay id) = m.lined (isRelay id) := lined_of_current hc _
        rw [Loop.tickets, Loop.tickets, resumes, relays]
        rfl
      have stands : m.Shakes n params limit granted stage :=
        ⟨h.stages, h.finished, h.wakes, h.timers, h.place, h.patient,
          h.once.congr resumes.symm (fun id _ => tickets id) rfl rfl (.refl _)⟩
      exact (Handshakes.waits stands).mono .inl
  | read =>
    refine (Handshakes.waits (rested fun hp => hp.read).read).mono (Or.imp_right fun now => ?_)
    rw [turn, hc]
    exact now.append_right _
  | deliver d => exact (Handshakes.waits ((rested fun hp => hp.deliver d).receive d)).mono .inl
  | serve =>
    have still := rested fun hp => hp.serve
    have left : Leaves Ready.Continues m (m.adopt (serve.goOn m.server m.now)) :=
      m.adopt_leaves plain_continues fun _ _ => trivial
    have adopted := still.keeps (adopt_keepsWaiting m (serve.goOn m.server m.now)) left.stages
      left.finished (by rw [left.session]; exact .refl _) (by rw [left.session]; exact h.wakes)
    exact (Handshakes.waits adopted).mono .inl

/-- **A turn** lets the call stand or go on; its answer comes with what the turn brings. -/
theorem tick_shakes (h : l.Shakes n params limit granted stage) (alone : l.Alone)
    (ticks : l.tick? serve = some l') :
    l'.Handshakes n params limit (granted ∨ Granted n l.turn) := by
  rcases tick?_cases ticks with ⟨r, rest, hc, rfl⟩ | ⟨hc, rfl⟩
  · exact handle_shakes serve h hc (alone.current r (hc ▸ List.mem_cons_self))
  · let due := l.schedule.tidy.take (isDueAt l.now)
    let m : Loop σ := { l with current := l.next ++ due.1, next := [], schedule := due.2 }
    have counts (p : Ready → Bool) :
        m.lined p + m.timed p = l.lined p + l.timed p ∧ m.timed p ≤ l.timed p :=
      round_counts hc rfl rfl p
    have spent : m.timed isResume = 0 := Nat.le_zero.mp (h.timers ▸ (counts isResume).2)
    have resumes : m.lined isResume = l.lined isResume := by
      have kept := (counts isResume).1
      rw [h.timers, spent] at kept
      exact kept
    have tickets (id : Nat) : m.tickets id = l.tickets id := by
      rw [Loop.tickets, Loop.tickets, Nat.add_assoc, (counts _).1, resumes, Nat.add_assoc]
    have stands : m.Shakes n params limit granted stage :=
      ⟨h.stages, h.finished, h.wakes, spent, h.place, h.patient,
        h.once.congr resumes (fun id _ => tickets id) rfl rfl (.refl _)⟩
    exact (Handshakes.waits stands).mono .inl

theorem Shakes.jump (h : l.Shakes n params limit granted stage) (jumps : l.jump? = some l') :
    l'.Shakes n params limit granted stage := by
  obtain ⟨deadline, _, rfl⟩ := Option.map_eq_some_iff.mp jumps
  exact h.keeps (.of_eq rfl rfl rfl rfl rfl) rfl rfl (.refl _) h.wakes

/-- What happens on the session while call 0 is waited for, in at most `fuel` turns. -/
def eventsFor (serve : Server σ) (fuel : Nat) (l : Loop σ) : List Traffic.Event :=
  (l.course serve 0 fuel).map (·.event)

/-- What is found when call 0 has been waited for: it has ended, or it stands somewhere. -/
def Found (n : Nat) (params : Json) (limit : Option Limit) (granted : Prop) :
    Loop σ × Option Outcome → Prop
  | (l, some o) => Session.Ends n params granted (l.session, .finished o)
  | (l, none) => l.Heedful ∧ ∃ stage, l.Shakes n params limit granted stage

theorem Found.mono {granted' : Prop} {r : Loop σ × Option Outcome}
    (h : Found n params limit granted r) (imp : granted → granted') :
    Found n params limit granted' r := by
  obtain ⟨l, _ | o⟩ := r
  · obtain ⟨heedful, stage, stands⟩ := h
    exact ⟨heedful, stage, stands.mono imp⟩
  · exact Session.Ends.mono h imp

/-- **Who waits for the call** finds that it has ended, or where it stands. -/
theorem await_handshakes (h : l.Handshakes n params limit granted) (alone : l.Alone)
    (heedful : l.Heedful) (fuel : Nat) :
    Found n params limit (granted ∨ Granted n (l.eventsFor serve fuel)) (l.await serve 0 fuel) := by
  induction fuel generalizing l granted with
  | zero =>
    cases h with
    | waits h =>
      rw [await, h.finished]
      exact ⟨heedful, _, h.mono .inl⟩
    | ended finished ends =>
      rw [await_finished finished]
      exact ends.mono .inl
  | succ fuel ih =>
    cases h with
    | ended finished ends =>
      rw [await_finished finished]
      exact ends.mono .inl
    | waits h =>
      rw [await, eventsFor, course, h.finished]
      simp only [List.find?_nil]
      cases ticks : l.tick? serve with
      | some next =>
        have later := ih (tick_shakes h alone ticks) (follows_tick alone l.traffic_follows ticks).1
          ((tick_extends ticks).heedful heedful)
        have events : ((l.dated l.turn ++ next.course serve 0 fuel).map (·.event)) =
            l.turn ++ next.eventsFor serve fuel := by
          rw [List.map_append, dated, List.map_map]
          exact congrArg (· ++ _) (List.map_id _)
        simp only [events]
        refine later.mono ?_
        rintro ((before | now) | later)
        · exact .inl before
        · exact .inr (now.append_right _)
        · exact .inr (later.append_left _)
      | none =>
        cases jumps : l.jump? with
        | some next =>
          exact ih (.waits (h.jump jumps)) (follows_jump alone l.traffic_follows jumps).1
            ((jump_extends jumps).heedful heedful)
        | none => exact ⟨heedful, _, h.mono .inl⟩

/-! ## Where all is at rest -/

theorem Rests.lined (h : l.Rests serve) (p : Ready → Bool) : l.lined p = 0 := by
  obtain ⟨current, next⟩ := tick?_none h.ready
  rw [Loop.lined, current, next]
  rfl

theorem Rests.timed (h : l.Rests serve) (p : Ready → Bool) : l.timed p = 0 := by
  rw [Loop.timed, ← Schedule.count_tidy]
  exact Schedule.count_of_next? (Option.map_eq_none_iff.mp h.timers)

/-- **Where all is at rest the call waits for nothing but the answer**, which has not come, and the
session has no limit. -/
theorem Shakes.unanswered (h : l.Shakes n params limit granted stage) (heedful : l.Heedful)
    (rests : l.Rests serve) : limit = none ∧ l.session.Unanswered n := by
  obtain ⟨-, -, -, -, place, patient, once⟩ := h
  have nobody : l.tickets n = 0 := by
    rw [tickets, rests.lined, rests.lined, rests.timed]
  have resumes := rests.lined isResume
  cases place with
  | @waits seconds _ table =>
    cases seconds with
    | none => exact ⟨patient rfl, table⟩
    | some x =>
      have := once.2.2.1
      omega
  | @replied seconds o _ table =>
    cases seconds with
    | none =>
      have one : l.session.untaken n = 1 := by simp [Session.untaken, table.outcomes]
      have := once.2
      omega
    | some x =>
      have := once.2.2.1
      omega
  | overdue =>
    have := once.2
    omega
  | leaves =>
    rcases once with ⟨phase, -⟩ | ⟨-, -, one⟩
    · exact absurd (heedful (.inr phase)) (rests.not_queued _)
    · omega

/-! ## The result -/

/-- Nobody has used the loop yet: its session is unused, no call has been made on it, and all that
is ready, or will be, comes from the server. -/
structure Unopened (l : Loop σ) : Prop where
  session : l.session.Unused
  stages : l.stages = []
  finished : l.finished = []
  released : l.released = []
  closers : l.closers = []
  all : l.All Ready.OfServer

theorem Unopened.lined (h : l.Unopened) {p : Ready → Bool} (hp : Ready.OfCallers p) :
    l.lined p = 0 := by
  have none_of {rs : List Ready} (all : ∀ r ∈ rs, r.OfServer) : rs.countP p = 0 :=
    List.countP_eq_zero.mpr fun r hr yes => Ready.OfServer.ne (all r hr) hp yes
  rw [Loop.lined, none_of h.all.current, none_of h.all.next]

theorem Unopened.timed (h : l.Unopened) {p : Ready → Bool} (hp : Ready.OfCallers p) :
    l.timed p = 0 := by
  rw [Loop.timed, Schedule.count, Array.countP_eq_zero]
  intro t ht runs
  have yes : p t.due = true := by
    simp only [Bool.and_eq_true] at runs
    exact runs.2
  exact Ready.OfServer.ne (h.all.schedule t ht) hp yes

/-- **The call begins.** -/
theorem record_begins (serve : Server σ) (h : l.Unopened) (params : Json) :
    (l.record serve 0 (l.session.begin (.connect params))).Handshakes 1 params l.session.limit
      False := by
  have called : l.Called := by
    refine ⟨?_, h.finished, h.lined isResume_ofCallers, h.timed isResume_ofCallers, h.closers⟩
    rw [h.stages]
    rfl
  have spent : l.tickets 1 = 0 := by
    rw [tickets, h.lined isResume_ofCallers, h.lined (isRelay_ofCallers 1),
      h.timed (isRelay_ofCallers 1)]
  have begins : Session.Begins params False l.session.limit
      (Session.through 3 (l.session.begin (.connect params))) :=
    Session.shakes_begin h.session params
  generalize hr : Session.through 3 (l.session.begin (.connect params)) = r at begins
  cases begins with
  | waits shaking table idle patient =>
    have held : 1 ∉ l.released := by
      rw [h.released]
      exact List.not_mem_nil
    exact record_waits called spent held hr shaking table idle patient
  | stops stops => exact record_stops called spent (hr ▸ stops)
  | ends ends => exact record_ends called (hr ▸ ends)

theorem Unopened.alone (h : l.Unopened) : l.Alone := by
  have continues {r : Ready} (hr : r.OfServer) : r.Continues := by cases r <;> trivial
  exact ⟨fun r hr => continues (h.all.current r hr), fun r hr => continues (h.all.next r hr),
    fun t ht => continues (h.all.schedule t ht)⟩

theorem Unopened.heedful (h : l.Unopened) : l.Heedful := by
  intro stirs
  rcases stirs with phase | phase <;> rw [h.session.reader] at phase <;> cases phase

/-- **Who connects and waits** finds that the call has ended, or where it stands. -/
theorem connect_found (serve : Server σ) (h : l.Unopened) (params : Json) (fuel : Nat) :
    let begun := l.record serve 0 (l.session.begin (.connect params))
    Found 1 params l.session.limit (Granted 1 (begun.eventsFor serve fuel))
      (begun.await serve 0 fuel) := by
  have left := record_leaves plain_continues serve.hears_continues l 0
    (l.session.begin (.connect params))
  have alone := left.all ⟨h.alone.current, h.alone.next, h.alone.schedule⟩
  have extends_ := record_extends serve l 0 (l.session.begin_moves (.connect params)).widens
  exact (await_handshakes (record_begins serve h params) alone (extends_.heedful h.heedful)
    fuel).mono (Or.resolve_left · id)

/-- **A handshake is all or nothing**, whatever the server does. If the call that connects ends
without a failure, the session is live with nothing pending, and what was written is the request
with id 1, refusals of what the server has asked in the meantime, and the acknowledgement of the
result that the server has answered with. If it ends with a failure, the session and its stream are
closed with nothing pending, the reader has ended, and nothing was acknowledged. As long as it has
not ended, nothing is acknowledged; and it stops before its end only where all is at rest and the
session waits without a limit for an answer that has not come. -/
theorem handshake_all_or_nothing (serve : Server σ) (h : l.Unopened) (params : Json) (fuel : Nat) :
    let begun := l.record serve 0 (l.session.begin (.connect params))
    match begun.await serve 0 fuel with
    | (l', some (.ok _)) =>
      l'.session.Greeted 1 params ∧ Granted 1 (begun.eventsFor serve fuel)
    | (l', some (.error _)) => l'.session.Dismissed 1 params ∧ l'.session.reader = .ended
    | (l', none) =>
      l'.session.Tried 1 params ∧
        (l'.Rests serve ∧ l.session.limit = none ∧ l'.session.Unanswered 1 ∨
          Passes serve fuel begun l') := by
  intro begun
  have found : Found 1 params l.session.limit (Granted 1 (begun.eventsFor serve fuel))
      (begun.await serve 0 fuel) := connect_found serve h params fuel
  cases waited : begun.await serve 0 fuel with
  | mk l' r =>
    rw [waited] at found
    cases r with
    | some o =>
      cases found with
      | made greeted ok => exact ⟨greeted, ok⟩
      | failed dismissed reader => exact ⟨dismissed, reader⟩
    | none =>
      obtain ⟨heedful, stage, stands⟩ := found
      refine ⟨stands.place.tried, (await_none waited).imp_left fun rests => ⟨rests, ?_⟩⟩
      exact stands.unanswered heedful rests

end Loop

end ProbeBench
