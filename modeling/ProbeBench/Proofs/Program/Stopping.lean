import ProbeBench.Program.Course
import ProbeBench.Proofs.Schedule.Clock

/-!
# No child outlives its block

What a child does is up to the child: it exits by itself at any time, or not; and each signal ends
it some time later, or finds it gone, or makes it exit with a code of its own, or does nothing
(`Child.Cause`). Of all that makes it exit the first counts (`Child.Exits`). A watch that ends a
child keeps track of that: as long as the child runs, just the exits to come are on its schedule, in
order (`Watch.Running`), and once it has noted an exit it was the first (`Watch.Over`).

* `Running.happen`, `wait_cases`: what is due at one time, and the one step that waiting takes.
* `Running.waitUntil`: what waiting for a deadline comes to. If the deadline is first, every exit
  comes later.
* `Running.wait`: a child that exits some time is waited for until then.
* `Running.send`, `Over.send`: a signal adds what it leads to, unless it is too late.
* `Sound.kill`, `Sound.finish`: kill ends a child, and so does terminate with kill after a while.
* `stop_over`, `leave_over`: the results, for any times and for seconds.
-/

namespace ProbeBench

/-! ## What makes a child exit -/

section Causes

variable {τ : Type} [Add τ]

/-- A signal that was sent makes a child exit at some time, with some code. -/
def Child.Answers (c : Child τ) (s : Sending τ) (time : τ) (code : Int) : Prop :=
  match c.on s.signal with
  | .ends delay => time = s.time + delay ∧ code = s.signal.code
  | .gone => time = s.time ∧ code = c.exitCode
  | .exits delay own => time = s.time + delay ∧ code = own
  | .ignores => False

/-- Something makes a child exit at some time, with some code: the child itself, or one of the
signals that were sent. -/
def Child.Cause (c : Child τ) (sent : List (Sending τ)) (time : τ) (code : Int) : Prop :=
  (c.exits = some time ∧ code = c.exitCode) ∨ ∃ s ∈ sent, c.Answers s time code

/-- A child exits at some time, with some code: that is the first that something makes it do.
Signals come too late that are sent when this is due. -/
inductive Child.Exits [LT τ] (c : Child τ) (due : Due τ) :
    List (Sending τ) → τ → Int → Prop where
  | intro (early late : List (Sending τ)) {time : τ} {code : Int}
      (cause : c.Cause early time code)
      (first : ∀ other k, c.Cause early other k → ¬ other < time)
      (past : ∀ s ∈ late, due s.time time = true) :
      Exits c due (early ++ late) time code

theorem Child.Exits.of_first [LT τ] {c : Child τ} {due : Due τ} {sent : List (Sending τ)} {time : τ}
    {code : Int} (cause : c.Cause sent time code)
    (first : ∀ other k, c.Cause sent other k → ¬ other < time) : c.Exits due sent time code := by
  have exits : c.Exits due (sent ++ []) time code := .intro sent [] cause first nofun
  rwa [List.append_nil] at exits

theorem Child.Exits.cause [LT τ] {c : Child τ} {due : Due τ} {sent : List (Sending τ)} {time : τ}
    {code : Int} (h : c.Exits due sent time code) : c.Cause sent time code := by
  cases h with
  | intro early late cause =>
    exact cause.imp_right fun ⟨s, hs, answers⟩ => ⟨s, List.mem_append_left _ hs, answers⟩

theorem Child.cause_concat {c : Child τ} {sent : List (Sending τ)} {s : Sending τ} {time : τ}
    {code : Int} :
    c.Cause (sent ++ [s]) time code ↔ c.Cause sent time code ∨ c.Answers s time code := by
  unfold Cause
  simp only [List.mem_append, List.mem_singleton, or_and_right, exists_or, exists_eq_left, or_assoc]

/-- How long a child takes to react to a signal is a time. -/
def Reaction.Timed (IsTime : τ → Prop) : Reaction τ → Prop
  | .ends delay => IsTime delay
  | .exits delay _ => IsTime delay
  | .gone => True
  | .ignores => True

/-- Whenever a child exits by itself, and however long it takes to react to a signal, is a time. -/
structure Child.Timed (IsTime : τ → Prop) (c : Child τ) : Prop where
  exits : ∀ time ∈ c.exits, IsTime time
  reactions : ∀ s, (c.on s).Timed IsTime

end Causes

section Clock

variable {τ : Type} [LT τ] [Add τ] [OfNat τ 0]

/-- Times are compared and added, begin with zero, and a deadline that is not to come is due. -/
structure Timeline (due : Due τ) (IsTime : τ → Prop) : Prop extends Comparable τ IsTime where
  zero : IsTime 0
  add {a b : τ} : IsTime a → IsTime b → IsTime (a + b)
  of_pos {a : τ} : 0 < a → IsTime a
  not_neg {a : τ} : IsTime a → ¬ a < 0
  due_of_not_lt {now deadline : τ} :
    IsTime now → IsTime deadline → ¬ now < deadline → due now deadline = true

variable [DecidableLT τ] {due : Due τ} {IsTime : τ → Prop} {now deadline : τ}

theorem Timeline.lt_of_not_due (clock : Timeline due IsTime) (hn : IsTime now)
    (hd : IsTime deadline) (h : due now deadline = false) : now < deadline := by
  refine Decidable.of_not_not fun passed => ?_
  rw [clock.due_of_not_lt hn hd passed] at h
  cases h

/-- When time passes to a deadline, that is no longer to come, and due. -/
theorem Timeline.reaches (clock : Timeline due IsTime) (hn : IsTime now) (hd : IsTime deadline) :
    let later := if now < deadline then deadline else now
    IsTime later ∧ ¬ later < deadline ∧ due later deadline = true := by
  intro later
  have self : ¬ deadline < deadline := fun h => clock.asymm h h
  by_cases before : now < deadline
  · rw [show later = deadline from if_pos before]
    exact ⟨hd, self, clock.due_of_not_lt hd hd self⟩
  · rw [show later = now from if_neg before]
    exact ⟨hn, before, clock.due_of_not_lt hn hd before⟩

end Clock

namespace Watch

variable {τ : Type} [LT τ] [DecidableLT τ] {due : Due τ} {w : Watch τ}

/-! ## What happens at one time -/

omit [LT τ] [DecidableLT τ] in
theorem exit_of_code {code : Int} (h : w.code = some code) (k : Int) : w.exit k = w := by
  unfold exit
  rw [h, Option.some_or, ← h]

omit [LT τ] [DecidableLT τ] in
/-- Nothing more happens to a child that has exited. -/
theorem happen_of_code {code : Int} (h : w.code = some code) (events : List Event) :
    w.happen events = (w, false) := by
  induction events with
  | nil => rfl
  | cons e rest ih =>
    cases e with
    | exit k => rw [happen, exit_of_code h, ih]
    | periodEnd =>
      rw [happen, ih, h]
      rfl

omit [LT τ] [DecidableLT τ] in
theorem happen_exit (h : w.code = none) (code : Int) (rest : List Event) :
    w.happen (.exit code :: rest) = ({ w with code := some code }, false) := by
  rw [happen, exit, h, Option.none_or]
  exact happen_of_code rfl rest

omit [LT τ] [DecidableLT τ] in
theorem happen_periodEnd (h : w.code = none) (rest : List Event) :
    w.happen (.periodEnd :: rest) = ((w.happen rest).1, true) := by
  rw [happen, h]
  rfl

theorem waitFor_of_code {code : Int} (h : w.code = some code) (n : Nat) :
    w.waitFor due n = (w, false) := by
  cases n with
  | zero => rfl
  | succ n => rw [waitFor, h]

/-- Waiting takes one step if the child exits then, or the period ends. -/
theorem wait_eq_passTo {deadline : τ} (running : w.code = none)
    (next : w.schedule.next? = some deadline)
    (decided : (w.passTo due deadline).2 = true ∨
      (w.passTo due deadline).2 = false ∧ ∃ code, (w.passTo due deadline).1.code = some code) :
    w.wait due = w.passTo due deadline := by
  obtain ⟨n, size⟩ : ∃ n, w.schedule.timers.size = n + 1 := by
    obtain ⟨first, there, -⟩ := Option.map_eq_some_iff.mp next
    have := (Array.getElem?_eq_some_iff.mp there).1
    exact ⟨w.schedule.timers.size - 1, by omega⟩
  rw [wait, size, waitFor, running, next]
  simp only
  rcases decided with ended | ⟨not_ended, code, exited⟩
  · rw [if_pos ended]
  · rw [if_neg (Bool.eq_false_iff.mp not_ended), waitFor_of_code exited, ← not_ended]

variable [Add τ]

/-! ## What a watch knows -/

/-- The child runs, and the exits to come are on the schedule, with nothing else. -/
structure Running (IsTime : τ → Prop) (w : Watch τ) : Prop where
  code : w.code = none
  now : IsTime w.now
  inOrder : w.schedule.InOrder IsTime
  mem_iff (t : Timer τ Event) : t ∈ w.schedule.timers ↔ t.stopped = false ∧
    ∃ code, t.due = .exit code ∧ w.child.Cause w.sent t.deadline code

/-- No exit to come should have come before. -/
def Clear (w : Watch τ) : Prop := ∀ t ∈ w.schedule.timers, ¬ t.deadline < w.now

/-- The child has exited, and its exit is noted. -/
def Over (due : Due τ) (w : Watch τ) : Prop :=
  ∃ time code, w.code = some code ∧ w.child.Exits due w.sent time code ∧ due w.now time = true

/-- The child runs, and no exit should have come before, or it has exited. -/
def Sound (due : Due τ) (IsTime : τ → Prop) (w : Watch τ) : Prop :=
  w.Running IsTime ∧ w.Clear ∨ w.Over due

variable [OfNat τ 0] {IsTime : τ → Prop}

omit [DecidableLT τ] [OfNat τ 0] in
theorem Running.timer (h : w.Running IsTime) {time : τ} {code : Int}
    (cause : w.child.Cause w.sent time code) :
    ({ deadline := time, due := .exit code } : Timer τ Event) ∈ w.schedule.timers :=
  (h.mem_iff _).mpr ⟨rfl, code, rfl, cause⟩

omit [DecidableLT τ] [OfNat τ 0] in
/-- The first exit to come is the one. -/
theorem Running.exits (h : w.Running IsTime) {t : Timer τ Event} (mem : t ∈ w.schedule.timers)
    (least : ∀ u ∈ w.schedule.timers, ¬ u.deadline < t.deadline) {now : τ}
    (is_due : due now t.deadline = true) :
    t.stopped = false ∧ ∃ code, t.due = .exit code ∧
      ∀ schedule, ({ w with now, schedule, code := some code } : Watch τ).Over due := by
  obtain ⟨live, code, exit, cause⟩ := (h.mem_iff t).mp mem
  exact ⟨live, code, exit, fun schedule => ⟨t.deadline, code, rfl,
    .of_first cause fun other k later => least _ (h.timer later), is_due⟩⟩

/-- **What is due happens**: the first exit is noted, if one is due. -/
theorem Running.happen (clock : Timeline due IsTime) (h : w.Running IsTime) :
    let taken := w.schedule.take (due w.now)
    let r := ({ w with schedule := taken.2 } : Watch τ).happen taken.1
    r = (w, false) ∧ (∀ t ∈ w.schedule.timers, w.now < t.deadline) ∨
      ∃ schedule code, r = ({ w with schedule, code := some code }, false) ∧ r.1.Over due := by
  intro taken r
  rcases Schedule.take_cases clock.toComparable h.inOrder (due w.now) with
    ⟨none_taken, not_due⟩ | ⟨front, rest, first, is_due, perm, -, first_taken⟩
  · left
    refine ⟨by simp only [r, taken, none_taken]; rfl, fun t ht => ?_⟩
    have filled := Array.size_pos_of_mem ht
    have there : w.schedule.timers[0]? = some w.schedule.timers[0] :=
      Array.getElem?_eq_getElem filled
    have times := h.inOrder.times
    have later : w.now < w.schedule.timers[0].deadline :=
      clock.lt_of_not_due h.now (times _ (Array.getElem_mem filled)) (not_due _ there)
    exact (clock.between (times t ht) later).resolve_right
      (Heap.front_least clock.toComparable h.inOrder.ordered times there ht)
  · right
    have mem : front ∈ w.schedule.timers := Array.mem_of_getElem? first
    obtain ⟨live, code, exit, noticed⟩ := h.exits mem (fun u hu =>
      Heap.front_least clock.toComparable h.inOrder.ordered h.inOrder.times first hu) is_due
    have result : r = ({ w with schedule := (rest.take (due w.now)).2, code := some code },
        false) := by
      simp only [r, taken, first_taken, live, exit, Bool.false_eq_true, if_false]
      exact happen_exit (w := { w with schedule := (rest.take (due w.now)).2 }) h.code code _
    exact ⟨_, code, result, result ▸ noticed _⟩

/-! ## Waiting -/

/-- Waiting takes one step: the child exits at the first thing to come, or a period ends, and what
is due then happens, too. -/
theorem wait_cases (clock : Timeline due IsTime) (running : w.code = none) (now : IsTime w.now)
    (order : w.schedule.InOrder IsTime) {front : Timer τ Event}
    (first : w.schedule.timers[0]? = some front) (live : front.stopped = false) :
    ∃ (later : τ) (rest : Schedule τ Event),
      later = (if w.now < front.deadline then front.deadline else w.now) ∧ IsTime later ∧
      due later front.deadline = true ∧ (rest.timers.push front).Perm w.schedule.timers ∧
      rest.InOrder IsTime ∧
      w.wait due =
        let taken := rest.take (due later)
        let v : Watch τ := { w with now := later, schedule := taken.2 }
        match front.due with
        | .exit code => ({ v with code := some code }, false)
        | .periodEnd => ((v.happen taken.1).1, true) := by
  have time := order.times _ (Array.mem_of_getElem? first)
  obtain ⟨later_time, -, is_due⟩ := clock.reaches now time
  obtain ⟨later, is_later⟩ : ∃ later, later =
      if w.now < front.deadline then front.deadline else w.now := ⟨_, rfl⟩
  rw [← is_later] at later_time is_due
  rcases Schedule.take_cases clock.toComparable order (due later) with
    ⟨-, not_due⟩ | ⟨_, rest, first', -, perm, rest_order, taken⟩
  · rw [not_due _ first] at is_due
    cases is_due
  rw [first] at first'
  cases first'
  rw [live, if_neg Bool.false_ne_true] at taken
  have next : w.schedule.next? = some front.deadline := by
    rw [Schedule.next?, first]
    rfl
  have step : w.passTo due front.deadline =
      ({ w with now := later, schedule := (rest.take (due later)).2 } : Watch τ).happen
        (front.due :: (rest.take (due later)).1) := by
    unfold passTo
    rw [← is_later]
    dsimp only
    rw [taken]
  refine ⟨later, rest, is_later, later_time, is_due, perm, rest_order, ?_⟩
  cases event : front.due with
  | exit code =>
    rw [event, happen_exit (w := { w with now := later, schedule := _ }) running] at step
    rw [wait_eq_passTo running next (.inr (by rw [step]; exact ⟨rfl, code, rfl⟩)), step]
  | periodEnd =>
    rw [event, happen_periodEnd (w := { w with now := later, schedule := _ }) running] at step
    rw [wait_eq_passTo running next (.inl (by rw [step])), step]

/-- **Waiting for a deadline** ends with the first exit, if that does not come later. Otherwise all
exits to come are later; the first of them may be due for all that. -/
theorem Running.waitUntil (clock : Timeline due IsTime) (h : w.Running IsTime) {deadline : τ}
    (time : IsTime deadline) :
    let r := w.waitUntil due deadline
    r.1.child = w.child ∧ r.1.sent = w.sent ∧
      (r.2 = false ∧ r.1.Over due ∧
          (∃ other code, w.child.Cause w.sent other code ∧ ¬ deadline < other) ∨
        r.2 = true ∧ r.1.now = (if w.now < deadline then deadline else w.now) ∧
          (∀ other code, w.child.Cause w.sent other code → deadline < other) ∧
          r.1.Sound due IsTime) := by
  intro r
  obtain ⟨s, added⟩ : ∃ s, s = w.schedule.add deadline Event.periodEnd := ⟨_, rfl⟩
  have order := clock.toComparable
  have in_order : s.InOrder IsTime := added ▸ h.inOrder.add order time _
  have mem (t : Timer τ Event) :
      t ∈ s.timers ↔ t ∈ w.schedule.timers ∨ t = { deadline, due := .periodEnd } := by
    rw [added]
    exact Schedule.mem_add ..
  obtain ⟨front, first⟩ : ∃ front, s.timers[0]? = some front :=
    ⟨_, Array.getElem?_eq_getElem (Array.size_pos_of_mem ((mem _).mpr (.inr rfl)))⟩
  have least (t : Timer τ Event) (ht : t ∈ s.timers) : ¬ t.deadline < front.deadline :=
    Heap.front_least order in_order.ordered in_order.times first ht
  have live : front.stopped = false := by
    rcases (mem front).mp (Array.mem_of_getElem? first) with old | rfl
    · exact ((h.mem_iff front).mp old).1
    · rfl
  obtain ⟨later, rest, is_later, later_time, is_due, perm, rest_order, waited⟩ :=
    wait_cases (w := { w with schedule := s }) clock h.code h.now in_order first live
  have waits : r = ({ w with schedule := s } : Watch τ).wait due := by
    rw [added]
    rfl
  rw [waits, waited]
  rcases Schedule.front_add order h.inOrder (added ▸ first) with old | ⟨rfl, all_later⟩
  · obtain ⟨-, code, exit, cause⟩ := (h.mem_iff front).mp old
    obtain ⟨-, code', exit', noticed⟩ :=
      h.exits old (fun u hu => least u ((mem u).mpr (.inl hu))) is_due
    rw [exit] at exit'
    cases exit'
    rw [exit]
    exact ⟨rfl, rfl, .inl ⟨rfl, noticed _, _, code, cause, least _ ((mem _).mpr (.inr rfl))⟩⟩
  · have same : rest.timers.Perm w.schedule.timers := by
      have pushed : s.timers.Perm (w.schedule.timers.push { deadline, due := .periodEnd }) := by
        rw [added]
        exact Heap.perm_rise ..
      have all := perm.trans pushed
      rw [Array.perm_iff_toList_perm, Array.toList_push, Array.toList_push,
        List.perm_append_right_iff] at all
      exact Array.perm_iff_toList_perm.mpr all
    have runs : ({ w with now := later, schedule := rest } : Watch τ).Running IsTime :=
      ⟨h.code, later_time, rest_order, fun t => same.mem_iff.trans (h.mem_iff t)⟩
    have later_causes (other : τ) (code : Int) (cause : w.child.Cause w.sent other code) :
        deadline < other := all_later _ (h.timer cause)
    dsimp only
    rcases runs.happen clock with ⟨nothing, after⟩ | ⟨schedule, code, noted, noticed⟩
    · rw [nothing]
      exact ⟨rfl, rfl, .inr ⟨rfl, is_later, later_causes,
        .inl ⟨runs, fun t ht => clock.asymm (after t ht)⟩⟩⟩
    · rw [noted] at noticed ⊢
      exact ⟨rfl, rfl, .inr ⟨rfl, is_later, later_causes, .inr noticed⟩⟩

/-- **A child that is to exit is waited for.** -/
theorem Running.wait (clock : Timeline due IsTime) (h : w.Running IsTime) {time : τ} {code : Int}
    (cause : w.child.Cause w.sent time code) :
    (w.wait due).1.Over due ∧ (w.wait due).1.sent = w.sent ∧ (w.wait due).1.child = w.child := by
  have filled := Array.size_pos_of_mem (h.timer cause)
  obtain ⟨front, first⟩ : ∃ front, w.schedule.timers[0]? = some front :=
    ⟨_, Array.getElem?_eq_getElem filled⟩
  have there := Array.mem_of_getElem? first
  obtain ⟨live, -⟩ := (h.mem_iff front).mp there
  obtain ⟨later, rest, -, -, is_due, -, -, waited⟩ :=
    wait_cases clock h.code h.now h.inOrder first live
  obtain ⟨-, k, exit, noticed⟩ := h.exits there
    (fun u hu => Heap.front_least clock.toComparable h.inOrder.ordered h.inOrder.times first hu)
    is_due
  rw [waited, exit]
  exact ⟨noticed _, rfl, rfl⟩

omit [OfNat τ 0] in
theorem Over.wait (h : w.Over due) : w.wait due = (w, false) := by
  obtain ⟨_, _, noted, -⟩ := h
  exact waitFor_of_code noted _

/-! ## Signals -/

omit [OfNat τ 0] in
/-- A signal is noted, with its time. -/
theorem send_notes (w : Watch τ) (s : Signal) :
    (w.send s).child = w.child ∧ (w.send s).sent = w.sent ++ [⟨s, w.now⟩] ∧
      (w.send s).now = w.now := by
  unfold send react
  dsimp only
  split <;> exact ⟨rfl, rfl, rfl⟩

omit [OfNat τ 0] in
/-- **A signal to a child that has exited comes too late.** -/
theorem Over.send (h : w.Over due) (s : Signal) : (w.send s).Over due := by
  obtain ⟨time, code, noted, exits, past⟩ := h
  obtain ⟨same_child, same_sent, same_now⟩ := send_notes w s
  have same_code : (w.send s).code = some code := by
    unfold Watch.send react
    dsimp only
    split
    · exact noted
    · exact (congrArg Watch.code (exit_of_code noted _)).trans noted
    · exact noted
    · exact noted
  refine ⟨time, code, same_code, ?_, same_now ▸ past⟩
  rw [same_child, same_sent]
  generalize w.sent = sent at exits
  cases exits with
  | intro early late cause first before =>
    rw [List.append_assoc]
    refine .intro early _ cause first fun t ht => ?_
    rcases List.mem_append.mp ht with old | new
    · exact before t old
    · obtain rfl := List.mem_singleton.mp new
      exact past

/-- Something more makes the child exit later on. -/
theorem Running.plan (clock : Timeline due IsTime) (h : w.Running IsTime) {s : Sending τ}
    {delay : τ} {code : Int} (time : IsTime delay)
    (answers : ∀ other k, w.child.Answers s other k ↔ other = w.now + delay ∧ k = code) :
    (({ w with sent := w.sent ++ [s] } : Watch τ).plan delay (.exit code)).Running IsTime := by
  have causes (other : τ) (k : Int) : w.child.Cause (w.sent ++ [s]) other k ↔
      w.child.Cause w.sent other k ∨ other = w.now + delay ∧ k = code :=
    Child.cause_concat.trans (or_congr_right (answers other k))
  refine ⟨h.code, h.now, h.inOrder.add clock.toComparable (clock.add h.now time) _, fun t => ?_⟩
  refine (Schedule.mem_add ..).trans ?_
  rw [h.mem_iff]
  constructor
  · rintro (⟨live, k, exit, cause⟩ | rfl)
    · exact ⟨live, k, exit, (causes _ _).mpr (.inl cause)⟩
    · exact ⟨rfl, code, rfl, (causes _ _).mpr (.inr ⟨rfl, rfl⟩)⟩
  · rintro ⟨live, k, exit, cause⟩
    rcases (causes _ _).mp cause with old | ⟨at_time, rfl⟩
    · exact .inl ⟨live, k, exit, old⟩
    · right
      cases t
      cases live
      cases exit
      cases at_time
      rfl

/-- **A signal adds what it leads to**, and finds the child gone or running. -/
theorem Running.send (clock : Timeline due IsTime) (h : w.Running IsTime) (clear : w.Clear)
    (timed : w.child.Timed IsTime) (s : Signal) :
    (w.send s).Running IsTime ∨ (w.send s).Over due := by
  have reaction := timed.reactions s
  obtain ⟨sending, is_sent⟩ : ∃ sending : Sending τ, sending = ⟨s, w.now⟩ := ⟨_, rfl⟩
  have signal : sending.signal = s := is_sent ▸ rfl
  have moment : sending.time = w.now := is_sent ▸ rfl
  unfold Watch.send react
  dsimp only
  rw [← is_sent]
  cases on : w.child.on s with
  | ends delay =>
    rw [on] at reaction
    refine .inl (h.plan clock reaction fun other k => ?_)
    rw [Child.Answers, signal, on, moment]
  | exits delay code =>
    rw [on] at reaction
    refine .inl (h.plan clock reaction fun other k => ?_)
    rw [Child.Answers, signal, on, moment]
  | gone =>
    right
    have answers (other : τ) (k : Int) : w.child.Answers sending other k ↔
        other = w.now ∧ k = w.child.exitCode := by
      rw [Child.Answers, signal, on, moment]
    have self : ¬ w.now < w.now := fun before => clock.asymm before before
    refine ⟨w.now, w.child.exitCode, ?_, .of_first ?_ fun other k cause => ?_,
      clock.due_of_not_lt h.now h.now self⟩
    · show w.code.or (some w.child.exitCode) = _
      rw [h.code, Option.none_or]
    · exact Child.cause_concat.mpr (.inr ((answers _ _).mpr ⟨rfl, rfl⟩))
    · rcases Child.cause_concat.mp cause with old | new
      · exact clear _ (h.timer old)
      · obtain ⟨rfl, -⟩ := (answers _ _).mp new
        exact self
  | ignores =>
    left
    have causes (other : τ) (k : Int) :
        w.child.Cause (w.sent ++ [sending]) other k ↔ w.child.Cause w.sent other k := by
      rw [Child.cause_concat, Child.Answers, signal, on]
      exact or_iff_left id
    refine ⟨h.code, h.now, h.inOrder, fun t => (h.mem_iff t).trans ?_⟩
    simp only [causes]

theorem Sound.send (clock : Timeline due IsTime) (h : w.Sound due IsTime)
    (timed : w.child.Timed IsTime) (s : Signal) :
    (w.send s).Running IsTime ∨ (w.send s).Over due :=
  h.elim (fun h => h.1.send clock h.2 timed s) fun h => .inr (h.send s)

omit [LT τ] [DecidableLT τ] [OfNat τ 0] in
/-- A signal that a child does not ignore makes it exit some time. -/
theorem exists_answer {c : Child τ} {s : Sending τ} (minds : c.on s.signal ≠ .ignores) :
    ∃ time code, c.Answers s time code := by
  unfold Child.Answers
  cases on : c.on s.signal with
  | ends delay => exact ⟨_, _, rfl, rfl⟩
  | exits delay code => exact ⟨_, _, rfl, rfl⟩
  | gone => exact ⟨_, _, rfl, rfl⟩
  | ignores => exact absurd on minds

/-- **Kill ends a child that does not ignore it.** -/
theorem Sound.kill (clock : Timeline due IsTime) (h : w.Sound due IsTime)
    (timed : w.child.Timed IsTime) (minds : w.child.onKill ≠ .ignores) :
    let v := ((w.send .kill).wait due).1
    v.Over due ∧ v.child = w.child ∧ v.sent = w.sent ++ [⟨.kill, w.now⟩] := by
  obtain ⟨child, sent, -⟩ := send_notes w .kill
  rcases h.send clock timed .kill with runs | noticed
  · obtain ⟨time, code, answers⟩ := exists_answer (s := ⟨.kill, w.now⟩) minds
    have cause : (w.send .kill).child.Cause (w.send .kill).sent time code := by
      rw [child, sent]
      exact Child.cause_concat.mpr (.inr answers)
    obtain ⟨noticed, sent', child'⟩ := runs.wait clock cause
    exact ⟨noticed, child'.trans child, sent'.trans sent⟩
  · rw [noticed.wait]
    exact ⟨noticed, child, sent⟩

/-- **Terminate, and kill after a while, end a child that does not ignore kill.** Kill is sent only
if all that makes the child exit after terminate comes later than that while. -/
theorem Sound.finish (clock : Timeline due IsTime) (h : w.Sound due IsTime) (now : IsTime w.now)
    (timed : w.child.Timed IsTime) (minds : w.child.onKill ≠ .ignores) {patience : τ}
    (time : IsTime patience) :
    let v := w.finish due patience
    let asked : Sending τ := ⟨.terminate, w.now⟩
    v.Over due ∧ v.child = w.child ∧
      (v.sent = w.sent ++ [asked] ∨
        ∃ moment, v.sent = w.sent ++ [asked, ⟨.kill, moment⟩] ∧ IsTime moment ∧
          ¬ moment < w.now + patience ∧
          ∀ exit code, w.child.Cause (w.sent ++ [asked]) exit code → w.now + patience < exit) := by
  intro v asked
  obtain ⟨child, sent, moment_asked⟩ := send_notes w .terminate
  obtain ⟨u, is_asked⟩ : ∃ u, u = w.send .terminate := ⟨_, rfl⟩
  obtain ⟨r, is_waited⟩ : ∃ r, r = u.waitUntil due (w.now + patience) := ⟨_, rfl⟩
  have finished : v = if r.2 then ((r.1.send .kill).wait due).1 else r.1 := by
    rw [is_waited, is_asked]
    rfl
  rw [← is_asked] at child sent moment_asked
  rcases is_asked ▸ h.send clock timed .terminate with runs | noticed
  · obtain ⟨child', sent', ⟨in_time, noticed, -⟩ | ⟨ended, moment, later, sound⟩⟩ :=
      is_waited ▸ runs.waitUntil clock (clock.add now time)
    · rw [finished, in_time]
      exact ⟨noticed, child'.trans child, .inl (sent'.trans sent)⟩
    · rw [child, sent] at later
      rw [child] at child'
      obtain ⟨noticed, child'', sent''⟩ := sound.kill clock (child' ▸ timed) (child' ▸ minds)
      obtain ⟨is_time, not_before, -⟩ := clock.reaches now (clock.add now time)
      rw [moment_asked] at moment
      rw [← moment] at is_time not_before
      rw [finished, ended]
      refine ⟨noticed, child''.trans child', .inr ⟨r.1.now, ?_, is_time, not_before, later⟩⟩
      refine sent''.trans ?_
      rw [sent', sent, List.append_assoc]
      rfl
  · have waited :
        r = ({ u with schedule := u.schedule.add (w.now + patience) .periodEnd }, false) :=
      is_waited.trans (Over.wait (w := { u with schedule := _ }) noticed)
    rw [finished, waited]
    exact ⟨noticed, child, .inl sent⟩

end Watch

namespace Child

section Stop

variable {τ : Type} [LT τ] [DecidableLT τ] [Add τ] [OfNat τ 0] {due : Due τ} {IsTime : τ → Prop}
  {c : Child τ}

omit [LT τ] [DecidableLT τ] [OfNat τ 0] in
theorem cause_nil {time : τ} {code : Int} :
    c.Cause [] time code ↔ c.exits = some time ∧ code = c.exitCode := by
  simp [Cause]

/-- At first a child that has not exited runs. -/
theorem watch_running (clock : Timeline due IsTime) (timed : c.Timed IsTime) :
    c.watch.Running IsTime ∧ c.watch.Clear := by
  have mem (t : Timer τ Event) : t ∈ c.watch.schedule.timers ↔
      ∃ time, c.exits = some time ∧ t = { deadline := time, due := .exit c.exitCode } := by
    unfold watch
    cases c.exits with
    | none => exact iff_of_false (Array.not_mem_empty t) nofun
    | some time =>
      refine (Schedule.mem_add ..).trans ?_
      simp
  have order : c.watch.schedule.InOrder IsTime := by
    unfold watch
    cases exits : c.exits with
    | none => exact .empty
    | some time => exact .add clock.toComparable .empty (timed.exits time exits) _
  refine ⟨⟨rfl, clock.zero, order, fun t => (mem t).trans ?_⟩, fun t ht => ?_⟩
  · constructor
    · rintro ⟨time, exits, rfl⟩
      exact ⟨rfl, _, rfl, cause_nil.mpr ⟨exits, rfl⟩⟩
    · rintro ⟨live, code, exit, cause⟩
      obtain ⟨exits, rfl⟩ := cause_nil.mp cause
      refine ⟨t.deadline, exits, ?_⟩
      cases t
      cases live
      cases exit
      rfl
  · obtain ⟨time, exits, rfl⟩ := (mem t).mp ht
    exact clock.not_neg (timed.exits time exits)

/-- A child that has not exited exits within the grace, or has to be asked. -/
theorem stop_cases (clock : Timeline due IsTime) (timed : c.Timed IsTime)
    (running : c.exited = none) (grace patience : τ) :
    let s := c.stop due grace patience
    (∃ w : Watch τ, s = w.stopping ∧ w.Over due ∧ w.child = c ∧ w.sent = [] ∧ 0 < grace ∧
        ∃ time, c.exits = some time ∧ ¬ grace < time) ∨
      ∃ w : Watch τ, s = (w.finish due patience).stopping ∧ w.Sound due IsTime ∧ w.child = c ∧
        w.sent = [] ∧ w.now = (if 0 < grace then grace else 0) ∧ IsTime w.now ∧
        (0 < grace → ∀ time, c.exits = some time → grace < time) := by
  intro s
  obtain ⟨runs, clear⟩ := watch_running clock timed
  by_cases some_grace : 0 < grace
  · have grace_time := clock.of_pos some_grace
    obtain ⟨r, waited⟩ : ∃ r, r = c.watch.waitUntil due grace := ⟨_, rfl⟩
    have stopped : s = if r.2 then (r.1.finish due patience).stopping else r.1.stopping := by
      show c.stop due grace patience = _
      unfold stop
      rw [running, waited]
      exact if_pos some_grace
    obtain ⟨child, sent, ⟨in_time, noticed, time, code, cause, not_later⟩ |
      ⟨ended, moment, later, sound⟩⟩ := waited ▸ runs.waitUntil clock grace_time
    · rw [in_time] at stopped
      exact .inl ⟨r.1, stopped, noticed, child, sent, some_grace, time, (cause_nil.mp cause).1,
        not_later⟩
    · rw [ended] at stopped
      have at_grace : r.1.now = grace := moment.trans (if_pos some_grace)
      exact .inr ⟨r.1, stopped, sound, child, sent, at_grace.trans (if_pos some_grace).symm,
        at_grace ▸ grace_time, fun _ time exits => later time _ (cause_nil.mpr ⟨exits, rfl⟩)⟩
  · have stopped : s = (c.watch.finish due patience).stopping := by
      show c.stop due grace patience = _
      unfold stop
      rw [running]
      exact if_neg some_grace
    exact .inr ⟨c.watch, stopped, .inl ⟨runs, clear⟩, rfl, rfl, (if_neg some_grace).symm,
      clock.zero, fun h => absurd h some_grace⟩

/-- **Stopping a child** that runs and does not ignore kill ends when it has exited. It gets no
signal just if it exits by itself, within the grace. -/
theorem stop_over (clock : Timeline due IsTime) (timed : c.Timed IsTime)
    (minds : c.onKill ≠ .ignores) (running : c.exited = none) (grace : τ) {patience : τ}
    (time : IsTime patience) :
    let s := c.stop due grace patience
    let asked : Sending τ := ⟨.terminate, if 0 < grace then grace else 0⟩
    (∃ time code, s.code = some code ∧ c.Exits due s.sent time code ∧
        due s.elapsed time = true) ∧
      (s.sent = [] ∧ 0 < grace ∧ (∃ time, c.exits = some time ∧ ¬ grace < time) ∨
        (0 < grace → ∀ time, c.exits = some time → grace < time) ∧
          (s.sent = [asked] ∨ ∃ moment, s.sent = [asked, ⟨.kill, moment⟩] ∧ IsTime moment ∧
            ¬ moment < asked.time + patience ∧
            ∀ exit code, c.Cause [asked] exit code → asked.time + patience < exit)) := by
  intro s asked
  rcases stop_cases clock timed running grace patience with
    ⟨w, stopped, noticed, rfl, sent, some_grace, exits⟩ |
    ⟨w, stopped, sound, rfl, sent, moment, is_time, later⟩
  · rw [show s = _ from stopped]
    exact ⟨noticed, .inl ⟨sent, some_grace, exits⟩⟩
  · obtain ⟨⟨exit, code, noted, exits, past⟩, child, signals⟩ :=
      sound.finish clock is_time timed minds time
    rw [sent, moment] at signals
    rw [show s = _ from stopped]
    exact ⟨⟨exit, code, noted, child ▸ exits, past⟩, .inr ⟨later, signals⟩⟩

end Stop

/-- Seconds are times. -/
theorem timeline : Timeline isDueAt IsTime where
  toComparable := comparable
  zero := isTime_iff.mpr (unpack_nought ▸ .zero _)
  add := IsTime.add
  of_pos := le_of_before
  not_neg := not_before_of_le
  due_of_not_lt := isDueAt_of_not_lt

theorem isTime_exitGrace : IsTime Program.exitGrace := by
  unfold IsTime
  decide

/-! ## Leaving a block -/

section Leave

variable {ε α : Type} {outcome : Except ε α} {grace : Float}

/-- A child gets a grace just if there is one and the block did not fail. -/
theorem graceAfter_pos_iff :
    0 < graceAfter outcome grace ↔ outcome.isOk = true ∧ 0 < grace := by
  cases outcome with
  | ok a => exact (and_iff_right rfl).symm
  | error e => exact iff_of_false (not_lt_self 0) fun h => Bool.false_ne_true h.1

theorem graceAfter_of_isOk (well : outcome.isOk = true) : graceAfter outcome grace = grace := by
  cases outcome with
  | ok a => rfl
  | error e => exact absurd well Bool.false_ne_true

/-- A child is asked to terminate after its grace, or at once if it gets none. -/
theorem ite_graceAfter :
    (if 0 < graceAfter outcome grace then graceAfter outcome grace else 0) =
      if outcome.isOk = true ∧ 0 < grace then grace else 0 := by
  by_cases pos : 0 < graceAfter outcome grace
  · obtain ⟨well, some_grace⟩ := graceAfter_pos_iff.mp pos
    rw [if_pos pos, if_pos ⟨well, some_grace⟩, graceAfter_of_isOk well]
  · rw [if_neg pos, if_neg fun h => pos (graceAfter_pos_iff.mpr h)]

theorem isTime_asked : IsTime (if outcome.isOk = true ∧ 0 < grace then grace else 0) := by
  split
  next h => exact timeline.of_pos h.2
  next => exact timeline.zero

end Leave

/-- **No child outlives its block.** Whatever makes a child exit, as long as kill does; whatever the
grace is; and whatever a block came to: the block is left with that, and its child has exited then,
with the code that it has of itself or of a signal. It gets no signal just if it has exited before,
or exits within the grace after a block that did not fail. Otherwise it is asked to terminate after
the grace, or at once if the block failed. It is killed only if it is still there another while
later. -/
theorem leave_over {ε α : Type} (c : Child Float) (outcome : Except ε α) (grace : Float)
    (timed : c.Timed IsTime) (minds : c.onKill ≠ .ignores) :
    let l := c.leave isDueAt outcome grace Program.exitGrace
    let s := l.stopping
    let asked : Sending Float :=
      ⟨.terminate, if outcome.isOk = true ∧ 0 < grace then grace else 0⟩
    l.outcome = some outcome ∧
      (∀ code, c.exited = some code → s.code = some code) ∧
      (c.exited = none → ∃ time code, s.code = some code ∧ c.Exits isDueAt s.sent time code ∧
        isDueAt s.elapsed time = true) ∧
      (s.sent = [] ↔ c.exited ≠ none ∨
        outcome.isOk = true ∧ 0 < grace ∧ ∃ time, c.exits = some time ∧ time ≤ grace) ∧
      (s.sent = [] ∨ s.sent = [asked] ∨ ∃ moment, s.sent = [asked, ⟨.kill, moment⟩] ∧
        asked.time + Program.exitGrace ≤ moment ∧
        ∀ exit code, c.Cause [asked] exit code → asked.time + Program.exitGrace < exit) := by
  intro l s asked
  have stopped : s = c.stop isDueAt (graceAfter outcome grace) Program.exitGrace := rfl
  have passed (code : Int) (h : s.code = some code) : l.outcome = some outcome := by
    show s.code.map (fun _ => outcome) = _
    rw [h]
    rfl
  cases exited : c.exited with
  | some code =>
    rw [stop_of_exited c isDueAt _ _ exited] at stopped
    refine ⟨passed code (stopped ▸ rfl), ?_, nofun, iff_of_true (stopped ▸ rfl) (.inl nofun),
      .inl (stopped ▸ rfl)⟩
    rintro _ ⟨⟩
    rw [stopped]
  | none =>
    obtain ⟨⟨time, code, noted, exits, past⟩, signals⟩ :=
      stopped ▸ stop_over timeline timed minds exited (graceAfter outcome grace) isTime_exitGrace
    rw [ite_graceAfter] at signals
    refine ⟨passed code noted, nofun, fun _ => ⟨time, code, noted, exits, past⟩, ?_⟩
    rcases signals with ⟨none_sent, pos, time, exits, not_later⟩ | ⟨later, sent⟩
    · -- it exits by itself, so there was a grace
      obtain ⟨well, some_grace⟩ := graceAfter_pos_iff.mp pos
      rw [graceAfter_of_isOk well] at not_later
      have in_time : time ≤ grace := le_of_not_before (timeline.of_pos some_grace).number
        (timed.exits time exits).number not_later
      exact ⟨iff_of_true none_sent (.inr ⟨well, some_grace, time, exits, in_time⟩),
        .inl none_sent⟩
    · -- it is asked, so it does not exit within the grace
      have unspared : ¬ ((none : Option Int) ≠ none ∨
          outcome.isOk = true ∧ 0 < grace ∧ ∃ time, c.exits = some time ∧ time ≤ grace) := by
        rintro (has_exited | ⟨well, some_grace, time, exits, in_time⟩)
        · exact has_exited rfl
        · have too_late := later (graceAfter_pos_iff.mpr ⟨well, some_grace⟩) time exits
          rw [graceAfter_of_isOk well] at too_late
          exact not_before_of_le in_time too_late
      rcases sent with asked_only | ⟨moment, both, is_time, late, later⟩
      · exact ⟨iff_of_false (asked_only ▸ List.cons_ne_nil _ _) unspared, .inr (.inl asked_only)⟩
      · have limit : IsTime (asked.time + Program.exitGrace) :=
          IsTime.add isTime_asked isTime_exitGrace
        exact ⟨iff_of_false (both ▸ List.cons_ne_nil _ _) unspared, .inr (.inr
          ⟨moment, both, le_of_not_before is_time.number limit.number late, later⟩)⟩

/-- A child that exits after half a second is left alone after a good block, and asked to terminate
at once after one that failed. -/
theorem leave_over_in_time :
    let c : Child Float := { exits := some 0.5, exitCode := 3, onKill := .ends 0.0 }
    let good := c.leave isDueAt (.ok 7 : Except String Nat) 2.0 Program.exitGrace
    let bad := c.leave isDueAt (.error "lost" : Except String Nat) 2.0 Program.exitGrace
    c.Timed IsTime ∧ c.onKill ≠ .ignores ∧
      good.outcome = some (.ok 7) ∧ good.stopping.sent = [] ∧ good.stopping.code = some 3 ∧
      bad.outcome = some (.error "lost") ∧
      ∃ killed, bad.stopping.sent = ⟨.terminate, 0⟩ :: killed := by
  intro c good bad
  have is_time {x : Float} (h : (0 : Float) ≤ x) : IsTime x := h
  have timed : c.Timed IsTime := by
    refine ⟨?_, fun s => ?_⟩
    · rintro _ ⟨⟩
      exact is_time (by decide)
    · cases s
      · trivial
      · exact is_time (by decide)
  have minds : c.onKill ≠ .ignores := nofun
  obtain ⟨passed, -, noticed, spared, -⟩ := leave_over c (.ok 7 : Except String Nat) 2.0 timed minds
  obtain ⟨failed, -, -, unspared, asked⟩ :=
    leave_over c (.error "lost" : Except String Nat) 2.0 timed minds
  have in_time : good.stopping.sent = [] :=
    spared.mpr (.inr ⟨rfl, by decide, 0.5, rfl, by decide⟩)
  have not_spared : bad.stopping.sent ≠ [] := fun none_sent =>
    (unspared.mp none_sent).elim (fun h => h rfl) fun h => Bool.false_ne_true h.1
  refine ⟨timed, minds, passed, in_time, ?_, failed, ?_⟩
  · obtain ⟨time, code, noted, exits, -⟩ := noticed rfl
    rw [show (c.leave isDueAt (.ok 7 : Except String Nat) 2.0 Program.exitGrace).stopping.sent = []
      from in_time] at exits
    obtain ⟨-, rfl⟩ := cause_nil.mp exits.cause
    exact noted
  · rcases asked with none_sent | only | ⟨moment, both, -⟩
    · exact absurd none_sent not_spared
    · exact ⟨[], only⟩
    · exact ⟨_, both⟩

end Child

end ProbeBench
