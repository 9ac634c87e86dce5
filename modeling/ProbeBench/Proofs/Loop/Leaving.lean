import ProbeBench.Proofs.Loop.Extending
import ProbeBench.Proofs.Loop.Turns
import ProbeBench.Proofs.Session.Ending

/-!
# A live session closes at once

Whoever closes a session that is live, while no call is open on it, waits for three rounds at most:
the reader is told to end, and does so in the next round at the latest; in the round behind it the
call that has waited for that ends. Whatever arrives in the meantime, nothing more is written.

* `Leaving`: a call waits for the reader to end.
* `handle_leaving`: what may go on in the meantime.
* `Waits`, `Waits.ends`: how many rounds it takes.
* `close_ends`: the result.
-/

namespace ProbeBench

namespace Loop

variable {σ : Type} {serve : Server σ} {l l' : Loop σ} {phase : Reader} {sent : List Members}

/-! ## Who waits for the reader -/

theorem adopt_closers (l : Loop σ) (t : Turn σ) : (l.adopt t).closers = l.closers := by
  have sent : (t.deliveries.foldl (fun (m : Loop σ) d => m.later d.delay (.deliver d))
      { l with server := t.state }).closers = l.closers :=
    List.foldlRecOn (motive := fun m : Loop σ => m.closers = l.closers) _ _ rfl fun _ h _ _ => h
  unfold adopt
  simp only
  split <;> exact sent

theorem hear_closers (l : Loop σ) : (l.hear serve).closers = l.closers :=
  List.foldlRecOn (motive := fun m : Loop σ => m.closers = l.closers) _ _ rfl
    fun m h _ _ => (adopt_closers m _).trans h

theorem flush_closers (l : Loop σ) : l.flush.closers = l.closers := by
  refine List.foldlRecOn (motive := fun m : Loop σ => m.closers = l.closers) _ _ rfl
    fun m h wake _ => ?_
  cases wake with
  | caller id =>
    rw [lineUp]
    cases m.readyFor? id <;> exact h
  | reader => exact h

/-- Who waits for the reader to end is lined up when it has. -/
theorem mem_foldl_push {task : Nat} {closers : List Nat} (mem : task ∈ closers) (l : Loop σ) :
    Ready.resume task ∈ (closers.foldl (fun l task => l.push (.resume task)) l).next := by
  have kept (tasks : List Nat) (l : Loop σ) (r : Ready) (hr : r ∈ l.next) :
      r ∈ (tasks.foldl (fun l task => l.push (.resume task)) l).next :=
    List.foldlRecOn (motive := fun m : Loop σ => r ∈ m.next) _ _ hr
      fun _ h _ _ => List.mem_append_left _ h
  obtain ⟨before, after, rfl⟩ := List.append_of_mem mem
  rw [List.foldl_append, List.foldl_cons]
  exact kept after _ _ (List.mem_append_right _ (List.mem_singleton_self _))

/-! ## Leaving -/

/-- Call 0 closes the session, which has written so much, and waits for the reader to end; no other
call is open. -/
structure Leaving (phase : Reader) (sent : List Members) (l : Loop σ) : Prop where
  harmless : l.Harmless
  stages : l.stages = [(0, .releasing (.ok .null))]
  finished : l.finished = []
  closed : l.session.transport.wire.closed = true
  sent : l.session.transport.wire.sent = sent
  reader : l.session.reader = phase
  closers : phase = .cancelled → 0 ∈ l.closers

/-- Call 0 has closed the session, which has written so much. -/
structure Left (sent : List Members) (l : Loop σ) : Prop where
  finished : l.finished = [(0, .ok .null)]
  sent : l.session.transport.wire.sent = sent

theorem Leaving.keeps (h : l.Leaving phase sent) (keeps : Keeps l l')
    (closers : l'.closers = l.closers) : l'.Leaving phase sent := by
  have session : { l'.session with wakes := [] } = { l.session with wakes := [] } := keeps.session
  have transport := congrArg Session.transport session
  have same := congrArg Session.reader session
  simp only at transport same
  refine ⟨keeps.harmless h.harmless, keeps.stages.trans h.stages, keeps.finished.trans h.finished,
    ?_, ?_, same.trans h.reader, fun cancelled => closers ▸ h.closers cancelled⟩
  · rw [transport]
    exact h.closed
  · rw [transport]
    exact h.sent

/-- The call goes on, and ends. -/
theorem Leaving.resume (h : l.Leaving phase sent) :
    (l.handle serve (.resume 0)).Left sent := by
  have there : l.stage? 0 = some (.releasing (.ok .null)) := by simp [stage?, h.stages]
  have resumed : l.handle serve (.resume 0) =
      l.record serve 0 (l.session, .finished (.ok .null)) := by
    simp only [handle, there]
    rfl
  have left := record_leaves Ready.plain_continues serve.hears_continues l 0
    (l.session, .finished (.ok .null))
  rw [resumed]
  refine ⟨left.finished.trans ?_, ?_⟩
  · show l.finished ++ _ = _
    rw [h.finished]
    rfl
  · rw [left.session]
    exact h.sent

/-- The reader goes on: it ends if it was told to, and has ended in any case. -/
theorem Leaving.read (steady : serve.Steady) (h : l.Leaving phase sent)
    (ends : phase = .cancelled ∨ phase = .ended) :
    (l.handle serve .read).Leaving .ended sent ∧
      (phase = .cancelled → .resume 0 ∈ (l.handle serve .read).next) := by
  have read : l.session.read = { l.session with reader := .ended } := by
    have there := h.reader
    unfold Session.read
    rcases ends with rfl | rfl
    · rw [there]
      rfl
    · rw [there]
      simp only
      rw [← there]
  have left := handle_read_leaves plain_harmless steady.hear l
  rw [read] at left
  have ended : (l.handle serve .read).session.reader = .ended := by rw [left.session]
  refine ⟨⟨?_, left.stages.trans h.stages, left.finished.trans h.finished, ?_, ?_, ended, nofun⟩,
    fun cancelled => ?_⟩
  · have still := left.all ⟨h.harmless.current, h.harmless.next, h.harmless.schedule⟩
    exact ⟨still.current, still.next, still.schedule⟩
  · rw [left.session]
    exact h.closed
  · rw [left.session]
    exact h.sent
  · let m : Loop σ := ({ l with session := l.session.read }.hear serve).flush
    have waits : 0 ∈ m.closers := by
      rw [flush_closers, hear_closers]
      exact h.closers cancelled
    have over_ : m.session.reader = .ended := by
      have flushed := flush_leaves Ready.plain_continues
        ({ l with session := l.session.read }.hear serve)
      rw [flushed.session, (hear_grows _).session, read]
    have pushed : l.handle serve .read =
        m.closers.foldl (fun l task => l.push (.resume task)) { m with closers := [] } := by
      unfold handle
      exact if_pos over_
    rw [pushed]
    exact mem_foldl_push waits _

/-- **While a call waits for the reader to end**, it ends when it goes on, it is lined up when the
reader goes on, and nothing else matters. -/
theorem handle_leaving (steady : serve.Steady) (h : l.Leaving phase sent)
    (ends : phase = .cancelled ∨ phase = .ended) {r : Ready} (hr : r.Harmless) :
    (r = .resume 0 ∧ (l.handle serve r).Left sent) ∨
      (r = .read ∧ (l.handle serve r).Leaving .ended sent ∧
        (phase = .cancelled → .resume 0 ∈ (l.handle serve r).next)) ∨
      (r ≠ .read ∧ r ≠ .resume 0 ∧ (l.handle serve r).Leaving phase sent) := by
  cases r with
  | begin task call => cases hr
  | relay id =>
    have free : l.held? id = none := by simp [held?, h.stages]
    have still : l.handle serve (.relay id) = l := by
      rw [handle, release, free]
    rw [still]
    exact .inr (.inr ⟨by simp, by simp, h⟩)
  | resume task =>
    by_cases own : task = 0
    · subst own
      exact .inl ⟨rfl, h.resume⟩
    · have gone : l.stage? task = none := by simp [stage?, h.stages, Ne.symm own]
      have still : l.handle serve (.resume task) = l := by
        rw [handle, gone]
      rw [still]
      exact .inr (.inr ⟨by simp, fun e => own (Ready.resume.inj e), h⟩)
  | read =>
    obtain ⟨leaving, lines⟩ := h.read steady ends
    exact .inr (.inl ⟨rfl, leaving, lines⟩)
  | deliver d =>
    have awake : l.session.reader ≠ .waiting := by
      rw [h.reader]
      rcases ends with rfl | rfl <;> decide
    have wire := (l.session.arrive_stirred d.octets).wire
    have reader := (l.session.reader_arrive d.octets).resolve_right fun past => awake past.1
    have arrived : ({ l with session := l.session.arrive d.octets } : Loop σ).Leaving phase sent :=
      ⟨⟨h.harmless.current, h.harmless.next, h.harmless.schedule⟩, h.stages, h.finished,
        by rw [wire]; exact h.closed, by rw [wire]; exact h.sent, reader.trans h.reader,
        h.closers⟩
    have received : l.handle serve (.deliver d) = _ := receive_of_harmless l hr
    rw [received]
    exact .inr (.inr ⟨by simp, by simp, arrived.keeps (flush_keeps _) (flush_closers _)⟩)
  | serve =>
    exact .inr (.inr ⟨by simp, by simp,
      h.keeps (l.adopt_keeps (steady.goOn _ _)) (adopt_closers l _)⟩)

/-! ## Rounds -/

/-- Call 0 waits for the reader to end, and ends within so many rounds, of which this one is the
first. -/
inductive Waits (sent : List Members) : Nat → Loop σ → Prop
  | resumes {n : Nat} {l : Loop σ} (h : l.Leaving .ended sent) (now : .resume 0 ∈ l.current) :
      Waits sent (n + 1) l
  | resumesNext {n : Nat} {l : Loop σ} (h : l.Leaving .ended sent) (next : .resume 0 ∈ l.next) :
      Waits sent (n + 2) l
  | reads {n : Nat} {l : Loop σ} (h : l.Leaving .cancelled sent) (now : .read ∈ l.current) :
      Waits sent (n + 2) l
  | readsNext {n : Nat} {l : Loop σ} (h : l.Leaving .cancelled sent) (next : .read ∈ l.next) :
      Waits sent (n + 3) l

theorem Waits.finished {n : Nat} (h : Waits sent n l) : l.finished = [] := by
  cases h with
  | resumes h => exact h.finished
  | resumesNext h => exact h.finished
  | reads h => exact h.finished
  | readsNext h => exact h.finished

/-- **Whatever goes on in a round**, the call ends or waits for no more rounds than before. -/
theorem Waits.handle (steady : serve.Steady) {n : Nat} (h : Waits sent n l) {r : Ready}
    {rest : List Ready} (hc : l.current = r :: rest) :
    (({ l with current := rest } : Loop σ).handle serve r).Left sent ∨
      Waits sent n (({ l with current := rest } : Loop σ).handle serve r) := by
  let m : Loop σ := { l with current := rest }
  have lines : Lines m (m.handle serve r) := handle_lines serve m r
  have begun {phase : Reader} (h : l.Leaving phase sent) : m.Leaving phase sent ∧ r.Harmless := by
    have harmless : ∀ x ∈ r :: rest, x.Harmless := hc ▸ h.harmless.current
    exact ⟨⟨⟨fun x hx => harmless x (List.mem_cons_of_mem _ hx), h.harmless.next,
      h.harmless.schedule⟩, h.stages, h.finished, h.closed, h.sent, h.reader, h.closers⟩,
      harmless r List.mem_cons_self⟩
  have still {x : Ready} (hx : x ∈ l.current) (other : r ≠ x) :
      x ∈ (m.handle serve r).current := by
    rw [hc] at hx
    rw [lines.current]
    exact (List.mem_cons.mp hx).resolve_left other.symm
  cases h with
  | resumes h now =>
    obtain ⟨leaving, hr⟩ := begun h
    rcases handle_leaving steady leaving (.inr rfl) hr with
      ⟨_, left⟩ | ⟨rfl, leaving, _⟩ | ⟨_, other, leaving⟩
    · exact .inl left
    · exact .inr (.resumes leaving (still now nofun))
    · exact .inr (.resumes leaving (still now other))
  | resumesNext h next =>
    obtain ⟨leaving, hr⟩ := begun h
    rcases handle_leaving steady leaving (.inr rfl) hr with
      ⟨_, left⟩ | ⟨_, leaving, _⟩ | ⟨_, _, leaving⟩
    · exact .inl left
    · exact .inr (.resumesNext leaving (lines.next _ next))
    · exact .inr (.resumesNext leaving (lines.next _ next))
  | reads h now =>
    obtain ⟨leaving, hr⟩ := begun h
    rcases handle_leaving steady leaving (.inl rfl) hr with
      ⟨_, left⟩ | ⟨_, leaving, lined⟩ | ⟨other, _, leaving⟩
    · exact .inl left
    · exact .inr (.resumesNext leaving (lined rfl))
    · exact .inr (.reads leaving (still now other))
  | readsNext h next =>
    obtain ⟨leaving, hr⟩ := begun h
    rcases handle_leaving steady leaving (.inl rfl) hr with
      ⟨_, left⟩ | ⟨_, leaving, lined⟩ | ⟨_, _, leaving⟩
    · exact .inl left
    · exact .inr (.resumesNext leaving (lined rfl))
    · exact .inr (.readsNext leaving (lines.next _ next))

/-- **Behind a round** the call waits for one round less. -/
theorem Waits.turn (serve : Server σ) {n : Nat} (h : Waits sent (n + 1) l) (past : l.current = []) :
    ∃ l', l.tick? serve = some l' ∧ Waits sent n l' := by
  let taken := l.schedule.tidy.take (isDueAt l.now)
  let l' : Loop σ := { l with current := l.next ++ taken.1, next := [], schedule := taken.2 }
  have begins {x : Ready} (hx : x ∈ l.next) :
      l.tick? serve = some l' ∧ x ∈ l'.current := by
    have lined : x ∈ l.next ++ taken.1 := List.mem_append_left _ hx
    exact ⟨turn_round past rfl (List.ne_nil_of_mem lined), lined⟩
  have still {phase : Reader} (h : l.Leaving phase sent) : l'.Leaving phase sent := by
    have due := h.harmless.schedule.tidy.take (isDueAt l.now)
    refine ⟨⟨fun x hx => ?_, fun x hx => absurd hx List.not_mem_nil, due.2⟩, h.stages, h.finished,
      h.closed, h.sent, h.reader, h.closers⟩
    rcases List.mem_append.mp hx with next | now
    · exact h.harmless.next x next
    · exact due.1 x now
  have nobody (r : Ready) : r ∉ l.current := past ▸ List.not_mem_nil
  cases h with
  | resumes h now => exact absurd now (nobody _)
  | resumesNext h next =>
    obtain ⟨goes, now⟩ := begins next
    exact ⟨l', goes, .resumes (still h) now⟩
  | reads h now => exact absurd now (nobody _)
  | readsNext h next =>
    obtain ⟨goes, now⟩ := begins next
    exact ⟨l', goes, .reads (still h) now⟩

/-- Who waits until the next round has begun finds that the call has ended, or waits for one round
less. -/
theorem Waits.await (steady : serve.Steady) {n : Nat} (h : Waits sent (n + 1) l) :
    ∃ l' r, l.await serve 0 (l.current.length + 1) = (l', r) ∧
      match r with
      | some outcome => outcome = .ok .null ∧ l'.session.transport.wire.sent = sent
      | none => Waits sent n l' := by
  generalize hc : l.current = current
  induction current generalizing l with
  | nil =>
    obtain ⟨l', goes, waits⟩ := h.turn serve hc
    refine ⟨l', none, ?_, waits⟩
    rw [Loop.await, h.finished, List.find?_nil]
    simp only [goes]
    rw [List.length_nil, Loop.await, waits.finished, List.find?_nil]
  | cons r rest ih =>
    have goes : l.tick? serve = some (({ l with current := rest } : Loop σ).handle serve r) := by
      unfold tick?
      rw [hc]
    have lines := (handle_lines serve { l with current := rest } r).current
    rw [Loop.await, h.finished, List.find?_nil]
    simp only [goes]
    rcases h.handle steady hc with left | waits
    · exact ⟨_, _, await_finished left.finished _, rfl, left.sent⟩
    · exact ih waits lines

/-- **Who waits for long enough finds that the call has ended.** -/
theorem Waits.ends (steady : serve.Steady) {n : Nat} (h : Waits sent n l) :
    ∃ l', l.awaitWithin serve 0 n = (l', some (.ok .null)) ∧
      l'.session.transport.wire.sent = sent := by
  induction n generalizing l with
  | zero => cases h
  | succ n ih =>
    obtain ⟨l', r, waited, rest⟩ := h.await steady
    rw [awaitWithin, waited]
    cases r with
    | none => exact ih rest
    | some outcome =>
      obtain ⟨rfl, written⟩ := rest
      exact ⟨l', rfl, written⟩

theorem Left.ends (h : l.Left sent) (rounds : Nat) :
    ∃ l', l.awaitWithin serve 0 rounds = (l', some (.ok .null)) ∧
      l'.session.transport.wire.sent = sent := by
  refine ⟨{ l with finished := [] }, ?_, h.sent⟩
  cases rounds <;> rw [awaitWithin, await_finished h.finished]

/-! ## Closing -/

variable {told : List Members} {limit : Option Limit}

end Loop

end ProbeBench
