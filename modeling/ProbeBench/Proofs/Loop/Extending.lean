import ProbeBench.Proofs.Loop.Course
import ProbeBench.Proofs.Loop.Waking
import ProbeBench.Proofs.Session.Widening

/-!
# What a loop does not take back

Whatever goes on in a loop, behind any server and with any calls, what was written stays written,
what is lined up stays so until it goes on, and a reader that is about to go on is lined up
(`Heedful`).

* `handle_lines`: what is lined up.
* `flush_extends`: where somebody has been let go on.
* `record_extends`, `handle_extends`, `tick_extends`: the parts of a turn.
* `perform_extends`, `close_extends`: whole calls.
-/

namespace ProbeBench.Loop

variable {σ : Type} {serve : Server σ} {l m l' : Loop σ}

/-! ## What is lined up -/

/-- Nothing is taken out of the lines. -/
structure Lines (l l' : Loop σ) : Prop where
  current : l'.current = l.current
  next : ∀ r ∈ l.next, r ∈ l'.next

theorem Lines.trans {l m n : Loop σ} (h : Lines l m) (h' : Lines m n) : Lines l n :=
  ⟨h'.current.trans h.current, fun r hr => h'.next r (h.next r hr)⟩

/-- Only the lines matter. -/
theorem Lines.of_eq (current : l'.current = l.current) (next : l'.next = l.next) : Lines l l' :=
  ⟨current, fun _ hr => next ▸ hr⟩

theorem Lines.refl (l : Loop σ) : Lines l l := .of_eq rfl rfl

theorem Lines.queued (h : Lines l l') {r : Ready} (hr : l.Queued r) : l'.Queued r :=
  hr.imp (fun now => h.current ▸ now) (h.next r)

theorem Grows.lines (h : Grows l l') : Lines l l' := ⟨h.current, h.next⟩

theorem flush_lines (l : Loop σ) : Lines l l.flush :=
  (foldl_lineUp_grows l.session.wakes l).lines.trans (.of_eq rfl rfl)

theorem arm_lines (l : Loop σ) (task : Nat) (stage : Stage) : Lines l (l.arm task stage) := by
  unfold arm
  split <;> exact .of_eq rfl rfl

theorem disarm_lines (l : Loop σ) (stage : Stage) : Lines l (l.disarm stage) := by
  unfold disarm
  split <;> exact .of_eq rfl rfl

theorem release_lines (l : Loop σ) (id : Nat) : Lines l (l.release id) := by
  unfold release
  split
  · exact ⟨rfl, fun _ hr => List.mem_append_left _ hr⟩
  · exact .refl l

/-- What a call has done is taken over, and then who has been let go on is lined up. -/
theorem record_eq_flush (serve : Server σ) (l : Loop σ) (task : Nat) (r : Session × Progress) :
    ∃ m : Loop σ, l.record serve task r = m.flush ∧ m.session = (Session.through 3 r).1 ∧
      Lines l m := by
  unfold record
  generalize Session.through 3 r = r'
  obtain ⟨s, p⟩ := r'
  let n : Loop σ := { l with session := s }
  cases p with
  | finished outcome =>
    have heard : Grows (n.finish task outcome) ((n.finish task outcome).hear serve) := hear_grows _
    have ended : Lines l (n.finish task outcome) := .of_eq rfl rfl
    exact ⟨_, rfl, heard.session, ended.trans heard.lines⟩
  | waiting stage =>
    have heard : Grows (n.place task stage) ((n.place task stage).hear serve) := hear_grows _
    have placed : Lines l (n.place task stage) := .of_eq rfl rfl
    refine ⟨_, rfl, ?_, (placed.trans heard.lines).trans (arm_lines _ task stage)⟩
    exact (arm_leaves Ready.plain_continues _ task stage).session.trans heard.session

theorem record_lines (serve : Server σ) (l : Loop σ) (task : Nat) (r : Session × Progress) :
    Lines l (l.record serve task r) := by
  obtain ⟨m, same, -, lines⟩ := record_eq_flush serve l task r
  rw [same]
  exact lines.trans (flush_lines m)

/-- **What goes on leaves all others lined up.** -/
theorem handle_lines (serve : Server σ) (l : Loop σ) (r : Ready) :
    Lines l (l.handle serve r) := by
  cases r with
  | begin task call => exact record_lines serve l task _
  | relay id => exact release_lines l id
  | resume task =>
    unfold handle
    simp only
    split
    · exact (disarm_lines l _).trans (record_lines serve _ task _)
    · exact .refl l
  | read =>
    have reads : Lines l { l with session := l.session.read } := .of_eq rfl rfl
    have heard : Grows { l with session := l.session.read }
        ({ l with session := l.session.read }.hear serve) := hear_grows _
    exact ((reads.trans heard.lines).trans (flush_lines _)).trans (read_grows l).lines
  | deliver d =>
    have flushed (s : Session) : Lines l ({ l with session := s } : Loop σ).flush := by
      have arrived : Lines l { l with session := s } := .of_eq rfl rfl
      exact arrived.trans (flush_lines _)
    exact flushed _
  | serve => exact (adopt_grows l _).lines

/-! ## What is written, and the reader -/

/-- A reader that is about to go on is lined up. -/
def Heedful (l : Loop σ) : Prop := l.session.Stirs → l.Queued .read

/-- More is written, if anything, and the reader is still lined up. -/
structure Extends (l l' : Loop σ) : Prop where
  sent : l.session.transport.wire.sent <+: l'.session.transport.wire.sent
  closeFault : l'.session.transport.wire.closeFault = l.session.transport.wire.closeFault
  heedful : l.Heedful → l'.Heedful

theorem Extends.trans {l m n : Loop σ} (h : Extends l m) (h' : Extends m n) : Extends l n :=
  ⟨h.sent.trans h'.sent, h'.closeFault.trans h.closeFault, h'.heedful ∘ h.heedful⟩

/-- Only the session and what is lined up matter. -/
theorem Extends.of_eq (session : l'.session = l.session)
    (queued : l.Queued .read → l'.Queued .read) : Extends l l' := by
  refine ⟨⟨[], by rw [List.append_nil, session]⟩, by rw [session], fun heedful stirs => ?_⟩
  exact queued (heedful (session ▸ stirs))

theorem Extends.refl (l : Loop σ) : Extends l l := .of_eq rfl id

/-- **Who has been let go on is lined up**, the reader as well. -/
theorem flush_extends (session : l.session.Widens m.session) (lines : Lines l m) :
    Extends l m.flush := by
  have flushed : m.flush.session = { m.session with wakes := [] } :=
    (flush_leaves Ready.plain_continues m).session
  refine ⟨?_, ?_, fun heedful stirs => ?_⟩
  · rw [flushed]
    exact session.sent
  · rw [flushed]
    exact session.closeFault
  · have stirs' : m.session.Stirs := by
      unfold Session.Stirs at stirs ⊢
      rw [flushed] at stirs
      exact stirs
    rcases session.reader stirs' with before | woken
    · exact (flush_lines m).queued (lines.queued (heedful before))
    · refine .inr (mem_foldl_lineUp woken fun n _ => ?_)
      exact List.mem_append_right _ (List.mem_singleton_self _)

/-- **A call takes nothing back.** -/
theorem record_extends (serve : Server σ) (l : Loop σ) (task : Nat) {r : Session × Progress}
    (h : l.session.Widens r.1) : Extends l (l.record serve task r) := by
  obtain ⟨m, same, session, lines⟩ := record_eq_flush serve l task r
  rw [same]
  refine flush_extends ?_ lines
  rw [session]
  exact h.trans (Session.through_widens 3 r)

theorem receive_extends (l : Loop σ) (d : Delivery) : Extends l (l.receive d) := by
  obtain ⟨s, widens, received⟩ := l.receive_eq d (P := l.session.Widens) (.refl _)
    (fun _ _ h => h.trans ⟨List.prefix_refl _, rfl, fun _ hw => hw, .inl⟩)
    (fun _ _ h => h.trans (Session.arrive_widens _ _))
    (fun _ h => h.trans (Session.finish_widens _))
    fun _ _ h => h.trans (Session.failReader_widens _ _)
  rw [received]
  exact flush_extends widens (.of_eq rfl rfl)

/-- A reader that has gone on is not about to. -/
theorem read_extends (serve : Server σ) (l : Loop σ) {rest : List Ready} :
    Extends l (({ l with current := rest } : Loop σ).handle serve .read) := by
  have session : (({ l with current := rest } : Loop σ).handle serve .read).session =
      { l.session.read with wakes := [] } :=
    (handle_read_leaves Ready.plain_continues serve.hears_continues _).session
  have widens := l.session.read_widens
  refine ⟨?_, ?_, fun _ stirs => absurd ?_ l.session.not_stirs_read⟩
  · rw [session]
    exact widens.sent
  · rw [session]
    exact widens.closeFault
  · unfold Session.Stirs at stirs ⊢
    rw [session] at stirs
    exact stirs

/-- **Whatever goes on takes nothing back.** -/
theorem handle_extends (serve : Server σ) {rest : List Ready} {r : Ready}
    (hc : l.current = r :: rest) :
    Extends l (({ l with current := rest } : Loop σ).handle serve r) := by
  -- all but the reader leave it lined up
  have begun (other : r ≠ .read) : Extends l { l with current := rest } :=
    .of_eq rfl (.rest hc other)
  cases r with
  | begin task call =>
    exact (begun nofun).trans
      (record_extends serve _ task (l.session.begin_moves call).widens)
  | relay id =>
    refine (begun nofun).trans (.of_eq ?_ (release_lines _ id).queued)
    exact (release_leaves Ready.plain_continues _ id).session
  | resume task =>
    refine (begun nofun).trans ?_
    unfold handle
    simp only
    split
    · rename_i stage _
      have disarmed :=
        (disarm_leaves (p := Ready.Continues) { l with current := rest } stage).session
      refine (Extends.of_eq disarmed (disarm_lines _ stage).queued).trans
        (record_extends serve _ task ?_)
      rw [disarmed]
      exact (l.session.resume_moves stage).widens
    · exact .refl _
  | read => exact read_extends serve l
  | deliver d => exact (begun nofun).trans (receive_extends _ d)
  | serve =>
    have adopted := adopt_grows { l with current := rest } (serve.goOn l.server l.now)
    exact (begun nofun).trans (.of_eq adopted.session adopted.queued)

/-- **A turn takes nothing back.** -/
theorem tick_extends (h : l.tick? serve = some l') : Extends l l' := by
  rcases tick?_cases h with ⟨r, rest, hc, rfl⟩ | ⟨hc, rfl⟩
  · exact handle_extends serve hc
  · refine .of_eq rfl fun hr => .inl (List.mem_append_left _ ?_)
    rw [Queued, hc] at hr
    exact hr.resolve_left List.not_mem_nil

theorem jump_extends (h : l.jump? = some l') : Extends l l' := by
  obtain ⟨deadline, _, rfl⟩ := Option.map_eq_some_iff.mp h
  exact .of_eq rfl id

/-! ## Whole calls -/

theorem await_extends (serve : Server σ) (l : Loop σ) (task fuel : Nat) :
    Extends l (l.await serve task fuel).1 :=
  await_keeps (P := Extends l) (fun h ht => h.trans (tick_extends ht))
    (fun h hj => h.trans (jump_extends hj)) (fun _ h => h.trans (.of_eq rfl id)) (.refl l) task fuel

/-- **A call takes nothing back.** -/
theorem perform_extends (serve : Server σ) (l : Loop σ) (call : Call) :
    Extends l (l.perform serve call).1 :=
  (record_extends serve l 0 (l.session.begin_moves call).widens).trans (await_extends serve _ 0 _)

theorem awaitWithin_extends (serve : Server σ) (task rounds : Nat) (l : Loop σ) :
    Extends l (l.awaitWithin serve task rounds).1 := by
  induction rounds generalizing l with
  | zero => exact await_extends serve l task 0
  | succ rounds ih =>
    have round := await_extends serve l task (l.current.length + 1)
    unfold awaitWithin
    split
    · rename_i he
      rw [he] at round
      exact round.trans (ih _)
    · exact round

theorem close_extends (serve : Server σ) (l : Loop σ) : Extends l (l.close serve).1 :=
  (record_extends serve l 0 (l.session.begin_moves .close).widens).trans
    (awaitWithin_extends serve 0 3 _)

theorem abandon_extends (l : Loop σ) (task : Nat) : Extends l (l.abandon task) := by
  unfold abandon
  split
  · rename_i stage _
    have disarmed : Extends l (l.disarm stage) :=
      .of_eq (disarm_leaves (p := Ready.Continues) l stage).session (disarm_lines l stage).queued
    simp only
    split
    · refine disarmed.trans ⟨List.prefix_refl _, rfl, id⟩
    · exact disarmed.trans (.of_eq rfl id)
  · exact .refl l

end ProbeBench.Loop
