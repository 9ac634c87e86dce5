import ProbeBench.Proofs.Session.Incoming
import ProbeBench.Proofs.Session.Live
import ProbeBench.Proofs.Session.Table

/-!
# What a session does not take back

Messages that were written stay written, whatever happens on a session, and who has been let go on
still is. That holds of the reader too: where it is about to go on (`Stirs`), it has been let go on.

* `Widens`: more is written, and nobody is forgotten.
* `Moves.widens`, `through_widens`: calls.
* `read_widens`, `arrive_widens`: the reader, and what comes from the server.
-/

namespace ProbeBench

namespace Session

/-- The reader is about to go on. -/
def Stirs (s : Session) : Prop := s.reader = .woken ∨ s.reader = .cancelled

/-- More is written, if anything, nobody who was let go on is forgotten, and a reader that is about
to go on has been let go on. -/
structure Widens (s s' : Session) : Prop where
  sent : s.transport.wire.sent <+: s'.transport.wire.sent
  closeFault : s'.transport.wire.closeFault = s.transport.wire.closeFault
  wakes : ∀ w ∈ s.wakes, w ∈ s'.wakes
  reader : s'.Stirs → s.Stirs ∨ .reader ∈ s'.wakes

variable {s s' : Session}

theorem Widens.trans {u : Session} (h : Widens s s') (h' : Widens s' u) : Widens s u := by
  refine ⟨h.sent.trans h'.sent, h'.closeFault.trans h.closeFault,
    fun w hw => h'.wakes w (h.wakes w hw), fun stirs => ?_⟩
  rcases h'.reader stirs with before | woken
  · exact (h.reader before).imp_right (h'.wakes _)
  · exact .inr woken

/-- What writes nothing takes nothing back. -/
theorem Widens.of_wire (wire : s'.transport.wire = s.transport.wire)
    (wakes : ∀ w ∈ s.wakes, w ∈ s'.wakes) (reader : s'.Stirs → s.Stirs ∨ .reader ∈ s'.wakes) :
    Widens s s' :=
  ⟨⟨[], by rw [List.append_nil, wire]⟩, by rw [wire], wakes, reader⟩

/-- What leaves the stream and the reader as they are takes nothing back. -/
theorem Widens.of_eq (wire : s'.transport.wire = s.transport.wire) (reader : s'.reader = s.reader)
    (wakes : ∀ w ∈ s.wakes, w ∈ s'.wakes) : Widens s s' := by
  refine .of_wire wire wakes fun stirs => .inl ?_
  unfold Stirs at stirs ⊢
  rw [← reader]
  exact stirs

theorem Widens.refl (s : Session) : Widens s s := .of_eq rfl rfl fun _ hw => hw

/-- A reader that ends is not about to go on. -/
theorem not_stirs_of_ended (h : s.reader = .ended) : ¬ s.Stirs := by
  unfold Stirs
  rw [h]
  simp

/-! ## Calls -/

theorem warn_widens (s : Session) (text : String) : Widens s (s.warn text) := by
  unfold warn
  split
  · exact .of_eq rfl rfl fun _ hw => hw
  · exact .refl s

theorem endWith_widens (s : Session) (ending : Ending) : Widens s (s.endWith ending) := by
  rw [endWith_eq]
  exact .of_eq rfl rfl fun _ hw => List.mem_append_left _ hw

theorem start_widens (s : Session) : Widens s s.start := by
  unfold start
  split
  · exact .of_wire rfl (fun _ hw => List.mem_append_left _ hw)
      fun _ => .inr (List.mem_append_right _ (List.mem_singleton_self _))
  · exact .refl s

theorem cancelReader_widens (s : Session) : Widens s s.cancelReader := by
  unfold cancelReader
  split
  · exact .of_wire rfl (fun _ hw => List.mem_append_left _ hw)
      fun _ => .inr (List.mem_append_right _ (List.mem_singleton_self _))
  · rename_i woken
    exact .of_wire rfl (fun _ hw => hw) fun _ => .inl (.inl woken)
  · exact .refl s

/-- Closing the stream to the server writes nothing. -/
theorem shut_widens (s : Session) :
    Widens s { s.shut with transport.wire := s.shut.transport.wire.close.1 } := by
  have announced : Widens s { s with closing := true } := .of_eq rfl rfl fun _ hw => hw
  have shut : Widens s s.shut := announced.trans (endWith_widens _ _)
  refine shut.trans ⟨⟨[], ?_⟩, ?_, fun _ hw => hw, .inl⟩
  · rw [List.append_nil]
    exact (Wire.sent_close _).symm
  · show s.shut.transport.wire.close.1.closeFault = _
    unfold Wire.close
    split <;> rfl

/-- **No act of a call takes anything back.** -/
theorem act_widens (s : Session) (a : Act) : Widens s (s.act a) := by
  cases a with
  | write message => exact ⟨List.prefix_append _ _, rfl, fun _ hw => hw, .inl⟩
  | warn text => exact warn_widens s text
  | adopt result =>
    simp only [act, adopt]
    split
    · exact .of_eq rfl rfl fun _ hw => hw
    · exact .refl s
  | expire id => exact .of_eq rfl rfl fun _ hw => List.mem_append_left _ hw
  | start => exact start_widens s
  | cancelReader => exact cancelReader_widens s
  | close => exact shut_widens s
  | _ => exact .of_eq rfl rfl fun _ hw => hw

end Session

theorem Moves.widens {s : Session} {own : Option Nat} {r : Session × Progress}
    (h : Moves s own r) : Session.Widens s r.1 := by
  induction h with
  | rest => exact .refl _
  | act a _ _ ih => exact (Session.act_widens _ a).trans ih

namespace Session

theorem through_widens (fuel : Nat) (r : Session × Progress) :
    Widens r.1 (Session.through fuel r).1 :=
  through_keeps (fun h stage => h.trans (resume_moves _ stage).widens) fuel (.refl _)

/-! ## Reading -/

theorem widens_along : Along Widens :=
  .of_steps .refl .trans
    (fun noted => by
      obtain ⟨_, _, _, _, rfl⟩ := noted
      exact .of_eq rfl rfl fun _ hw => hw)
    (fun s id method _ => act_widens s (.write (refusal id method)))
    (fun _ _ => .of_eq rfl rfl fun _ hw => hw)
    (fun _ _ _ => .of_eq rfl rfl fun _ hw => List.mem_append_left _ hw)

/-- A reader that waits, or has ended, takes nothing back. -/
theorem Widens.of_calm (h : Widens s s') (reader : Reader)
    (calm : ¬ ({ s' with reader } : Session).Stirs) : Widens s { s' with reader } :=
  ⟨h.sent, h.closeFault, h.wakes, fun stirs => absurd stirs calm⟩

/-- What has been read is not taken back. -/
theorem read_widens (s : Session) : Widens s s.read :=
  widens_along.read (fun s => .of_eq (wire_pull s.transport) rfl fun _ hw => hw)
    (fun s => (Widens.refl s).of_calm .waiting (by simp [Stirs]))
    (fun s => (Widens.refl s).of_calm .ended (by simp [Stirs]))
    (fun s ending => (endWith_widens s ending).of_calm .ended (by simp [Stirs])) s

/-- A reader that has read waits, or has ended. -/
theorem not_stirs_read (s : Session) : ¬ s.read.Stirs := by
  unfold Session.read
  split
  · exact not_stirs_of_ended rfl
  · simp only
    split
    · exact not_stirs_of_ended rfl
    · split
      · simp [Stirs]
      · exact not_stirs_of_ended rfl
      · exact not_stirs_of_ended rfl
  · rename_i cancelled woken
    exact fun stirs => stirs.elim woken cancelled

/-! ## What comes from the server -/

theorem wakeReader_widens (s : Session) : Widens s s.wakeReader := by
  unfold wakeReader
  split
  · exact .of_wire rfl (fun _ hw => List.mem_append_left _ hw)
      fun _ => .inr (List.mem_append_right _ (List.mem_singleton_self _))
  · exact .refl s

theorem arrive_widens (s : Session) (octets : List UInt8) : Widens s (s.arrive octets) := by
  unfold arrive
  split
  · exact .refl s
  · have lies : Widens s { s with transport := s.transport.arrive octets } :=
      .of_eq (wire_arrive _ _) rfl fun _ hw => hw
    exact lies.trans (wakeReader_widens _)

theorem finish_widens (s : Session) : Widens s s.finish := by
  have ended : Widens s { s with transport := s.transport.finish } :=
    .of_eq rfl rfl fun _ hw => hw
  exact ended.trans (wakeReader_widens _)

theorem failReader_widens (s : Session) (fault : StreamFault) : Widens s (s.failReader fault) := by
  have failed : Widens s { s with transport := s.transport.fail fault } :=
    .of_eq rfl rfl fun _ hw => hw
  exact failed.trans (wakeReader_widens _)

end Session

end ProbeBench
