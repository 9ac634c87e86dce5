import ProbeBench.Proofs.Session.Calm
import ProbeBench.Proofs.Session.Live

/-!
# What is written

A session writes what its callers ask for, and a few messages on its own account: the notifications
with which a handshake and a session end (`OwnNotices`), refusals, and the withdrawal of a request
whose time is over. So what holds of these holds of everything that is written while calls go on and
messages come in (`Session.Adds`), and only a call that gives its request up writes a withdrawal.

* `resume_adds`, `unwritten_adds`, `request_adds`: what calls write.
* `read_adds`, `absorb_adds`: what the reader writes.
* `Traffic.givesUp?`, `Traffic.step_adds`: what an event writes with which no call begins.
-/

namespace ProbeBench

/-- The notifications that a session writes on its own account have a property. -/
structure OwnNotices (P : Members → Prop) : Prop where
  greets : P (notification "initialized" (.obj []))
  leaves : P (notification "exit" .null)

/-- The message with which a call begins has a property, whatever number its request gets. -/
def Call.Writes (P : Members → Prop) : Call → Prop
  | .request method params _ => ∀ id, P (requestMessage id method params)
  | .notify method params => P (notification method params)
  | .handshake params => ∀ id, P (requestMessage id "initialize" params)
  | .connect params => ∀ id, P (requestMessage id "initialize" params)
  | .shutdown _ => ∀ id, P (requestMessage id "shutdown" .null)
  | .close => True
  | .start => True

namespace Session

/-- Messages with a property have been written, and no others. -/
def Adds (P : Members → Prop) (s s' : Session) : Prop :=
  ∃ new, s'.transport.wire.sent = s.transport.wire.sent ++ new ∧ ∀ m ∈ new, P m

variable {P : Members → Prop}

theorem Adds.of_eq {s s' : Session} (h : s'.transport.wire.sent = s.transport.wire.sent) :
    Adds P s s' :=
  ⟨[], by rw [h, List.append_nil], fun _ hm => absurd hm List.not_mem_nil⟩

theorem Adds.refl (s : Session) : Adds P s s := .of_eq rfl

theorem Adds.trans {s t u : Session} (h : Adds P s t) (h' : Adds P t u) : Adds P s u := by
  obtain ⟨new, e, all⟩ := h
  obtain ⟨more, e', all'⟩ := h'
  refine ⟨new ++ more, by rw [e', e, List.append_assoc], fun m hm => ?_⟩
  rcases List.mem_append.mp hm with first | later
  · exact all m first
  · exact all' m later

/-! ## Calls -/

theorem send_adds {s s' : Session} {message : Members} (h : s.send message = .ok s')
    (has : P message) : Adds P s s' := by
  obtain ⟨_, _, rfl⟩ := send_ok h
  exact ⟨[message], rfl, fun m hm => List.mem_singleton.mp hm ▸ has⟩

theorem tell_adds {s : Session} {method : String} {params : Json} {after : After}
    {r : Session × Progress} (h : s.tell method params after = .ok r)
    (has : P (notification method params)) : Adds P s r.1 := by
  unfold tell at h
  split at h
  · cases h
  · split at h
    · rename_i sent
      cases h
      exact send_adds sent has
    · cases h

theorem warn_adds (s : Session) (text : String) : Adds P s (s.warn text) := by
  unfold warn
  split <;> exact .of_eq rfl

theorem shut_adds (s : Session) : Adds P s s.shut := by
  rw [shut, endWith_eq]
  exact .of_eq rfl

theorem cancelReader_adds (s : Session) : Adds P s s.cancelReader := by
  unfold cancelReader
  split <;> exact .of_eq rfl

theorem release_adds (s : Session) (result : Outcome) (fault : Option StreamFault) :
    Adds P s (s.release result fault).1 := by
  unfold release
  split
  · exact .refl s
  · split
    · exact .refl s
    · exact cancelReader_adds s

theorem close_adds (s : Session) (result : Outcome) : Adds P s (s.close result).1 := by
  unfold close
  simp only
  split
  · exact (shut_adds s).trans (release_adds _ _ _)
  · exact (shut_adds s).trans (.of_eq (Wire.sent_close _))

theorem failHandshake_adds (s : Session) (goal : Goal) (failure : Failure) :
    Adds P s (s.failHandshake goal failure).1 := by
  unfold failHandshake
  split
  · exact close_adds _ _
  · exact .refl s

section Calls

variable (own : OwnNotices P)

include own

theorem acknowledge_adds (s : Session) (goal : Goal) (result : Json) :
    Adds P s (s.acknowledge goal result).1 := by
  have adopted : Adds P s (s.adopt result) := by
    unfold adopt
    split <;> exact .of_eq rfl
  unfold acknowledge
  simp only
  split
  · rename_i told
    exact adopted.trans (tell_adds told own.greets)
  · exact adopted.trans (failHandshake_adds _ _ _)

theorem exit_adds (s : Session) : Adds P s s.exit.1 := by
  unfold exit
  split
  · exact close_adds _ _
  · split
    · rename_i told
      exact tell_adds told own.leaves
    · exact .refl s

theorem proceed_adds (s : Session) (goal : Goal) (outcome : Outcome) :
    Adds P s (s.proceed goal outcome).1 := by
  unfold proceed
  split
  · exact .refl s
  · exact exit_adds own s
  · split
    · exact (warn_adds _ _).trans (exit_adds own _)
    · exact .refl s
  · exact acknowledge_adds own _ _ _
  · exact failHandshake_adds _ _ _

theorem conclude_adds (s : Session) (goal : Goal) (id : Nat) (outcome : Outcome) :
    Adds P s (s.conclude goal id outcome).1 :=
  Adds.trans (.of_eq rfl) (proceed_adds own _ _ _)

theorem concludeOr_adds {s : Session} {goal : Goal} {id : Nat} {otherwise : Session × Progress}
    (h : Adds P s otherwise.1) : Adds P s (s.concludeOr goal id otherwise).1 := by
  unfold concludeOr
  split
  · exact conclude_adds own _ _ _ _
  · exact h

theorem written_adds (s : Session) (after : After) : Adds P s (s.written after).1 := by
  unfold written
  split
  · exact concludeOr_adds own (.refl s)
  · exact .refl s
  · exact concludeOr_adds own (.of_eq rfl)
  · exact conclude_adds own _ _ _ _
  · exact .refl s
  · exact .refl s
  · exact close_adds _ _
  · exact .refl s

theorem unwritten_adds (s : Session) (failure : Failure) (after : After) :
    Adds P s (s.unwritten failure after).1 := by
  unfold unwritten
  split
  · exact conclude_adds own _ _ _ _
  · exact conclude_adds own _ _ _ _
  · exact conclude_adds own _ _ _ _
  · exact failHandshake_adds _ _ _
  · exact .refl s
  · exact .refl s

theorem giveUp_adds (s : Session) (goal : Goal) {id : Nat} (failure : Failure)
    (withdraws : P (cancellation id)) :
    Adds P s (s.giveUp goal id failure).1 := by
  have forgotten : Adds P s (s.forget id) := .of_eq rfl
  unfold giveUp
  simp only
  split
  · rename_i told
    exact forgotten.trans (tell_adds told withdraws)
  · exact forgotten.trans (conclude_adds own _ _ _ _)

/-- **A call that goes on writes the notices of the session**, or that it gives its request up. -/
theorem resume_adds (s : Session) {stage : Stage}
    (withdraws : ∀ goal id failure, stage = .expiring goal id failure → P (cancellation id)) :
    Adds P s (s.resume stage).1 := by
  unfold resume
  split
  · exact written_adds own _ _
  · exact concludeOr_adds own (.refl s)
  · exact concludeOr_adds own (.of_eq rfl)
  · exact giveUp_adds own _ _ _ (withdraws _ _ _ rfl)
  · exact release_adds _ _ _
  · exact .refl s

theorem request_adds (s : Session) (goal : Goal) {method : String} {params : Json}
    (patience : Patience) (asks : ∀ id, P (requestMessage id method params)) :
    Adds P s (s.request goal method params patience).1 := by
  unfold request
  split
  · exact proceed_adds own _ _ _
  · have registered : Adds P s (s.act (.register method)) := .of_eq rfl
    simp only
    split
    · rename_i sent
      exact registered.trans (send_adds sent (asks _))
    · exact registered.trans (unwritten_adds own _ _ _)

/-- **A call that begins writes its own message** and the notices of the session. -/
theorem begin_adds (s : Session) {call : Call} (writes : call.Writes P) :
    Adds P s (s.begin call).1 := by
  have started : Adds P s s.start := by
    unfold start
    split <;> exact .of_eq rfl
  cases call with
  | request method params patience => exact request_adds own s _ patience writes
  | handshake params => exact request_adds own s _ .inherited writes
  | connect params => exact started.trans (request_adds own _ _ .inherited writes)
  | close => exact close_adds s _
  | start => exact started
  | shutdown patience =>
    unfold begin
    simp only
    split
    · exact close_adds s _
    · exact Adds.trans (.of_eq rfl) (request_adds own _ _ patience writes)
  | notify method params =>
    unfold begin
    simp only
    split
    · rename_i told
      exact tell_adds told writes
    · exact .refl s

end Calls

/-! ## The reader -/

section Reader

variable (refuses : ∀ id method, P (refusal id method))

include refuses

theorem adds_along : Along (Adds P) :=
  .of_steps .refl .trans
    (fun noted => by
      obtain ⟨_, _, _, _, rfl⟩ := noted
      exact .of_eq rfl)
    (fun _ id method _ => ⟨[refusal id method], rfl, by simpa using refuses id method⟩)
    (fun _ _ => .of_eq rfl) (fun _ _ _ => .of_eq rfl)

omit refuses in
theorem lose_adds (s : Session) (ending : Ending) : Adds P s (s.lose ending).endReader := by
  rw [lose, endWith_eq]
  exact .of_eq rfl

/-- **The reader writes refusals only.** -/
theorem read_adds (s : Session) : Adds P s s.read :=
  (adds_along refuses).read (fun s => .of_eq (congrArg Wire.sent (wire_pull s.transport)))
    (fun _ => .of_eq rfl) (fun _ => .of_eq rfl) lose_adds s

/-- **What happens to the reader makes it write refusals only.** -/
theorem absorb_adds (s : Session) (e : Traffic.Event) : Adds P s (s.absorb e) :=
  (adds_along refuses).absorb lose_adds (fun _ _ _ _ _ => .of_eq rfl) fun _ _ => .of_eq rfl

end Reader

end Session

/-! ## Events -/

namespace Traffic

/-- The request that a call gives up with an event. -/
def givesUp? (t : Traffic) : Event → Option Nat
  | .goOn task =>
    match t.stage task with
    | some (.expiring _ id _) => some id
    | _ => none
  | .expire task => if (t.move? (.expire task)).isSome then t.own? task else none
  | _ => none

/-- **An event with which no call begins** writes the notices of the session, refusals, and the
withdrawal of a request that is given up. -/
theorem step_adds {P : Members → Prop} (own : OwnNotices P)
    (refuses : ∀ id method, P (refusal id method)) {t : Traffic} {e : Event}
    (old : ∀ task call, e ≠ .call task call)
    (withdraws : ∀ id, t.givesUp? e = some id → P (cancellation id)) :
    Session.Adds P t.session (t.step e).session := by
  cases hm : t.move? e with
  | none =>
    rw [step_of_none hm]
    exact Session.absorb_adds refuses _ e
  | some m =>
    obtain ⟨task, r⟩ := m
    rw [step_of_move hm]
    rcases task_of_move? hm with ⟨c, rfl, -⟩ | rfl | rfl | ⟨fault, rfl⟩
    · exact absurd rfl (old task c)
    · obtain ⟨stage, hs, he⟩ := Option.map_eq_some_iff.mp hm
      cases he
      refine Session.resume_adds own _ fun goal id failure expiring => withdraws id ?_
      rw [givesUp?, hs, expiring]
    · obtain ⟨stage, hs, he⟩ := Option.bind_eq_some_iff.mp hm
      have mine : (t.move? (.expire task)).isSome := by rw [hm]; rfl
      split at he
      · rename_i s goal id failure hr
        cases he
        obtain ⟨rfl, stops⟩ := Session.expiring_of_resume hr
        have waited : stage.id? = some id := by
          rcases stops with rfl | ⟨_, _, rfl, -⟩ <;> rfl
        have stopped : Session.Adds P t.session (t.session.act (.expire id)) := .of_eq rfl
        refine stopped.trans (Session.giveUp_adds own _ _ _ (withdraws id ?_))
        rw [givesUp?, if_pos mine, own?, hs]
        exact waited
      · cases he
    · simp only [move?] at hm
      split at hm
      · cases hm
        exact Session.unwritten_adds own _ _ _
      · cases hm

/-- **Whatever happens while no call begins**, and in whatever order. -/
theorem run_adds {P : Members → Prop} (own : OwnNotices P)
    (refuses : ∀ id method, P (refusal id method)) (withdraws : ∀ id, P (cancellation id))
    (t : Traffic) {events : List Event} (old : ∀ e ∈ events, ∀ task call, e ≠ .call task call) :
    Session.Adds P t.session (t.run events).session := by
  induction events generalizing t with
  | nil => exact .refl _
  | cons e rest ih =>
    have first := step_adds (t := t) own refuses (old e List.mem_cons_self) fun id _ => withdraws id
    exact first.trans (ih (t.step e) fun e' he' => old e' (List.mem_cons_of_mem _ he'))

end Traffic

end ProbeBench
