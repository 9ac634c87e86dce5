import ProbeBench.Proofs.Session.Broken

/-!
# How a shutdown ends

A shutdown asks the server to shut down, says `exit` when that request is over, and closes the
session. It does so after every answer of the server, when the server stays silent until the time is
over, and when somebody else has closed the session. What it does not survive is the loss of the
connection: if its request fails with that, or if a message of its own is not taken, it fails in the
same way and closes nothing. The stream stays open, and if only a write has failed, so does the
session, with all requests that are pending.

* `Session.Retired`: the ways in which a shutdown ends.
* `Session.Truthful`: with what requests fail, in every state (`truthful_step`, `truthful_run`).
* `Session.Comes`: what one move of a shutdown comes to (`begin_comes`, `resume_comes`,
  `unwritten_comes`, `giveUp_comes`).
* `Traffic.shutdown_retires`: every run on which a shutdown ends.
* `Traffic.not_released_when_gone`: a shutdown that finds the server gone.
-/

namespace ProbeBench

/-- Whether a message is the notification that ends the server. -/
def isExit (message : Members) : Bool :=
  match message.get? "method" with
  | some (.str method) => method = "exit"
  | _ => false

/-- A shutdown whose request is `n` waits at the stage for the end of that request. -/
inductive Stage.Asks (n : Nat) : Stage → Prop
  | wait {method : String} {limit : Option Float} :
      Asks n (.writing (.wait .shutdown n method limit))
  | check {failure : Failure} (soft : Session.isTolerated failure = true) :
      Asks n (.writing (.check .shutdown n failure))
  | fail {failure : Failure} (soft : Session.isTolerated failure = true) :
      Asks n (.writing (.fail .shutdown n failure))
  | awaiting {method : String} {limit : Option Float} : Asks n (.awaiting .shutdown n method limit)
  | expiring {failure : Failure} (soft : Session.isTolerated failure = true) :
      Asks n (.expiring .shutdown n failure)

/-- Whether a limit can be measured. -/
def Limit.isTime : Limit → Bool
  | .seconds _ => true
  | _ => false

namespace Session

/-- How often `exit` has been said. -/
def exits (s : Session) : Nat := s.transport.wire.sent.countP isExit

/-- The transport is closed, the session has ended and no request is pending. -/
structure Released (s : Session) : Prop where
  closed : s.transport.wire.closed = true
  ended : s.ending ≠ none
  empty : s.pending = []

/-- A call with the request `n` has closed nothing, and has left every other request where it
was. -/
structure Spares (n : Nat) (s s' : Session) : Prop where
  closed : s'.transport.wire.closed = s.transport.wire.closed
  broken : s'.transport.wire.broken = s.transport.wire.broken
  ending : s'.ending = s.ending
  others : ∀ e ∈ s.pending, e.id ≠ n → e ∈ s'.pending

/-- With what a shutdown fails, whose message may have met one of the faults `drained` while it
waited for the stream to take it. -/
inductive Beaten (s : Session) (drained : WriteFault → Prop) : Failure → Prop
  /-- The connection has been lost. -/
  | lost {cause : Loss} (ended : s.ending = some (.lost cause)) : Beaten s drained (.lost cause)
  /-- A message was not taken. -/
  | unwritten {fault : WriteFault}
      (met : drained fault ∨ ∃ message, s.send message = .error fault) :
      Beaten s drained fault.failure

/-- How a shutdown with the request `n` ends: its last move leads from the first session to the
second. -/
inductive Retired (n : Nat) (drained : WriteFault → Prop) (s s' : Session) : Outcome → Prop
  /-- It has released everything. -/
  | released (released : s'.Released) : Retired n drained s s' (.ok .null)
  /-- It has released everything, and closing the stream has met a fault. -/
  | jammed {fault : StreamFault} (released : s'.Released) :
      Retired n drained s s' (.error (.stream fault))
  /-- It has failed, and has released nothing. -/
  | failed {failure : Failure} (beaten : Beaten s drained failure) (spares : Spares n s s') :
      Retired n drained s s' (.error failure)

/-- Where a shutdown with the request `n` waits. -/
inductive Retiring (n : Nat) (s : Session) : Stage → Prop
  | asks {stage : Stage} (asks : stage.Asks n) : Retiring n s stage
  | leaves : Retiring n s (.writing .exit)
  | closes {fault : Option StreamFault} (released : s.Released) :
      Retiring n s (.closing (.ok .null) fault)
  | releases (released : s.Released) : Retiring n s (.releasing (.ok .null))

/-- What one move of a shutdown comes to. It says `exit` only if it is `ready`, that is, if its
request is over. -/
inductive Comes (n : Nat) (drained : WriteFault → Prop) (s : Session) (ready : Prop) :
    Session × Progress → Prop
  | waits {s' : Session} {stage : Stage} (retiring : Retiring n s' stage)
      (spoken : ready ∨ s'.exits = s.exits) : Comes n drained s ready (s', .waiting stage)
  | ends {s' : Session} {o : Outcome} (retired : Retired n drained s s' o)
      (spoken : ready ∨ s'.exits = s.exits) : Comes n drained s ready (s', .finished o)

/-- Requests fail with an error of the server or because the session has ended. -/
def Truthful (s : Session) : Prop :=
  ∀ id failure, (id, .error failure) ∈ s.outcomes →
    isTolerated failure = true ∨ ∃ cause, s.ending = some (.lost cause) ∧ failure = .lost cause

variable {n : Nat} {drained : WriteFault → Prop} {s s' : Session} {ready : Prop}

/-! ## With what requests fail -/

theorem Truthful.congr (h : s.Truthful) (same : SameTable s s') : s'.Truthful := by
  intro id failure there
  rw [same.ending]
  exact h id failure (same.outcomes ▸ there)

/-- The end of a session tells everybody the same. -/
theorem Truthful.endWith (h : s.Truthful) (ending : Ending) : (s.endWith ending).Truthful := by
  rw [endWith_eq]
  intro id failure there
  simp only [List.mem_append, List.mem_map] at there
  rcases there with before | ⟨e, -, same⟩
  · refine (h id failure before).imp_right fun ⟨cause, ended, lost⟩ => ⟨cause, ?_, lost⟩
    simp only [ended, Option.getD_some]
  · cases same
    cases s.ending.getD ending with
    | lost cause => exact .inr ⟨cause, rfl, rfl⟩
    | closed => exact .inl rfl

theorem Truthful.act (h : s.Truthful) (a : Act) : (s.act a).Truthful := by
  by_cases plain : a.isPlain = true
  · exact h.congr (act_same s plain)
  · cases a with
    | conclude id => exact fun id' failure there => h id' failure (List.mem_filter.mp there).1
    | close =>
      have closed := h.endWith .closed
      rw [endWith_eq] at closed
      simp only [Session.act, shut, endWith_eq]
      exact closed
    | register method => exact h
    | forget id => exact h
    | expire id => exact h
    | _ => exact absurd rfl plain

theorem responseOutcome_soft {method : String} {message : Members} {failure : Failure}
    (h : responseOutcome method message = .error failure) : isTolerated failure = true := by
  unfold responseOutcome at h
  split at h
  · cases h
  · cases h
  · cases h
    unfold requestFailure
    split <;> rfl

/-- What the server answers is tolerated. -/
theorem Truthful.dispatch (h : s.Truthful) (message : Members) :
    (s.dispatch message).1.Truthful := by
  unfold Session.dispatch
  split
  · exact h.congr (handle_same _ _ _)
  · rw [respond_eq]
    cases s.addressee? message with
    | none => exact h.congr (drop_same _ _)
    | some e =>
      simp only
      split
      · exact Truthful.congr (s := s.forget e.id) h (drop_same _ _)
      · intro id failure there
        rcases List.mem_append.mp there with before | now
        · exact h id failure before
        · have same : (id, .error failure) = (e.id, responseOutcome e.method message) :=
            List.mem_singleton.mp now
          exact .inl (responseOutcome_soft (Prod.ext_iff.mp same).2.symm)

theorem Truthful.absorb (h : s.Truthful) (e : Traffic.Event) : (s.absorb e).Truthful :=
  absorb_keeps (fun h => h.dispatch) (fun h => h.endWith) (fun h => h.congr) h e

theorem Truthful.outcome? (h : s.Truthful) {o : Outcome} (found : s.outcome? n = some o)
    {failure : Failure} (fails : o = .error failure) :
    isTolerated failure = true ∨ Beaten s drained failure := by
  obtain ⟨p, hp, same⟩ := Option.map_eq_some_iff.mp found
  have there : (p.1, .error failure) ∈ s.outcomes := by
    rw [← fails, ← same]
    exact List.mem_of_find?_eq_some hp
  refine (h p.1 failure there).imp_right fun ⟨cause, ended, lost⟩ => ?_
  rw [lost]
  exact .lost ended

/-! ## One move -/

theorem Spares.refl (n : Nat) (s : Session) : Spares n s s := ⟨rfl, rfl, rfl, fun _ he _ => he⟩

theorem Spares.trans {s'' : Session} (h : Spares n s s') (h' : Spares n s' s'') :
    Spares n s s'' where
  closed := h'.closed.trans h.closed
  broken := h'.broken.trans h.broken
  ending := h'.ending.trans h.ending
  others := fun e he other => h'.others e (h.others e he other) other

/-- A shutdown that takes its own request off the table spares the others. -/
theorem spares_conclude (n : Nat) (s : Session) : Spares n s (s.act (.conclude n)) :=
  ⟨rfl, rfl, rfl, fun _ he other => List.mem_filter.mpr ⟨he, by simpa using other⟩⟩

theorem spares_forget (n : Nat) (s : Session) : Spares n s (s.forget n) :=
  ⟨rfl, rfl, rfl, (spares_conclude n s).others⟩

theorem spares_expire (n : Nat) (s : Session) : Spares n s (s.act (.expire n)) := by
  refine ⟨rfl, rfl, rfl, fun e he other => List.mem_map.mpr ⟨e, he, ?_⟩⟩
  rw [if_neg other]

theorem spares_warn (n : Nat) (s : Session) (text : String) : Spares n s (s.warn text) := by
  have same := warn_same s text
  exact ⟨same.closed, broken_act s (.warn text), same.ending, fun _ he _ => same.pending ▸ he⟩

/-- The stream refuses what it has refused before. -/
theorem Beaten.of_spares {failure : Failure} (h : Beaten s' drained failure)
    (spares : Spares n s s') : Beaten s drained failure := by
  cases h with
  | lost ended => exact .lost (spares.ending ▸ ended)
  | unwritten met =>
    refine .unwritten (met.imp_right fun ⟨message, refuses⟩ => ⟨message, ?_⟩)
    unfold send Wire.send at refuses ⊢
    rw [spares.closed, spares.broken] at refuses
    by_cases closed : s.transport.wire.closed = true
    · rw [if_pos closed] at refuses ⊢
      exact refuses
    · rw [if_neg closed] at refuses ⊢
      cases broken : s.transport.wire.broken with
      | none =>
        rw [broken] at refuses
        cases refuses
      | some other =>
        rw [broken] at refuses
        simp only at refuses ⊢
        split at refuses
        · rename_i gone
          rw [if_pos gone]
          exact refuses
        · rename_i gone
          rw [if_neg gone]
          exact refuses

theorem Comes.of_spares {r : Session × Progress} (h : Comes n drained s' ready r)
    (spares : Spares n s s') (exits : s'.exits = s.exits) : Comes n drained s ready r := by
  cases h with
  | waits retiring spoken => exact .waits retiring (exits ▸ spoken)
  | ends retired spoken =>
    refine .ends ?_ (exits ▸ spoken)
    cases retired with
    | released released => exact .released released
    | jammed released => exact .jammed released
    | failed beaten later => exact .failed (beaten.of_spares spares) (spares.trans later)

/-- A message that is not taken is no reason to go on, and neither is a lost connection. -/
theorem Beaten.hard {failure : Failure} (h : Beaten s drained failure) :
    isTolerated failure = false := by
  cases h with
  | lost _ => rfl
  | @unwritten fault _ => cases fault <;> rfl

theorem exits_warn (s : Session) (text : String) : (s.warn text).exits = s.exits := by
  unfold warn
  split <;> rfl

theorem exits_cancelReader (s : Session) : s.cancelReader.exits = s.exits := by
  unfold cancelReader
  split <;> rfl

/-- A session that has not ended writes a notification, unless the stream refuses it. -/
theorem tell_of_alive (alive : s.ending = none) (method : String) (params : Json) (after : After) :
    s.tell method params after =
        .ok (s.act (.write (notification method params)), .waiting (.writing after)) ∨
      ∃ fault, s.send (notification method params) = .error fault ∧
        s.tell method params after = .error fault.failure := by
  simp only [tell, refuse, alive]
  cases sent : s.send (notification method params) with
  | ok s' =>
    obtain ⟨-, -, rfl⟩ := send_ok sent
    exact .inl rfl
  | error fault => exact .inr ⟨fault, rfl, rfl⟩

/-- Going on after the stream has closed. -/
theorem release_comes (released : s'.Released) (exits : s'.exits = s.exits)
    (fault : Option StreamFault) : Comes n drained s ready (s'.release (.ok .null) fault) := by
  cases fault with
  | some fault => exact .ends (.jammed released) (.inr exits)
  | none =>
    unfold release
    simp only
    split
    · exact .ends (.released released) (.inr exits)
    · have same := cancelReader_same s'
      have kept : s'.cancelReader.Released :=
        ⟨same.closed.trans released.closed, same.ending ▸ released.ended,
          same.pending.trans released.empty⟩
      exact .waits (.releases kept) (.inr ((exits_cancelReader s').trans exits))

/-- **Closing releases everything.** -/
theorem close_comes (n : Nat) (s : Session) : Comes n drained s ready (s.close (.ok .null)) := by
  have ended : s.shut.ending ≠ none := by simp [shut, endWith_eq]
  have empty : s.shut.pending = [] := by simp [shut, endWith_eq]
  have transport : s.shut.transport = s.transport := by simp [shut, endWith_eq]
  unfold close
  simp only
  split
  · rename_i closed
    exact release_comes ⟨closed, ended, empty⟩ (by rw [exits, transport, exits]) none
  · have spoken : s.shut.transport.wire.close.1.sent = s.transport.wire.sent := by
      rw [Wire.sent_close, transport]
    refine .waits (.closes ⟨Wire.closed_close _, ended, empty⟩) (.inr ?_)
    exact congrArg (List.countP isExit) spoken

/-- Saying `exit`, unless the session has ended; then it is closed without a word. -/
theorem exit_comes (n : Nat) (s : Session) (h : ready ∨ s.closed = true) :
    Comes n drained s ready s.exit := by
  unfold exit
  split
  · exact close_comes n s
  · rename_i alive
    have ready_ : ready := h.resolve_right alive
    have live : s.ending = none := by simpa [Session.closed] using alive
    rcases tell_of_alive live "exit" .null .exit with told | ⟨fault, refuses, told⟩
    · rw [told]
      exact .waits .leaves (.inl ready_)
    · rw [told]
      exact .ends (.failed (.unwritten (.inr ⟨_, refuses⟩)) (.refl n s)) (.inr rfl)

/-- A shutdown whose request has failed hard fails in the same way. -/
theorem conclude_beaten (n : Nat) {failure : Failure} (beaten : Beaten s drained failure) :
    Comes n drained s ready (s.conclude .shutdown n (.error failure)) := by
  simp only [conclude, proceed, beaten.hard, Bool.false_eq_true, if_false]
  exact .ends (.failed beaten (spares_conclude n s)) (.inr rfl)

/-- **A shutdown whose request is over** goes on to say `exit`, or fails. -/
theorem conclude_comes (n : Nat) (s : Session) {o : Outcome} (h : ready ∨ s.closed = true)
    (fails : ∀ failure, o = .error failure →
      isTolerated failure = true ∨ Beaten s drained failure) :
    Comes n drained s ready (s.conclude .shutdown n o) := by
  have spares := spares_conclude n s
  cases o with
  | ok result => exact (exit_comes n (s.act (.conclude n)) h).of_spares spares rfl
  | error failure =>
    rcases fails failure rfl with soft | beaten
    · simp only [conclude, proceed, soft, if_true]
      generalize "Shutdown request failed: " ++ failure.message = text
      have warned := spares.trans (spares_warn n _ text)
      have closed : ((s.act (.conclude n)).warn text).closed = s.closed := by
        rw [Session.closed, warned.ending, Session.closed]
      exact (exit_comes n _ (closed ▸ h)).of_spares warned (exits_warn _ text)
    · exact conclude_beaten n beaten

/-- What a shutdown does once its request is written. -/
theorem asks_afterRequest (n : Nat) (method : String) {limit : Option Limit}
    (finite : ∀ x, limit = some x → x.isTime = true) :
    Stage.Asks n (.writing (afterRequest .shutdown n method limit)) := by
  unfold afterRequest
  split
  · exact .wait
  · split
    · exact .check rfl
    · exact .wait
  · cases finite _ rfl
  · cases finite _ rfl

/-- **How a shutdown begins**: it asks, unless the session has ended. -/
theorem begin_comes {patience : Patience} (finite : ∀ x, s.limitOf patience = some x → x.isTime) :
    Comes s.nextId drained s ready (s.begin (.shutdown patience)) := by
  unfold begin
  simp only
  split
  · exact close_comes _ s
  · rename_i alive
    have live : s.ending = none := by simpa [Session.closed] using alive
    unfold request
    simp only [refuse, live]
    split
    · rename_i sent
      obtain ⟨_, _, rfl⟩ := send_ok sent
      refine .waits (.asks (asks_afterRequest _ _ ?_)) (.inr ?_)
      · cases patience <;> exact finite
      · have plain : isExit (requestMessage s.nextId "shutdown" .null) = false := rfl
        simp [exits, act, plain]
    · rename_i fault refuses
      rw [unwritten_afterRequest]
      refine (conclude_beaten s.nextId (.unwritten (.inr ⟨_, refuses⟩))).of_spares ?_ rfl
      exact ⟨rfl, rfl, live.symm, fun e he _ => List.mem_append_left _ he⟩

/-- Giving the request up tells the server of it, or ends like a request that failed. -/
theorem giveUp_comes (n : Nat) (s : Session) {failure : Failure}
    (soft : isTolerated failure = true) :
    Comes n drained s ready (s.giveUp .shutdown n failure) := by
  have spares := spares_forget n s
  unfold giveUp
  simp only
  cases ending : s.ending with
  | none =>
    have live : (s.forget n).ending = none := ending
    rcases tell_of_alive live "$/cancelRequest" (.obj [("id", .int n)]) (.fail .shutdown n failure)
      with told | ⟨fault, refuses, told⟩
    · have plain : isExit (notification "$/cancelRequest" (.obj [("id", .int n)])) = false := rfl
      rw [told]
      refine .waits (.asks (.fail soft)) (.inr ?_)
      simp [exits, act, plain, forget]
    · rw [told]
      exact (conclude_beaten n (.unwritten (.inr ⟨_, refuses⟩))).of_spares spares rfl
  | some x =>
    have past : (s.forget n).tell "$/cancelRequest" (.obj [("id", .int n)])
        (.fail .shutdown n failure) = .error x.failure :=
      (refuses_of_ended (s := s.forget n) ending).told _ _ _
    have closed : (s.forget n).closed = true := by simp [Session.closed, forget, ending]
    rw [past]
    refine (conclude_comes n _ (.inr closed) fun other same => ?_).of_spares spares rfl
    cases same
    cases x with
    | closed => exact .inl rfl
    | lost cause => exact .inr (.lost ending)

/-- **How a shutdown goes on.** It says `exit` in the move in which its request ends, and in no
other. -/
theorem resume_comes (truthful : s.Truthful) {stage : Stage} (h : Retiring n s stage) :
    Comes n drained s (∃ o, s.answer? stage = some (n, o)) (s.resume stage) := by
  have answered (stage : Stage) {otherwise : Session × Progress}
      (known : s.answer? stage = (s.outcome? n).map (n, ·))
      (waits : Comes n drained s (∃ o, s.answer? stage = some (n, o)) otherwise) :
      Comes n drained s (∃ o, s.answer? stage = some (n, o))
        (s.concludeOr .shutdown n otherwise) := by
    unfold concludeOr
    split
    · rename_i o found
      have ready : ∃ o, s.answer? stage = some (n, o) := ⟨o, by rw [known, found]; rfl⟩
      exact conclude_comes n s (.inl ready) fun failure => truthful.outcome? found
    · exact waits
  have expires {failure : Failure} (soft : isTolerated failure = true) {ready : Prop} :
      Comes n drained s ready (s.expire .shutdown n failure) :=
    .waits (.asks (.expiring soft)) (.inr rfl)
  cases h with
  | asks asks =>
    cases asks with
    | @wait method limit =>
      cases limit with
      | none => exact answered _ rfl (.waits (.asks .awaiting) (.inr rfl))
      | some x => exact .waits (.asks .awaiting) (.inr rfl)
    | check soft => exact answered _ rfl (expires soft)
    | @fail failure soft =>
      have ready : ∃ o, s.answer? (.writing (.fail .shutdown n failure)) = some (n, o) := ⟨_, rfl⟩
      refine conclude_comes n s (o := .error failure) (.inl ready) fun other same => ?_
      cases same
      exact .inl soft
    | @awaiting method limit =>
      cases limit with
      | none => exact answered _ rfl (.waits (.asks .awaiting) (.inr rfl))
      | some x => exact answered _ rfl (expires rfl)
    | expiring soft => exact giveUp_comes n s soft
  | leaves => exact close_comes n s
  | closes released => exact release_comes released rfl _
  | releases released => exact .ends (.released released) (.inr rfl)

/-- A shutdown whose message was not taken fails. -/
theorem unwritten_comes {after : After} (h : Retiring n s (.writing after)) {fault : WriteFault}
    (met : drained fault) : Comes n drained s ready (s.unwritten fault.failure after) := by
  have beaten : Beaten s drained fault.failure := .unwritten (.inl met)
  cases h with
  | asks asks =>
    cases asks with
    | wait => exact conclude_beaten n beaten
    | check => exact conclude_beaten n beaten
    | fail => exact conclude_beaten n beaten
  | leaves => exact .ends (.failed beaten (.refl n s)) (.inr rfl)

/-- A shutdown whose time is over still waits for the end of its request. -/
theorem resume_expiring {stage : Stage} (h : Retiring n s stage) {goal : Goal} {id : Nat}
    {failure : Failure} (resumed : s.resume stage = (s', .waiting (.expiring goal id failure))) :
    goal = .shutdown ∧ id = n ∧ isTolerated failure = true ∧ Spares n s s' ∧
      s'.exits = s.exits := by
  obtain ⟨rfl, ⟨rfl⟩ | ⟨method, x, rfl, rfl⟩⟩ := expiring_of_resume resumed
  · cases h with
    | asks asks =>
      cases asks with
      | check soft => exact ⟨rfl, rfl, soft, spares_expire n s, rfl⟩
  · cases h with
    | asks asks =>
      cases asks with
      | awaiting => exact ⟨rfl, rfl, rfl, spares_expire n s, rfl⟩

end Session

open Session

theorem Moves.truthful {s : Session} {own : Option Nat} {r : Session × Progress}
    (h : Moves s own r) (truthful : s.Truthful) : r.1.Truthful := by
  induction h with
  | rest _ => exact truthful
  | act a _ _ ih => exact ih (truthful.act a)

namespace Traffic

/-! ## Runs -/

/-- A call ends with the last event of a run, and with an outcome. -/
inductive Ends (task : Nat) : Traffic → List Event → Outcome → Prop
  | now {t : Traffic} {e : Event} {o : Outcome} (idle : (t.step e).stage task = none)
      (outcome : (t.step e).finished = t.finished ++ [(task, o)]) : Ends task t [e] o
  | later {t : Traffic} {e : Event} {rest : List Event} {o : Outcome}
      (waits : (t.step e).stage task ≠ none) (more : Ends task (t.step e) rest o) :
      Ends task t (e :: rest) o

/-- A shutdown with the request `n` says `exit` in an event only if that ends its request. -/
def Discreet (t : Traffic) (task n : Nat) (e : Event) : Prop :=
  ∀ r, t.move? e = some (task, r) → r.1.exits ≠ t.session.exits → ∃ o, t.answer? e = some (n, o)

variable {t : Traffic} {e : Event} {task n : Nat}

/-- The faults that a message of a call meets in an event, after the stream had taken it at
first. -/
def Drains (task : Nat) (e : Event) (fault : WriteFault) : Prop := e = .unwritten task fault

theorem truthful_step (h : t.session.Truthful) (e : Event) : (t.step e).session.Truthful :=
  session_step t e (fun moves => moves.truthful h) (h.absorb e)

theorem truthful_run (h : t.session.Truthful) (events : List Event) :
    (t.run events).session.Truthful :=
  session_run (fun moves h => moves.truthful h) (fun h => h.absorb) h events

/-- What an event of a shutdown comes to. -/
theorem comes_of_move (truthful : t.session.Truthful) {stage : Stage}
    (hs : t.stage task = some stage) (h : Retiring n t.session stage) {r : Session × Progress}
    (hm : t.move? e = some (task, r)) :
    Comes n (Drains task e) t.session (∃ o, t.answer? e = some (n, o)) r := by
  rcases task_of_move? hm with ⟨c, rfl, idle⟩ | rfl | rfl | ⟨fault, rfl⟩
  · rw [hs] at idle
    cases idle
  · rw [move?, hs] at hm
    cases hm
    rw [answer?, hs]
    exact resume_comes truthful h
  · simp only [move?, hs, Option.bind_some] at hm
    split at hm
    · rename_i s' goal id failure resumed
      cases hm
      obtain ⟨rfl, rfl, soft, spares, exits⟩ := resume_expiring h resumed
      exact (giveUp_comes _ _ soft).of_spares spares exits
    · cases hm
  · simp only [move?, hs] at hm
    split at hm
    · rename_i after same
      cases hm
      cases same
      exact unwritten_comes h rfl
    · cases hm

/-- What has been released stays so. -/
theorem released_step (sound : t.session.Sound) (h : t.session.Released) (e : Event) :
    (t.step e).session.Released := by
  have closed := closed_step h.closed e
  have later := table_step sound e
  exact ⟨closed, later.closed closed, later.ended (later.closed closed)⟩

theorem retiring_step (sound : t.session.Sound) {stage : Stage} (h : Retiring n t.session stage)
    (e : Event) : Retiring n (t.step e).session stage := by
  cases h with
  | asks asks => exact .asks asks
  | leaves => exact .leaves
  | closes released => exact .closes (released_step sound released e)
  | releases released => exact .releases (released_step sound released e)

/-- Where a shutdown with the request `n` is after an event: it waits, or it has ended with the
event. -/
inductive Stands (task n : Nat) (t : Traffic) (e : Event) : Prop
  | waits {stage : Stage} (waits : (t.step e).stage task = some stage)
      (retiring : Retiring n (t.step e).session stage)
  | ends {o : Outcome} (idle : (t.step e).stage task = none)
      (outcome : (t.step e).finished = t.finished ++ [(task, o)])
      (retired : Retired n (Drains task e) t.session (t.step e).session o)

theorem stands_of_comes {r : Session × Progress} (hm : t.move? e = some (task, r))
    (h : Comes n (Drains task e) t.session (∃ o, t.answer? e = some (n, o)) r) :
    t.Discreet task n e ∧ Stands task n t e := by
  have discreet {s' : Session}
      (spoken : (∃ o, t.answer? e = some (n, o)) ∨ s'.exits = t.session.exits) {p : Progress}
      (made : t.move? e = some (task, (s', p))) : t.Discreet task n e := by
    intro r' hm' said
    rw [made] at hm'
    cases hm'
    exact spoken.resolve_right said
  have left := step_of_move hm
  cases h with
  | @waits s' stage retiring spoken =>
    have still : (t.step e).stage task = some stage := by
      rw [left]
      exact if_pos rfl
    exact ⟨discreet spoken hm, .waits still (by rw [left]; exact retiring)⟩
  | ends retired spoken =>
    have idle : (t.step e).stage task = none := by
      rw [left]
      exact if_pos rfl
    exact ⟨discreet spoken hm, .ends idle (by rw [left]; rfl) (by rw [left]; exact retired)⟩

/-- **Every event leaves a shutdown waiting or ends it.** -/
theorem stands_step (sound : t.session.Sound) (truthful : t.session.Truthful) {stage : Stage}
    (hs : t.stage task = some stage) (h : Retiring n t.session stage) (e : Event) :
    t.Discreet task n e ∧ Stands task n t e := by
  have kept := retiring_step sound h e
  cases hm : t.move? e with
  | none =>
    have still : (t.step e).stage task = some stage := by
      rw [step_of_none hm]
      exact hs
    refine ⟨fun r made => ?_, .waits still kept⟩
    rw [hm] at made
    cases made
  | some m =>
    obtain ⟨k, r⟩ := m
    by_cases mine : k = task
    · subst mine
      exact stands_of_comes hm (comes_of_move truthful hs h hm)
    · refine ⟨fun r' made => ?_, .waits ((stage_of_other hm mine).trans hs) kept⟩
      rw [hm] at made
      cases made
      exact absurd rfl mine

/-- What comes of a shutdown with the request `n` in a run that ends with it. -/
structure Retires (t : Traffic) (task n : Nat) (events : List Event) (o : Outcome) : Prop where
  /-- The last event ends it in one of three ways. -/
  ends : ∃ before last, events = before ++ [last] ∧
    Retired n (Drains task last) (t.run before).session (t.run events).session o
  /-- No event says `exit` for it but the one that ends its request. -/
  discreet : ∀ before e after, events = before ++ e :: after → (t.run before).Discreet task n e

theorem Retires.last {o : Outcome} (discreet : t.Discreet task n e)
    (retired : Retired n (Drains task e) t.session (t.step e).session o) :
    t.Retires task n [e] o := by
  refine ⟨⟨[], e, rfl, retired⟩, fun before e' after split => ?_⟩
  cases before with
  | nil =>
    cases split
    exact discreet
  | cons first more => cases more <;> cases split

theorem Retires.cons {rest : List Event} {o : Outcome} (discreet : t.Discreet task n e)
    (h : (t.step e).Retires task n rest o) : t.Retires task n (e :: rest) o := by
  obtain ⟨before, last, split, retired⟩ := h.ends
  refine ⟨⟨e :: before, last, by rw [split]; rfl, retired⟩, fun before e' after split => ?_⟩
  cases before with
  | nil =>
    cases split
    exact discreet
  | cons first more =>
    obtain ⟨same, there⟩ := List.cons.inj split
    subst same
    exact h.discreet more e' after there

/-- From where an event leaves it, a shutdown comes to its end. -/
theorem retires_of_stands (sound : t.Sound) (truthful : t.session.Truthful) {events : List Event}
    {o : Outcome} (ends : Ends task t events o)
    (h : ∀ e rest, events = e :: rest → t.Discreet task n e ∧ Stands task n t e) :
    t.Retires task n events o := by
  induction ends with
  | @now t e o idle outcome =>
    obtain ⟨discreet, stands⟩ := h e [] rfl
    cases stands with
    | waits still retiring =>
      rw [idle] at still
      cases still
    | ends idle' outcome' retired =>
      have same := List.append_cancel_left (outcome.symm.trans outcome')
      cases same
      exact .last discreet retired
  | @later t e rest o waits more ih =>
    obtain ⟨discreet, stands⟩ := h e rest rfl
    have sound' := sound_step sound e
    have truthful' := truthful_step truthful e
    cases stands with
    | ends idle outcome retired => exact absurd idle waits
    | waits still retiring =>
      refine .cons discreet (ih sound' truthful' fun e' rest' _ => ?_)
      exact stands_step sound'.session truthful' still retiring e'

/-- **How a shutdown ends**, on a session in any state that a run reaches and whatever the server,
the stream, the clock and the other calls do: it has released everything, or it has failed because
the connection is lost or a message was not taken, and has released nothing. It says `exit` in the
event that ends its request, and in no other. -/
theorem shutdown_retires {t : Traffic} (started : t.Started) {before : List Event} {task : Nat}
    (idle : (t.run before).stage task = none) {patience : Patience}
    (finite : ∀ x, (t.run before).session.limitOf patience = some x → x.isTime)
    {rest : List Event} {o : Outcome}
    (ends : Ends task (t.run before) (.call task (.shutdown patience) :: rest) o) :
    (t.run before).Retires task (t.run before).session.nextId
      (.call task (.shutdown patience) :: rest) o := by
  have sound := sound_run started.sound before
  have truthful : t.session.Truthful := fun id failure there => by
    rw [started.outcomes] at there
    cases there
  refine retires_of_stands sound (truthful_run truthful before) ends fun e rest' same => ?_
  cases same
  have hm : (t.run before).move? (.call task (.shutdown patience)) =
      some (task, (t.run before).session.begin (.shutdown patience)) := by
    rw [move?, idle]
  exact stands_of_comes hm (begin_comes finite)

/-- The server refuses to shut down, while another request is open. -/
theorem shutdown_retires_refused :
    let t : Traffic := { session := { reader := .waiting } }
    let before := [Event.call 1 (.request "first" .null .inherited)]
    let rest := [Event.receive [("id", .int 2), ("error", .str "busy")], .goOn 2, .goOn 2, .goOn 2,
      .quit, .goOn 2]
    let events := Event.call 2 (.shutdown .inherited) :: rest
    (t.run before).Retires 2 2 events (.ok .null) ∧
      (t.run (before ++ events)).session.exits = 1 ∧
      (t.run (before ++ events)).session.pending = [] := by
  intro t before rest events
  have started : t.Started := ⟨rfl, rfl, rfl, rfl, rfl, rfl, fun _ => rfl, rfl⟩
  have waits {t : Traffic} (h : (t.stage 2).isSome = true) : t.stage 2 ≠ none :=
    Option.isSome_iff_ne_none.mp h
  have ends : Ends 2 (t.run before) events (.ok .null) :=
    .later (waits (by decide)) <| .later (waits (by decide)) <| .later (waits (by decide)) <|
      .later (waits (by decide)) <| .later (waits (by decide)) <| .later (waits (by decide)) <|
        .now (Option.isNone_iff_eq_none.mp (by decide)) (by dsimp only [t, before, step]; rfl)
  have finite : ∀ x, (t.run before).session.limitOf .inherited = some x → x.isTime := by
    intro x limited
    cases limited
  exact ⟨shutdown_retires started rfl finite ends, by decide, by decide⟩

/-- **A shutdown that finds the server gone releases nothing**: here the stream stays open, the
session has not ended, and another request is still pending. -/
theorem not_released_when_gone :
    ¬ ∀ (t : Traffic) (before rest : List Event) (task : Nat) (patience : Patience) (o : Outcome),
      t.Started → (t.run before).stage task = none →
        (∀ x, (t.run before).session.limitOf patience = some x → x.isTime) →
          Ends task (t.run before) (.call task (.shutdown patience) :: rest) o →
            (t.run (before ++ .call task (.shutdown patience) :: rest)).session.Released := by
  intro released
  let t : Traffic := { session := { reader := .waiting } }
  let before := [Event.call 1 (.request "first" .null .inherited), .goOn 1, .breaks pipeGone]
  have started : t.Started := ⟨rfl, rfl, rfl, rfl, rfl, rfl, fun _ => rfl, rfl⟩
  have ends : Ends 2 (t.run before) [.call 2 (.shutdown .inherited)]
      (.error (goneFailure pipeGone.text)) := .now rfl rfl
  have closed := (released t before [] 2 .inherited _ started rfl nofun ends).closed
  cases closed

end Traffic

end ProbeBench
