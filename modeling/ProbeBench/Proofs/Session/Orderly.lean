import ProbeBench.Proofs.Session.Ending

/-!
# Order in every run

In every state that a started session reaches, whatever its calls, the server and the clocks do, and
in whatever order:

* ids are given one after the other and never twice;
* every entry of the table belongs to one call, which still waits for its request;
* the ending is set once; from then on the table is empty, who waited has got the failure, nothing
  is written, and every request and notification fails with it.

The table and its owners are kept by every step (`Traffic.Kept`, `kept_step`, `kept_run`);
`Traffic.orderly_run` puts the results together.
-/

namespace ProbeBench

/-! ## Ids -/

namespace Session

theorem nextId_tell {s : Session} {method : String} {params : Json} {after : After}
    {r : Session × Progress} (h : s.tell method params after = .ok r) :
    r.1.nextId = s.nextId := by
  unfold tell at h
  split at h
  · cases h
  · split at h
    · rename_i sent
      cases h
      obtain ⟨_, _, rfl⟩ := send_ok sent
      rfl
    · cases h

theorem nextId_release (s : Session) (result : Outcome) (fault : Option StreamFault) :
    (s.release result fault).1.nextId = s.nextId := by
  unfold release
  split
  · rfl
  · split
    · rfl
    · exact (cancelReader_same s).nextId

theorem nextId_close (s : Session) (result : Outcome) :
    (s.close result).1.nextId = s.nextId := by
  have shut : s.shut.nextId = s.nextId := by rw [Session.shut, endWith_eq]
  unfold close
  simp only
  split
  · exact (nextId_release _ _ _).trans shut
  · exact shut

theorem nextId_failHandshake (s : Session) (goal : Goal) (failure : Failure) :
    (s.failHandshake goal failure).1.nextId = s.nextId := by
  unfold failHandshake
  split
  · exact nextId_close _ _
  · rfl

theorem nextId_acknowledge (s : Session) (goal : Goal) (result : Json) :
    (s.acknowledge goal result).1.nextId = s.nextId := by
  have adopted := (adopt_same s result).nextId
  unfold acknowledge
  simp only
  split
  · rename_i told
    exact (nextId_tell told).trans adopted
  · exact (nextId_failHandshake _ _ _).trans adopted

theorem nextId_exit (s : Session) : s.exit.1.nextId = s.nextId := by
  unfold exit
  split
  · exact nextId_close _ _
  · split
    · rename_i told
      exact nextId_tell told
    · rfl

theorem nextId_proceed (s : Session) (goal : Goal) (outcome : Outcome) :
    (s.proceed goal outcome).1.nextId = s.nextId := by
  unfold proceed
  split
  · rfl
  · exact nextId_exit s
  · split
    · exact (nextId_exit _).trans (warn_same s _).nextId
    · rfl
  · exact nextId_acknowledge _ _ _
  · exact nextId_failHandshake _ _ _

theorem nextId_conclude (s : Session) (goal : Goal) (id : Nat) (outcome : Outcome) :
    (s.conclude goal id outcome).1.nextId = s.nextId :=
  nextId_proceed _ _ _

theorem nextId_concludeOr (s : Session) (goal : Goal) (id : Nat) {otherwise : Session × Progress}
    (h : otherwise.1.nextId = s.nextId) :
    (s.concludeOr goal id otherwise).1.nextId = s.nextId := by
  unfold concludeOr
  split
  · exact nextId_conclude _ _ _ _
  · exact h

theorem nextId_written (s : Session) (after : After) : (s.written after).1.nextId = s.nextId := by
  unfold written
  split
  · exact nextId_concludeOr s _ _ rfl
  · rfl
  · exact nextId_concludeOr s _ _ rfl
  · exact nextId_conclude _ _ _ _
  · rfl
  · rfl
  · exact nextId_close _ _
  · rfl

theorem nextId_unwritten (s : Session) (failure : Failure) (after : After) :
    (s.unwritten failure after).1.nextId = s.nextId := by
  unfold unwritten
  split
  · exact nextId_conclude _ _ _ _
  · exact nextId_conclude _ _ _ _
  · exact nextId_conclude _ _ _ _
  · exact nextId_failHandshake _ _ _
  · rfl
  · rfl

theorem nextId_giveUp (s : Session) (goal : Goal) (id : Nat) (failure : Failure) :
    (s.giveUp goal id failure).1.nextId = s.nextId := by
  have forgotten : (s.forget id).nextId = s.nextId := rfl
  unfold giveUp
  simp only
  split
  · rename_i told
    exact (nextId_tell told).trans forgotten
  · exact nextId_conclude _ _ _ _

/-- **A call that goes on gets no id.** -/
theorem nextId_resume (s : Session) (stage : Stage) : (s.resume stage).1.nextId = s.nextId := by
  unfold resume
  split
  · exact nextId_written _ _
  · exact nextId_concludeOr s _ _ rfl
  · exact nextId_concludeOr s _ _ rfl
  · exact nextId_giveUp _ _ _ _
  · exact nextId_release _ _ _
  · rfl

theorem nextId_request (s : Session) (goal : Goal) (method : String) (params : Json)
    (patience : Patience) :
    (s.request goal method params patience).1.nextId =
      s.nextId + if s.ending.isNone then 1 else 0 := by
  cases past : s.ending with
  | some ending =>
    simp only [request, refuse, past]
    exact nextId_proceed _ _ _
  | none =>
    simp only [request, refuse, past]
    split
    · rename_i sent
      obtain ⟨_, _, rfl⟩ := send_ok sent
      rfl
    · exact nextId_unwritten _ _ _

/-- **A call that begins gets the next id** if it makes a request on a session that has not
ended. -/
theorem nextId_begin (s : Session) (call : Call) :
    (s.begin call).1.nextId =
      s.nextId + if s.ending.isNone && call.request?.isSome then 1 else 0 := by
  cases call with
  | request method params patience => simp [begin, nextId_request, Call.request?]
  | notify method params =>
    simp only [begin, Call.request?, Option.isSome_none, Bool.and_false]
    split
    · rename_i told
      exact nextId_tell told
    · rfl
  | handshake params => simp [begin, nextId_request, Call.request?]
  | connect params =>
    have same := start_same s
    simp [begin, nextId_request, Call.request?, same.nextId, same.ending]
  | shutdown patience =>
    cases past : s.ending with
    | some ending => simp [begin, Session.closed, past, nextId_close]
    | none => simp [begin, Session.closed, past, nextId_request, Call.request?]
  | close => simp [begin, nextId_close, Call.request?]
  | start => simp [begin, (start_same s).nextId, Call.request?]

end Session

namespace Traffic

/-- The id that an event gives to a request. -/
def given? (t : Traffic) : Event → Option Nat
  | .call task call =>
    if (t.stage task).isNone && (t.session.ending.isNone && call.request?.isSome) then
      some t.session.nextId
    else none
  | _ => none

/-- The ids that a run gives to requests, in order. -/
def givenIn (t : Traffic) : List Event → List Nat
  | [] => []
  | e :: rest => (t.given? e).toList ++ (t.step e).givenIn rest

/-- **An event gives the next id or none.** -/
theorem nextId_step (t : Traffic) (e : Event) :
    (t.given? e).toList = List.range' t.session.nextId (t.given? e).toList.length ∧
      (t.step e).session.nextId = t.session.nextId + (t.given? e).toList.length := by
  have none_given (h : t.given? e = none) (same : (t.step e).session.nextId = t.session.nextId) :
      (t.given? e).toList = List.range' t.session.nextId (t.given? e).toList.length ∧
        (t.step e).session.nextId = t.session.nextId + (t.given? e).toList.length := by
    rw [h, same]
    exact ⟨rfl, rfl⟩
  cases hm : t.move? e with
  | none =>
    refine none_given ?_ (by rw [step_of_none hm]; exact Session.nextId_absorb _ _)
    cases e with
    | call task call =>
      cases hs : t.stage task with
      | none => simp [move?, hs] at hm
      | some stage => simp [given?, hs]
    | _ => rfl
  | some m =>
    rw [step_of_move hm]
    cases e with
    | call task call =>
      cases hs : t.stage task with
      | some stage => simp [move?, hs] at hm
      | none =>
        simp only [move?, hs, Option.some.injEq] at hm
        subst hm
        simp only [given?, hs, Option.isNone_none, Bool.true_and, Session.nextId_begin]
        split <;> exact ⟨rfl, rfl⟩
    | goOn task =>
      obtain ⟨stage, _, rfl⟩ := Option.map_eq_some_iff.mp hm
      exact ⟨rfl, Session.nextId_resume _ _⟩
    | expire task =>
      obtain ⟨stage, _, he⟩ := Option.bind_eq_some_iff.mp hm
      have resumed := Session.nextId_resume t.session stage
      split at he
      · rename_i hr
        cases he
        rw [hr] at resumed
        exact ⟨rfl, (Session.nextId_giveUp _ _ _ _).trans resumed⟩
      · cases he
    | unwritten task fault =>
      simp only [move?] at hm
      split at hm
      · cases hm
        exact ⟨rfl, Session.nextId_unwritten _ _ _⟩
      · cases hm
    | _ => cases hm

/-- **The ids that a run gives** follow one another. -/
theorem givenIn_eq (t : Traffic) (events : List Event) :
    t.givenIn events = List.range' t.session.nextId (t.givenIn events).length ∧
      (t.run events).session.nextId = t.session.nextId + (t.givenIn events).length := by
  induction events generalizing t with
  | nil => exact ⟨rfl, rfl⟩
  | cons e rest ih =>
    obtain ⟨first, next⟩ := t.nextId_step e
    obtain ⟨later, last⟩ := ih (t.step e)
    rw [givenIn, List.length_append, run_cons]
    constructor
    · rw [next] at later
      rw [← List.range'_append_1, ← first, ← later]
    · rw [last, next, Nat.add_assoc]

/-- **An id that is given goes out** with a request, if the stream takes messages. -/
theorem sent_of_given {t : Traffic} (sound : t.Sound)
    (whole : t.session.transport.wire.broken = none) {e : Event} {n : Nat}
    (h : t.given? e = some n) :
    ∃ method params, (t.step e).session.transport.wire.sent =
      t.session.transport.wire.sent ++ [requestMessage n method params] := by
  have written {s : Session} (open_ : s.Open) (goal : Goal) (method : String) (params : Json)
      (patience : Patience) : (s.request goal method params patience).1.transport.wire.sent =
        s.transport.wire.sent ++ [requestMessage s.nextId method params] := by
    rw [Session.request_of_open open_]
    rfl
  cases e with
  | call task call =>
    simp only [given?, Option.ite_none_right_eq_some, Bool.and_eq_true,
      Option.isNone_iff_eq_none, Option.some.injEq] at h
    obtain ⟨⟨idle, alive, asks⟩, rfl⟩ := h
    have hm : t.move? (.call task call) = some (task, t.session.begin call) := by
      rw [move?, idle]
    have open_ : t.session.Open := ⟨alive, sound.session.open_of_alive alive, whole⟩
    rw [step_of_move hm]
    cases call with
    | request method params patience => exact ⟨method, params, written open_ ..⟩
    | handshake params => exact ⟨_, params, written open_ ..⟩
    | connect params =>
      have same : t.session.start.transport = t.session.transport := by
        unfold Session.start
        split <;> rfl
      have started : t.session.start.Open :=
        ⟨(Session.start_same _).ending.trans alive, same ▸ open_.2.1, same ▸ open_.2.2⟩
      refine ⟨"initialize", params, (written started ..).trans ?_⟩
      rw [same, (Session.start_same _).nextId]
    | shutdown patience =>
      have closing : ({ t.session with closing := true } : Session).Open := open_
      refine ⟨"shutdown", .null, Eq.trans ?_ (written closing .shutdown _ _ patience)⟩
      simp only [Session.begin, Session.closed, alive, Option.isSome_none, Bool.false_eq_true,
        if_false]
    | _ => cases asks
  | _ => cases h

/-- **A call that comes to wait for a request** has just been given its id. -/
theorem given_of_own {t : Traffic} {e : Event} {task n : Nat} (fresh : t.own? task ≠ some n)
    (own : (t.step e).own? task = some n) : t.given? e = some n := by
  obtain ⟨new, old⟩ := (own?_step own).resolve_left fresh
  obtain ⟨ids, next⟩ := t.nextId_step e
  cases hg : t.given? e with
  | none =>
    rw [hg] at next
    exact absurd (Nat.lt_of_lt_of_le old (Nat.le_of_eq next)) (Nat.not_lt_of_le new)
  | some id =>
    rw [hg] at ids next
    have first : id = t.session.nextId := by simpa using ids
    have last : (t.step e).session.nextId = t.session.nextId + 1 := next
    congr 1
    omega

/-- A request that a call waits for has got its id before or in the run. -/
theorem own?_run {t : Traffic} {events : List Event} {task n : Nat}
    (h : (t.run events).own? task = some n) :
    t.own? task = some n ∨ t.session.nextId ≤ n ∧ n < (t.run events).session.nextId := by
  induction events generalizing t with
  | nil => exact .inl h
  | cons e rest ih =>
    have grows : (t.step e).session.nextId ≤ ((t.step e).run rest).session.nextId := by
      rw [((t.step e).givenIn_eq rest).2]
      exact Nat.le_add_right _ _
    rcases ih h with before | ⟨new, old⟩
    · refine (own?_step before).imp_right fun ⟨new, old⟩ => ⟨new, Nat.lt_of_lt_of_le old grows⟩
    · exact .inr ⟨Nat.le_trans (t.nextId_step_le e) new, old⟩

/-- A call that waits for a request whose id had been given before the run has waited for it all the
time. -/
theorem own?_of_run {t : Traffic} {events : List Event} {task n : Nat}
    (h : (t.run events).own? task = some n) (old : n < t.session.nextId) :
    t.own? task = some n := by
  rcases own?_run h with before | ⟨new, _⟩
  · exact before
  · exact absurd old (Nat.not_lt_of_le new)

theorem own?_of_step {t : Traffic} {e : Event} {task n : Nat}
    (h : (t.step e).own? task = some n) (old : n < t.session.nextId) : t.own? task = some n :=
  @own?_of_run t [e] task n h old

/-! ## The invariant -/

/-- Whether all events of a run may happen. -/
def possible (t : Traffic) : List Event → Bool
  | [] => true
  | e :: rest => t.session.admits e && (t.step e).possible rest

theorem possible_append (t : Traffic) (events more : List Event) :
    t.possible (events ++ more) = (t.possible events && (t.run events).possible more) := by
  induction events generalizing t with
  | nil => rfl
  | cons e rest ih => rw [List.cons_append, possible, possible, ih, Bool.and_assoc, run_cons]

/-- The table is sound, every entry has a call that waits for its request, and a session that has
ended answers nobody. -/
structure Kept (t : Traffic) : Prop where
  sound : t.Sound
  distinct : t.session.Distinct
  owned : ∀ e ∈ t.session.pending, ∃ task, t.own? task = some e.id
  quiet : t.session.Quiet

theorem Started.kept {t : Traffic} (h : t.Started) : t.Kept where
  sound := h.sound
  distinct := .of_empty h.pending
  owned := fun e he => by
    rw [h.pending] at he
    cases he
  quiet := fun past => absurd h.ending past

/-- **Every entry keeps its call**, whatever happens. -/
theorem owned_step {t : Traffic} (h : ∀ d ∈ t.session.pending, ∃ task, t.own? task = some d.id)
    (e : Event) : ∀ d ∈ (t.step e).session.pending, ∃ task, (t.step e).own? task = some d.id := by
  intro d hd
  cases hm : t.move? e with
  | none =>
    rw [step_of_none hm] at hd ⊢
    exact h d (Session.pending_absorb hd)
  | some m =>
    obtain ⟨task, r⟩ := m
    let others := fun n => ∃ k, k ≠ task ∧ t.own? k = some n
    have before : ∀ d ∈ t.session.pending, t.own? task = some d.id ∨ others d.id := by
      intro d hd
      obtain ⟨k, hk⟩ := h d hd
      by_cases same : k = task
      · exact .inl (same ▸ hk)
      · exact .inr ⟨k, same, hk⟩
    rw [step_of_move hm] at hd
    rcases (moves_of_move? hm).owned before d hd with mine | ⟨k, other, hk⟩
    · exact ⟨task, by rw [own?_of_move hm, if_pos rfl, mine]⟩
    · exact ⟨k, by rw [own?_of_move hm, if_neg other, hk]⟩

/-- **Every event keeps the invariant.** -/
theorem kept_step {t : Traffic} (h : t.Kept) {e : Event} (admits : t.session.admits e) :
    (t.step e).Kept where
  sound := sound_step h.sound e
  distinct :=
    session_step t e (fun moves => moves.distinct h.sound.session h.distinct) (h.distinct.absorb e)
  owned := owned_step h.owned e
  quiet := session_step t e (fun moves => moves.quiet h.quiet) (h.quiet.absorb admits)

theorem kept_run {t : Traffic} (h : t.Kept) {events : List Event} (possible : t.possible events) :
    (t.run events).Kept := by
  induction events generalizing t with
  | nil => exact h
  | cons e rest ih =>
    simp only [Traffic.possible, Bool.and_eq_true] at possible
    exact ih (kept_step h possible.1) possible.2

/-- **The entry of a request goes with its call**: once that has ended the request, no entry has
its id. -/
theorem Kept.released {t : Traffic} {events : List Event} (sound : t.Sound)
    (later : (t.run events).Kept) {task n : Nat} (own : t.own? task = some n)
    (ended : (t.run events).own? task ≠ some n) :
    ∀ e ∈ (t.run events).session.pending, e.id ≠ n := by
  rintro e he rfl
  obtain ⟨k, hk⟩ := later.owned e he
  have before := own?_of_run hk (sound.given task e.id own)
  exact ended (sound.apart k task e.id before own ▸ hk)

/-! ## After the end -/

theorem past_step {t : Traffic} (h : t.Kept) {e : Event} (admits : t.session.admits e)
    (past : t.session.ending ≠ none) :
    (t.step e).session.ending = t.session.ending ∧
      (t.step e).session.transport.wire.sent = t.session.transport.wire.sent :=
  session_step (P := fun s => s.ending = t.session.ending ∧
      s.transport.wire.sent = t.session.transport.wire.sent) t e
    (fun moves => ⟨moves.ending_eq past, moves.sent_eq past⟩)
    ⟨Session.ending_absorb e past, Session.sent_absorb h.quiet admits past⟩

/-- **After a session has ended**, its ending stays and nothing is written. -/
theorem past_run {t : Traffic} (h : t.Kept) {events : List Event} (possible : t.possible events)
    (past : t.session.ending ≠ none) :
    (t.run events).session.ending = t.session.ending ∧
      (t.run events).session.transport.wire.sent = t.session.transport.wire.sent := by
  induction events generalizing t with
  | nil => exact ⟨rfl, rfl⟩
  | cons e rest ih =>
    simp only [Traffic.possible, Bool.and_eq_true] at possible
    obtain ⟨ending, sent⟩ := past_step h possible.1 past
    obtain ⟨ending', sent'⟩ := ih (kept_step h possible.1) possible.2 (ending ▸ past)
    exact ⟨ending'.trans ending, sent'.trans sent⟩

/-- A stream that is closed is not opened again. -/
theorem closed_step {t : Traffic} (closed : t.session.transport.wire.closed = true) (e : Event) :
    (t.step e).session.transport.wire.closed = true :=
  session_step (P := fun s => s.transport.wire.closed = true) t e (fun moves => moves.closed closed)
    (t.session.mute_absorb e closed).1

theorem open_of_run {t : Traffic} {events : List Event}
    (open_ : (t.run events).session.transport.wire.closed = false) :
    t.session.transport.wire.closed = false := by
  induction events generalizing t with
  | nil => exact open_
  | cons e rest ih =>
    have next := ih open_
    cases closed : t.session.transport.wire.closed with
    | false => rfl
    | true =>
      rw [closed_step closed e] at next
      cases next

/-- **The event that ends a session** settles every request that waits, unless its own call has just
ended it. -/
theorem settled_at_end {t : Traffic} (h : t.Kept) {e : Event} {x : Ending}
    (alive : t.session.ending = none) (ends : (t.step e).session.ending = some x) {d : Entry}
    (hd : d ∈ t.session.pending) (live : d.expired = false) {task : Nat}
    (own : t.own? task = some d.id) (still : (t.step e).own? task = some d.id) :
    Session.Settled d.id (.error x.failure) (t.step e).session := by
  have waits := h.distinct.waiting alive hd live
  cases hm : t.move? e with
  | none =>
    rw [step_of_none hm] at ends ⊢
    simp only at ends ⊢
    rcases t.session.absorb_cases e with same | ⟨message, handled⟩ | ⟨s', ending, same, lost⟩
    · rw [same.ending, alive] at ends
      cases ends
    · rw [handled, Session.ending_dispatch, alive] at ends
      cases ends
    · rw [lost] at ends ⊢
      rw [Session.lose, Session.endWith_eq, Session.endReader, same.ending, alive] at ends
      cases ends
      exact ((waits.congr same).lose ending).congr (Session.endReader_same _)
  | some m =>
    obtain ⟨k, r⟩ := m
    have moves := moves_of_move? hm
    rw [own?_of_move hm] at still
    rw [step_of_move hm] at ends ⊢
    rcases moves.ending_cases with same | ⟨_, closed, _, free⟩
    · rw [same, alive] at ends
      cases ends
    · rw [closed] at ends
      cases ends
      by_cases mine : task = k
      · rw [if_pos mine, free] at still
        cases still
      · have other : t.own? k ≠ some d.id := fun hk => mine (h.sound.apart _ _ _ own hk)
        rcases waits.of_moves moves other (h.sound.given task d.id own) with open_ | ⟨settled, _⟩
        · have none_ := open_.alive
          rw [closed] at none_
          cases none_
        · exact settled

/-- What is settled stays so until its call has ended the request. -/
theorem settled_step {t : Traffic} (sound : t.Sound) {e : Event} {n task : Nat} {o : Outcome}
    (h : Session.Settled n o t.session) (old : n < t.session.nextId)
    (still : (t.step e).own? task = some n) : Session.Settled n o (t.step e).session := by
  have own : t.own? task = some n := own?_of_step still old
  cases hm : t.move? e with
  | none =>
    rw [step_of_none hm]
    exact h.absorb e
  | some m =>
    obtain ⟨k, r⟩ := m
    have moves := moves_of_move? hm
    rw [own?_of_move hm] at still
    rw [step_of_move hm]
    by_cases mine : task = k
    · rw [if_pos mine] at still
      exact h.of_any_moves moves old still
    · exact h.of_moves moves (fun hk => mine (sound.apart _ _ _ own hk)) old

theorem settled_run {t : Traffic} (sound : t.Sound) {events : List Event} {n task : Nat}
    {o : Outcome} (h : Session.Settled n o t.session) (old : n < t.session.nextId)
    (still : (t.run events).own? task = some n) :
    Session.Settled n o (t.run events).session := by
  induction events generalizing t with
  | nil => exact h
  | cons e rest ih =>
    have old' := Nat.lt_of_lt_of_le old (t.nextId_step_le e)
    rw [run_cons] at still ⊢
    exact ih (sound_step sound e) (settled_step sound h old (own?_of_run still old')) old' still

end Traffic

/-! ## The result -/

/-- Requests and notifications fail with `x` at once, whatever they are made for. -/
structure Session.Refuses (s : Session) (x : Ending) : Prop where
  request : ∀ method params patience,
    s.begin (.request method params patience) = (s, .finished (.error x.failure))
  notify : ∀ method params, s.begin (.notify method params) = (s, .finished (.error x.failure))
  asked : ∀ goal method params patience,
    s.request goal method params patience = s.proceed goal (.error x.failure)
  told : ∀ method params after, s.tell method params after = .error x.failure

theorem Session.refuses_of_ended {s : Session} {x : Ending} (h : s.ending = some x) :
    s.Refuses x := by
  constructor
  · intro method params patience
    simp [begin, Session.request, refuse, h, proceed]
  · intro method params
    simp [begin, tell, refuse, h]
  · intro goal method params patience
    simp [Session.request, refuse, h]
  · intro method params after
    simp [tell, refuse, h]

/-- What holds after a run `events` from a started session, and after the events that come
`later`. -/
structure Traffic.Orderly (t : Traffic) (events later : List Traffic.Event) : Prop where
  /-- The ids given so far are all numbers from one on, in order. -/
  consecutive : t.givenIn events = List.range' 1 ((t.run events).session.nextId - 1)
  /-- A call that comes to wait for a request has just been given the request's id. -/
  assigned : ∀ e task n, (t.run events).own? task ≠ some n →
    ((t.run events).step e).own? task = some n → (t.run events).given? e = some n
  /-- The id goes out with the request, if the stream takes messages. -/
  sent : ∀ e n, (t.run events).given? e = some n →
    (t.run events).session.transport.wire.broken = none →
      ∃ method params, ((t.run events).step e).session.transport.wire.sent =
        (t.run events).session.transport.wire.sent ++ [requestMessage n method params]
  /-- Every entry has got an id that was given, and its call has not ended the request. -/
  owned : ∀ e ∈ (t.run events).session.pending,
    e.id ∈ t.givenIn events ∧ ∃ task, (t.run events).own? task = some e.id
  /-- Once a call has ended its request, no entry has its id any more. -/
  released : ∀ task n, (t.run events).own? task = some n →
    (t.run (events ++ later)).own? task ≠ some n →
      ∀ e ∈ (t.run (events ++ later)).session.pending, e.id ≠ n
  /-- A session that has ended has an empty table and refuses calls; it keeps its ending, and writes
  nothing more. -/
  ended : ∀ x, (t.run events).session.ending = some x →
    (t.run events).session.pending = [] ∧ (t.run events).session.Refuses x ∧
      (t.run (events ++ later)).session.ending = some x ∧
        (t.run (events ++ later)).session.transport.wire.sent =
          (t.run events).session.transport.wire.sent
  /-- The event that ends it settles every request whose caller has not stopped waiting; that is how
  the request is found by its call. -/
  settled : ∀ e rest x, later = e :: rest → (t.run events).session.ending = none →
    ((t.run events).step e).session.ending = some x →
      ∀ d ∈ (t.run events).session.pending, d.expired = false →
        ∀ task, (t.run (events ++ later)).own? task = some d.id →
          (t.run (events ++ later)).session.outcome? d.id = some (.error x.failure)

/-- **The table of requests and the ending of a session** are in order in every run. -/
theorem Traffic.orderly_run {t : Traffic} (started : t.Started) {events later : List Traffic.Event}
    (possible : t.possible (events ++ later)) : t.Orderly events later := by
  rw [possible_append, Bool.and_eq_true] at possible
  have kept := kept_run started.kept possible.1
  have kept' := kept_run kept possible.2
  obtain ⟨ids, next⟩ := t.givenIn_eq events
  rw [started.nextId] at ids next
  constructor
  · rw [next, Nat.add_sub_cancel_left]
    exact ids
  · intro e task n fresh own
    exact given_of_own fresh own
  · intro e n given whole
    exact sent_of_given kept.sound whole given
  · intro e he
    obtain ⟨task, own⟩ := kept.owned e he
    refine ⟨?_, task, own⟩
    rcases own?_run own with before | ⟨new, old⟩
    · rw [own?, started.stages] at before
      cases before
    · rw [started.nextId] at new
      rw [ids, List.mem_range'_1]
      omega
  · intro task n own ended
    rw [run_append] at ended ⊢
    exact kept'.released kept.sound own ended
  · intro x hx
    have past : (t.run events).session.ending ≠ none := hx ▸ Option.some_ne_none x
    obtain ⟨ending, sent⟩ := past_run kept possible.2 past
    rw [run_append]
    exact ⟨kept.sound.session.ended past, Session.refuses_of_ended hx, ending.trans hx, sent⟩
  · rintro e rest x rfl alive ends d hd live task own
    rw [run_append, run_cons] at own ⊢
    simp only [Traffic.possible, Bool.and_eq_true] at possible
    have old := kept.sound.session.entries d hd
    have old' := Nat.lt_of_lt_of_le old ((t.run events).nextId_step_le e)
    -- the call has waited for the request all the time
    have middle := own?_of_run own old'
    have first : (t.run events).own? task = some d.id := own?_of_step middle old
    have settled := settled_at_end kept alive ends hd live first middle
    exact (settled_run (sound_step kept.sound e) settled old' own).outcome

/-- Two requests are open, one of them not yet taken by the stream, when the server's output ends;
then both calls go on, and a third is refused. -/
theorem Traffic.orderly_at_end :
    let t : Traffic := { session := { reader := .waiting } }
    let events := [Event.call 1 (.request "first" .null .inherited), .goOn 1,
      .receive [("id", .int 7), ("method", .str "ask")],
      .call 2 (.request "second" .null (.given none))]
    let later := [Event.finish, .goOn 2, .goOn 1, .call 3 (.notify "third" .null)]
    t.Orderly events later ∧ t.givenIn events = [1, 2] ∧
      (t.run events).session.pending.map (·.id) = [1, 2] ∧
      (t.run (events ++ later)).session.ending = some (.lost .outputEnded) ∧
      (t.run (events ++ later)).finished.map (·.1) = [2, 1, 3] :=
  ⟨orderly_run ⟨rfl, rfl, rfl, rfl, rfl, rfl, fun _ => rfl, rfl⟩ (by decide), by decide, by decide,
    by decide, by decide⟩

end ProbeBench
