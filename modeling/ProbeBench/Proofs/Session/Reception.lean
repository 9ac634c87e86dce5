import ProbeBench.Proofs.Session.Noise
import ProbeBench.Proofs.Session.Orderly

/-!
# What every message does

A message from the server has one effect and no other. A request of the server is refused, a
notification goes to the listener, and everything else settles the one request that it answers or is
counted as dropped. Which of them it is depends on the members of the message, and for a response on
the table: an entry may be there whose caller has stopped waiting, and then the response is dropped
and the entry goes with it.

* `Session.Effect`: what one message does, with the session that is left.
* `effect_dispatch`: every message has an effect.
* `Session.SameBooks`: what only messages change. Calls leave it as it is (`Moves.books`), and so
  does all else that may happen (`absorb_books`).
* `Traffic.accounted_run`: runs in which messages arrive among calls, clocks and faulty frames.
-/

namespace ProbeBench

/-! ## Kinds of messages -/

/-- The answer that a message asks for, if it is a request of the server. -/
def refusal? (message : Members) : Option Members :=
  match message.get? "method", message.get? "id" with
  | some (.str method), some id => some (refusal id method)
  | _, _ => none

/-- Whether a message is a notification. -/
def isNotice (message : Members) : Bool :=
  match message.get? "method", message.get? "id" with
  | some (.str _), none => true
  | _, _ => false

/-- The messages that the reader handles in a run, in order. -/
def received (events : List Traffic.Event) : List Members :=
  events.filterMap fun
    | .receive message => some message
    | _ => none

theorem received_cons (e : Traffic.Event) (events : List Traffic.Event) :
    received (e :: events) = received [e] ++ received events :=
  List.filterMap_append (l := [e])

namespace Session

/-- What a message does, and that it does nothing else: the session `s` becomes the last
argument. -/
inductive Effect (s : Session) (message : Members) : Session → Prop
  /-- A request of the server is refused with its own id, whatever the id is. -/
  | refused {method : String} {id : Json} (named : message.get? "method" = some (.str method))
      (asks : message.get? "id" = some id) :
      Effect s message
        { s with transport.wire.sent := s.transport.wire.sent ++ [refusal id method] }
  /-- A notification goes to a listener that keeps it. -/
  | noted {method : String} (named : message.get? "method" = some (.str method))
      (tells : message.get? "id" = none) (keeps : s.listener = .collect) :
      Effect s message { s with notified := s.notified ++ [message] }
  /-- A notification goes to a listener that shows what it says. -/
  | shown {method : String} (named : message.get? "method" = some (.str method))
      (tells : message.get? "id" = none) (shows : s.listener = .announce) :
      Effect s message ((Protocol.serverMessage? message).elim s s.warn)
  /-- A response settles the request that it answers, and takes its entry off the table. -/
  | settled {before after : List Entry} {e : Entry} (response : IsResponse message)
      (own : requestId? (message.get? "id") = some (e.id : Int))
      (table : s.pending = before ++ e :: after) (live : e.expired = false) :
      Effect s message
        { s with
          pending := before ++ after
          outcomes := s.outcomes ++ [(e.id, responseOutcome e.method message)]
          wakes := s.wakes ++ [.caller e.id] }
  /-- A response that answers no request that is waited for is counted, and every request that is
  waited for keeps its entry. -/
  | dropped {pending : List Entry} {warnings : List String} (response : IsResponse message)
      (nobody : ∀ e ∈ waiting s.pending, requestId? (message.get? "id") ≠ some (e.id : Int))
      (kept : waiting pending = waiting s.pending) (gone : pending.Sublist s.pending) :
      Effect s message { s with pending, warnings, dropped := s.dropped + 1 }

/-- There is a listener for notifications, and it does not fail. -/
structure Listens (s : Session) : Prop where
  heeds : s.listener ≠ .ignore
  stands : ∀ text, s.listener ≠ .failing text

/-! ## One message -/

/-- Taking the entry of a request off a table in which no id is there twice. -/
theorem forget_of_distinct {s : Session} (distinct : Distinct s) {before after : List Entry}
    {e : Entry} (table : s.pending = before ++ e :: after) :
    (s.forget e.id).pending = before ++ after := by
  have apart := table ▸ distinct.apart
  obtain ⟨-, later, earlier⟩ := List.pairwise_append.mp apart
  have keep (entries : List Entry) (others : ∀ d ∈ entries, d.id ≠ e.id) :
      entries.filter (·.id ≠ e.id) = entries :=
    List.filter_eq_self.mpr fun d hd => by simpa using others d hd
  rw [forget, table, List.filter_append, List.filter_cons_of_neg (by simp),
    keep before fun d hd => earlier d hd e (List.mem_cons_self ..),
    keep after fun d hd => ((List.pairwise_cons.mp later).1 d hd).symm]

/-- The entry that a response finds is the only one with its id. -/
theorem addressee?_eq {s : Session} (distinct : Distinct s) {message : Members} {e d : Entry}
    (found : s.addressee? message = some e) (hd : d ∈ s.pending)
    (own : requestId? (message.get? "id") = some (d.id : Int)) : d = e := by
  rw [addressee?_of_id own, distinct.entryOf? hd] at found
  exact Option.some.inj found

/-- Counting a response takes nothing off the table. -/
theorem drop_eq (s : Session) (id : Option Json) :
    ∃ warnings, s.drop id = { s with warnings, dropped := s.dropped + 1 } := by
  unfold drop warn
  split
  · exact ⟨_, rfl⟩
  · exact ⟨_, rfl⟩

/-- An entry whose caller has stopped waiting may go: those who wait keep theirs. -/
theorem waiting_forget {s : Session} {before after : List Entry} {e : Entry}
    (table : s.pending = before ++ e :: after) (past : e.expired = true) :
    waiting (before ++ after) = waiting s.pending := by
  rw [table, waiting, waiting, List.filter_append, List.filter_append,
    List.filter_cons_of_neg (by simp [past])]

/-- **A response settles one request or is dropped.** -/
theorem effect_respond {s : Session} (distinct : Distinct s) {message : Members}
    (response : IsResponse message) : s.Effect message (s.respond message) := by
  rw [respond_eq]
  cases found : s.addressee? message with
  | none =>
    obtain ⟨warnings, counted⟩ := drop_eq s (message.get? "id")
    refine counted ▸ .dropped response (fun e he own => ?_) rfl (.refl _)
    rw [addressee?_of_id own, distinct.entryOf? (List.mem_filter.mp he).1] at found
    cases found
  | some e =>
    obtain ⟨there, own⟩ := id_of_addressee? found
    obtain ⟨before, after, table⟩ := List.append_of_mem there
    have forgotten := forget_of_distinct distinct table
    simp only
    cases past : e.expired with
    | true =>
      obtain ⟨warnings, counted⟩ := drop_eq (s.forget e.id) (message.get? "id")
      have kept := waiting_forget table past
      have left : (s.forget e.id).drop (message.get? "id") =
          { s with pending := before ++ after, warnings, dropped := s.dropped + 1 } := by
        rw [counted, ← forgotten]
        rfl
      rw [if_pos rfl, left]
      refine .dropped response (fun d hd other => ?_) kept ?_
      · -- the entry that is found is the only one with this id, and nobody waits for it
        obtain ⟨listed, live⟩ := List.mem_filter.mp hd
        rw [addressee?_eq distinct found listed other, past] at live
        cases live
      · rw [table]
        exact (List.sublist_cons_self e after).append_left before
    | false =>
      have left : (s.forget e.id).settle e.id (responseOutcome e.method message) =
          { s with
            pending := before ++ after
            outcomes := s.outcomes ++ [(e.id, responseOutcome e.method message)]
            wakes := s.wakes ++ [.caller e.id] } := by
        rw [← forgotten]
        rfl
      rw [if_neg Bool.false_ne_true, left]
      exact .settled response own table past

/-- **Every message has an effect**, and none stops the reader. -/
theorem effect_dispatch {s : Session} (distinct : Distinct s)
    (open_ : s.transport.wire.closed = false) (whole : s.transport.wire.broken = none)
    (listens : s.Listens) (message : Members) :
    s.Effect message (s.dispatch message).1 ∧ (s.dispatch message).2 = none := by
  unfold dispatch
  split
  · rename_i method named
    cases asks : message.get? "id" with
    | some id =>
      rw [handle_of_id whole asks, open_, if_neg Bool.false_ne_true]
      exact ⟨.refused named asks, rfl⟩
    | none =>
      unfold handle
      simp only [asks]
      split
      · rename_i keeps
        exact ⟨.noted named asks keeps, rfl⟩
      · rename_i ignores
        exact absurd ignores listens.heeds
      · rename_i shows
        have effect := Effect.shown named asks shows
        split
        · rename_i text said
          rw [said] at effect
          exact ⟨effect, rfl⟩
        · rename_i said
          rw [said] at effect
          exact ⟨effect, rfl⟩
      · rename_i text fails
        exact absurd fails (listens.stands text)
  · rename_i response
    exact ⟨effect_respond distinct fun method named => response method named, rfl⟩

/-! ## What only messages change -/

/-- The refusals among the messages that have been written. -/
def refusals (s : Session) : List Members := s.transport.wire.sent.filter isRefusal

/-- Nothing has come of messages, and there is the same listener. -/
structure SameBooks (s s' : Session) : Prop where
  refusals : s'.refusals = s.refusals
  notified : s'.notified = s.notified
  dropped : s'.dropped = s.dropped
  listener : s'.listener = s.listener

theorem SameBooks.refl (s : Session) : SameBooks s s := ⟨rfl, rfl, rfl, rfl⟩

theorem SameBooks.trans {s t u : Session} (h : SameBooks s t) (h' : SameBooks t u) :
    SameBooks s u :=
  ⟨h'.refusals.trans h.refusals, h'.notified.trans h.notified, h'.dropped.trans h.dropped,
    h'.listener.trans h.listener⟩

theorem warn_books (s : Session) (text : String) : SameBooks s (s.warn text) := by
  unfold warn
  split
  · exact ⟨rfl, rfl, rfl, rfl⟩
  · exact .refl s

/-- What calls write refuses nothing. -/
theorem act_books {s : Session} {own : Option Nat} {a : Act} (allowed : a.Allowed s own) :
    SameBooks s (s.act a) := by
  cases a with
  | write message =>
    have plain : isRefusal message = false := by
      cases allowed.2 with
      | asks id method params => exact (isRefusal_of_call id method params).1
      | tells method params => exact (isRefusal_of_call 0 method params).2
    refine ⟨?_, rfl, rfl, rfl⟩
    rw [refusals, act, List.filter_append, List.filter_cons_of_neg (by simp [plain])]
    exact List.append_nil _
  | warn text => exact warn_books s text
  | adopt result =>
    simp only [act, adopt]
    split
    · exact ⟨rfl, rfl, rfl, rfl⟩
    · exact .refl s
  | start =>
    simp only [act, start]
    split
    · exact ⟨rfl, rfl, rfl, rfl⟩
    · exact .refl s
  | cancelReader =>
    simp only [act, cancelReader]
    split
    · exact ⟨rfl, rfl, rfl, rfl⟩
    · exact ⟨rfl, rfl, rfl, rfl⟩
    · exact .refl s
  | close =>
    simp only [act, shut, endWith_eq]
    refine ⟨?_, rfl, rfl, rfl⟩
    rw [refusals, Wire.sent_close, refusals]
  | _ => exact ⟨rfl, rfl, rfl, rfl⟩

theorem lose_books (s : Session) (ending : Ending) : SameBooks s (s.lose ending).endReader := by
  rw [lose, endWith_eq]
  exact ⟨rfl, rfl, rfl, rfl⟩

/-- **Whatever happens to the reader** but a message leaves the books as they are. -/
theorem absorb_books {s : Session} {e : Traffic.Event} (h : ∀ message, e ≠ .receive message) :
    SameBooks s (s.absorb e) := by
  cases e with
  | receive message => exact absurd rfl (h message)
  | garbled fault =>
    have counted : SameBooks s { s with frameFaults := s.frameFaults + 1 } := ⟨rfl, rfl, rfl, rfl⟩
    exact counted.trans (warn_books _ _)
  | finish => exact lose_books s _
  | fail fault => exact lose_books s _
  | _ => exact ⟨rfl, rfl, rfl, rfl⟩

/-! ## Accounts -/

/-- The books of two sessions, between which the reader has handled `messages` and responses have
settled the requests `settled`. -/
structure Booked (s s' : Session) (messages : List Members) (settled : List Nat) : Prop where
  /-- Every request of the server is refused, in the order in which they arrive. -/
  refusals : s'.refusals = s.refusals ++ messages.filterMap refusal?
  /-- Every notification is passed on, in the order in which they arrive. -/
  notified : s.listener = .collect → s'.notified = s.notified ++ messages.filter isNotice
  listener : s'.listener = s.listener
  /-- No message is forgotten, and none is counted twice. -/
  total : s.dropped + messages.length =
    (messages.filterMap refusal?).length + (messages.filter isNotice).length + settled.length +
      s'.dropped

theorem Booked.of_same {s s' : Session} (h : SameBooks s s') : Booked s s' [] [] where
  refusals := h.refusals.trans (List.append_nil _).symm
  notified := fun _ => h.notified.trans (List.append_nil _).symm
  listener := h.listener
  total := by simp [h.dropped]

theorem Booked.trans {s t u : Session} {messages messages' : List Members}
    {settled settled' : List Nat} (h : Booked s t messages settled)
    (h' : Booked t u messages' settled') :
    Booked s u (messages ++ messages') (settled ++ settled') where
  refusals := by rw [h'.refusals, h.refusals, List.filterMap_append, List.append_assoc]
  notified := fun keeps => by
    rw [h'.notified (h.listener.trans keeps), h.notified keeps, List.filter_append,
      List.append_assoc]
  listener := h'.listener.trans h.listener
  total := by
    have first := h.total
    have second := h'.total
    simp only [List.length_append, List.filterMap_append, List.filter_append]
    omega

/-- The requests that have got an outcome since. -/
def settledSince (s s' : Session) : List Nat :=
  (s'.outcomes.drop s.outcomes.length).map (·.1)

theorem settledSince_same {s s' : Session} (same : s'.outcomes = s.outcomes) :
    s.settledSince s' = [] := by
  rw [settledSince, same, List.drop_length, List.map_nil]

/-- A request of the server asks for its refusal. -/
theorem kind_of_id {message : Members} {method : String} {id : Json}
    (named : message.get? "method" = some (.str method)) (asks : message.get? "id" = some id) :
    refusal? message = some (refusal id method) ∧ isNotice message = false := by
  simp only [refusal?, isNotice, named, asks, and_self]

theorem kind_of_no_id {message : Members} {method : String}
    (named : message.get? "method" = some (.str method)) (tells : message.get? "id" = none) :
    refusal? message = none ∧ isNotice message = true := by
  simp only [refusal?, isNotice, named, tells, and_self]

theorem kind_of_response {message : Members} (response : IsResponse message) :
    refusal? message = none ∧ isNotice message = false := by
  unfold refusal? isNotice
  constructor
  · split
    · rename_i method _ named _
      exact absurd named (response method)
    · rfl
  · split
    · rename_i method named _
      exact absurd named (response method)
    · rfl

/-- **One effect is one entry in the books.** -/
theorem Effect.booked {s s' : Session} {message : Members} (h : s.Effect message s') :
    Booked s s' [message] (s.settledSince s') := by
  cases h with
  | refused named asks =>
    obtain ⟨refuses, plain⟩ := kind_of_id named asks
    refine ⟨?_, fun _ => ?_, rfl, ?_⟩
    · simp [Session.refusals, refuses, isRefusal_refusal]
    · simp [plain]
    · simp [refuses, plain, settledSince]
      omega
  | noted named tells keeps =>
    obtain ⟨plain, notice⟩ := kind_of_no_id named tells
    refine ⟨?_, fun _ => ?_, rfl, ?_⟩
    · simp [Session.refusals, plain]
    · simp [notice]
    · simp [plain, notice, settledSince]
      omega
  | shown named tells shows =>
    obtain ⟨plain, notice⟩ := kind_of_no_id named tells
    have same : SameBooks s ((Protocol.serverMessage? message).elim s s.warn) ∧
        ((Protocol.serverMessage? message).elim s s.warn).outcomes = s.outcomes := by
      cases Protocol.serverMessage? message with
      | none => exact ⟨.refl s, rfl⟩
      | some text => exact ⟨warn_books s text, (warn_same s text).outcomes⟩
    rw [settledSince_same same.2]
    refine ⟨?_, fun keeps => ?_, same.1.listener, ?_⟩
    · simp [same.1.refusals, plain]
    · rw [shows] at keeps
      cases keeps
    · simp [same.1.dropped, plain, notice]
      omega
  | settled response own table live =>
    obtain ⟨plain, plain'⟩ := kind_of_response response
    refine ⟨?_, fun _ => ?_, rfl, ?_⟩
    · simp [Session.refusals, plain]
    · simp [plain']
    · simp [plain, plain', settledSince]
      omega
  | dropped response nobody kept gone =>
    obtain ⟨plain, plain'⟩ := kind_of_response response
    refine ⟨?_, fun _ => ?_, rfl, ?_⟩
    · simp [Session.refusals, plain]
    · simp [plain']
    · simp [plain, plain', settledSince]

end Session

open Session

/-- A call leaves the books as they are. -/
theorem Moves.books {s : Session} {own : Option Nat} {r : Session × Progress}
    (h : Moves s own r) : SameBooks s r.1 := by
  induction h with
  | rest _ => exact .refl _
  | act a allowed _ ih => exact (act_books allowed).trans ih

/-! ## Runs -/

namespace Traffic

/-- The requests that an event settles with a response. -/
def settles (t : Traffic) : Event → List Nat
  | .receive message => t.session.settledSince (t.step (.receive message)).session
  | _ => []

/-- The requests that responses settle in a run, in order. -/
def settledIn (t : Traffic) : List Event → List Nat
  | [] => []
  | e :: rest => t.settles e ++ (t.step e).settledIn rest

/-- A session on which messages are handled: the table is in order, what is written is taken, and
the listener hears. -/
structure Receptive (t : Traffic) : Prop where
  kept : t.Kept
  whole : t.session.transport.wire.broken = none
  listens : t.session.Listens

variable {t : Traffic} {e : Event}

/-- What a message does to a receptive session. -/
theorem Receptive.effect (h : t.Receptive) (open_ : t.session.transport.wire.closed = false)
    (message : Members) : t.session.Effect message (t.step (.receive message)).session := by
  obtain ⟨effect, handled⟩ := effect_dispatch h.kept.distinct open_ h.whole h.listens message
  rw [step_of_none rfl]
  simp only [absorb_of_handled handled]
  exact effect

/-- **Every event is booked**: a message with its effect, and all else with none. -/
theorem Receptive.booked (h : t.Receptive) (open_ : t.session.transport.wire.closed = false)
    (e : Event) : Booked t.session (t.step e).session (received [e]) (t.settles e) := by
  cases hm : t.move? e with
  | some m =>
    obtain ⟨task, r⟩ := m
    have same : SameBooks t.session (t.step e).session := by
      rw [step_of_move hm]
      exact (moves_of_move? hm).books
    cases e with
    | receive message => cases hm
    | _ => exact .of_same same
  | none =>
    cases e with
    | receive message => exact (h.effect open_ message).booked
    | _ =>
      rw [step_of_none hm]
      simp only
      exact .of_same (absorb_books (by simp))

theorem Receptive.step (h : t.Receptive) (open_ : t.session.transport.wire.closed = false)
    (admits : t.session.admits e) (unbroken : ∀ fault, e ≠ .breaks fault) :
    (t.step e).Receptive where
  kept := kept_step h.kept admits
  whole := (broken_of_unbroken unbroken).trans h.whole
  listens := by
    have same := (h.booked open_ e).listener
    exact ⟨same ▸ h.listens.heeds, same ▸ h.listens.stands⟩

/-- A session stays receptive while its stream is open. -/
theorem Receptive.run (h : t.Receptive) {events : List Event} (possible : t.possible events)
    (unbroken : ∀ fault, .breaks fault ∉ events)
    (open_ : (t.run events).session.transport.wire.closed = false) :
    (t.run events).Receptive := by
  induction events generalizing t with
  | nil => exact h
  | cons e rest ih =>
    simp only [Traffic.possible, Bool.and_eq_true] at possible
    have whole : ∀ fault, e ≠ .breaks fault := by
      rintro fault rfl
      exact unbroken fault (List.mem_cons_self ..)
    exact ih (h.step (open_of_run open_) possible.1 whole) possible.2
      (fun fault there => unbroken fault (List.mem_cons_of_mem e there)) open_

/-- What messages have come to in a run. -/
structure Accounted (t : Traffic) (events : List Event) : Prop where
  /-- Every message has one effect on the session that it finds. -/
  each : ∀ before message after, events = before ++ .receive message :: after →
    (t.run before).session.Effect message (t.run (before ++ [.receive message])).session
  /-- All messages together. -/
  booked : Booked t.session (t.run events).session (received events) (t.settledIn events)

theorem Receptive.accounted (h : t.Receptive) {events : List Event} (possible : t.possible events)
    (unbroken : ∀ fault, .breaks fault ∉ events)
    (open_ : (t.run events).session.transport.wire.closed = false) : t.Accounted events := by
  induction events generalizing t with
  | nil =>
    refine ⟨fun before message after split => ?_, .of_same (.refl _)⟩
    cases before <;> cases split
  | cons e rest ih =>
    simp only [Traffic.possible, Bool.and_eq_true] at possible
    have now := open_of_run open_
    have whole : ∀ fault, e ≠ .breaks fault := by
      rintro fault rfl
      exact unbroken fault (List.mem_cons_self ..)
    have later := ih (h.step now possible.1 whole) possible.2
      (fun fault there => unbroken fault (List.mem_cons_of_mem e there)) open_
    constructor
    · intro before message after split
      cases before with
      | nil =>
        obtain ⟨rfl, -⟩ := List.cons.inj split
        exact h.effect now message
      | cons first more =>
        obtain ⟨same, there⟩ := List.cons.inj split
        subst same
        exact later.each more message after there
    · rw [received_cons]
      exact (h.booked now e).trans later.booked

/-- **Every message has one effect**, in every run of a session that has been started, whatever
calls, clocks and faulty frames come in between. -/
theorem accounted_run {t : Traffic} (started : t.Started) (listens : t.session.Listens)
    {before events : List Event} (possible : t.possible (before ++ events))
    (unbroken : ∀ fault, .breaks fault ∉ before ++ events)
    (open_ : (t.run (before ++ events)).session.transport.wire.closed = false) :
    (t.run before).Accounted events := by
  have first : t.Receptive := ⟨started.kept, started.whole, listens⟩
  have whole : ∀ fault, .breaks fault ∉ before := fun fault there =>
    unbroken fault (List.mem_append_left events there)
  rw [possible_append, Bool.and_eq_true] at possible
  rw [run_append] at open_
  exact (first.run possible.1 whole (open_of_run open_)).accounted possible.2
    (fun fault there => unbroken fault (List.mem_append_right before there)) open_

/-- A request of the server has the id of a request that waits, which is answered next; the other
request runs out of time before its response comes, and one response comes twice. -/
theorem accounted_in_between :
    let t : Traffic := { session := { reader := .waiting } }
    let before := [Event.call 1 (.request "first" .null (.given (some (.overdue .tooLarge)))),
      .call 2 (.request "second" .null (.given none)), .goOn 2]
    let ask : Members := [("id", .int 2), ("method", .str "ask")]
    let note : Members := [("method", .str "note")]
    let answer (id : Nat) : Members := [("id", .int id), ("result", .null)]
    let events := [Event.receive ask, .receive (answer 2), .goOn 1, .receive note,
      .receive (answer 1), .receive (answer 2)]
    (t.run before).Accounted events ∧ received events = [ask, answer 2, note, answer 1, answer 2] ∧
      (t.run before).settledIn events = [2] ∧
      (t.run (before ++ events)).session.refusals = [refusal (.int 2) "ask"] ∧
      (t.run (before ++ events)).session.notified = [note] ∧
      (t.run (before ++ events)).session.dropped = 2 := by
  intro t before ask note answer events
  have started : t.Started := ⟨rfl, rfl, rfl, rfl, rfl, rfl, fun _ => rfl, rfl⟩
  have possible : t.possible (before ++ events) = true := by decide
  have unbroken : ∀ fault, .breaks fault ∉ before ++ events := by simp [before, events]
  have accounted : (t.run before).Accounted events :=
    accounted_run started ⟨nofun, nofun⟩ possible unbroken (by decide)
  have refusals := accounted.booked.refusals
  have notified := accounted.booked.notified rfl
  rw [← run_append] at refusals notified
  exact ⟨accounted, rfl, by decide, refusals, notified, by decide⟩

end Traffic

end ProbeBench
