import ProbeBench.Proofs.Session.Table

/-!
# What comes from the server

What a message does to a request, and to the table as a whole. A response settles the request whose
id it carries, if that waits, and no other; requests and notifications of the server settle none.

* `Along`: a relation that holds along every message. It holds along all that is read
  (`Along.takeIn`, `Along.read`), and it is enough that it holds along each step of a message
  (`Along.of_steps`).
* `Waiting.dispatch_own`: a request that waits is settled by its response, with its outcome.
* `Waiting.dispatch_other`, `Settled.dispatch`: any other message leaves a request as it is.
* `Sound.dispatch`: the invariant of the table is kept.
-/

namespace ProbeBench.Session

/-- The message is a response: it names no method. -/
def IsResponse (message : Members) : Prop :=
  ∀ method, message.get? "method" ≠ some (.str method)

theorem dispatch_of_response {message : Members} (h : IsResponse message) (s : Session) :
    s.dispatch message = (s.respond message, none) := by
  unfold dispatch
  split
  · rename_i method hm
    exact absurd hm (h method)
  · rfl

/-! ## Notes, refusals, entries and outcomes

A message leaves notes, or it is refused, or it takes an entry off the table and may settle it. A
relation between sessions that holds along each of these holds along all that is read. -/

/-- Only the notes differ that a session keeps of what it reads: notifications, warnings, and how
many responses and frames were of no use. -/
def Jots (s s' : Session) : Prop :=
  ∃ notified warnings dropped frameFaults,
    s' = { s with notified, warnings, dropped, frameFaults }

theorem Jots.refl (s : Session) : Jots s s := ⟨_, _, _, _, rfl⟩

theorem Jots.same {s s' : Session} (h : Jots s s') : SameTable s s' := by
  obtain ⟨_, _, _, _, rfl⟩ := h
  exact ⟨rfl, rfl, rfl, rfl, rfl⟩

theorem warn_jots (s : Session) (text : String) : Jots s (s.warn text) := by
  unfold warn
  split <;> exact ⟨_, _, _, _, rfl⟩

theorem drop_jots (s : Session) (id : Option Json) : Jots s (s.drop id) := by
  unfold drop warn
  split <;> exact ⟨_, _, _, _, rfl⟩

/-- A frame that is of no use is counted, and the user is told. -/
theorem garbled_jots (s : Session) (text : String) :
    Jots s ({ s with frameFaults := s.frameFaults + 1 }.warn text) := by
  unfold warn
  split <;> exact ⟨_, _, _, _, rfl⟩

theorem drop_same (s : Session) (id : Option Json) : SameTable s (s.drop id) :=
  (drop_jots s id).same

/-- **A request of the server is refused**, as long as the stream is not closed; a notification
leaves notes. -/
theorem handle_cases (s : Session) (method : String) (message : Members) :
    Jots s (s.handle method message).1 ∨
      ∃ id, s.transport.wire.closed = false ∧
        (s.handle method message).1 = s.act (.write (refusal id method)) := by
  unfold handle
  split
  · rename_i id _
    split
    · exact .inl (.refl s)
    · rename_i open_
      split
      · rename_i sent
        obtain ⟨_, _, rfl⟩ := send_ok sent
        exact .inr ⟨id, Bool.eq_false_iff.mpr open_, rfl⟩
      · exact .inl (.refl s)
  · left
    split
    · exact ⟨_, _, _, _, rfl⟩
    · exact .refl s
    · split
      · exact warn_jots s _
      · exact .refl s
    · exact ⟨_, _, _, _, rfl⟩

/-- A request or a notification of the server changes nothing about requests. -/
theorem handle_same (s : Session) (method : String) (message : Members) :
    SameTable s (s.handle method message).1 := by
  rcases s.handle_cases method message with jots | ⟨id, -, refused⟩
  · exact jots.same
  · rw [refused]
    exact act_same s rfl

/-- Only whole numbers and truth values are taken for the id of a request. -/
theorem requestId?_eq_some {id : Option Json} {n : Int} (h : requestId? id = some n) :
    id = some (.int n) ∨ ∃ b, id = some (.bool b) ∧ n = if b then 1 else 0 := by
  unfold requestId? at h
  split at h
  · cases h
    exact .inl rfl
  · rename_i b
    cases h
    exact .inr ⟨b, rfl, rfl⟩
  · cases h

/-- The entry that a response with this id finds. -/
def addressee? (s : Session) (message : Members) : Option Entry :=
  (requestId? (message.get? "id")).bind fun n => s.pending.find? fun e => (e.id : Int) = n

theorem addressee?_of_id {s : Session} {message : Members} {n : Nat}
    (h : requestId? (message.get? "id") = some (n : Int)) :
    s.addressee? message = s.entryOf? n := by
  rw [addressee?, h, Option.bind_some, entryOf?]
  congr 1
  funext e
  exact decide_eq_decide.mpr (by omega)

theorem respond_eq (s : Session) (message : Members) :
    s.respond message =
      match s.addressee? message with
      | none => s.drop (message.get? "id")
      | some entry =>
        if entry.expired then (s.forget entry.id).drop (message.get? "id")
        else (s.forget entry.id).settle entry.id (responseOutcome entry.method message) :=
  rfl

/-- A relation that holds from what was before a message, or a faulty frame, to what is after it. -/
structure Along (R : Session → Session → Prop) : Prop where
  refl : ∀ s, R s s
  trans : ∀ {s t u}, R s t → R t u → R s u
  jots : ∀ {s s'}, Jots s s' → R s s'
  dispatch : ∀ s message, R s (s.dispatch message).1

section Along

variable {R : Session → Session → Prop}

/-- What holds along each step that a message takes holds along the message. -/
theorem Along.of_steps (refl : ∀ s, R s s) (trans : ∀ {s t u}, R s t → R t u → R s u)
    (jots : ∀ {s s'}, Jots s s' → R s s')
    (refuse : ∀ (s : Session) id method, s.transport.wire.closed = false →
      R s (s.act (.write (refusal id method))))
    (forget : ∀ (s : Session) id, R s (s.forget id))
    (settle : ∀ (s : Session) id o, R s (s.settle id o)) : Along R where
  refl := refl
  trans := trans
  jots := jots
  dispatch s message := by
    unfold Session.dispatch
    split
    · rename_i method _
      rcases s.handle_cases method message with noted | ⟨id, open_, refused⟩
      · exact jots noted
      · rw [refused]
        exact refuse s id method open_
    · rw [respond_eq]
      split
      · exact jots (drop_jots s _)
      · simp only
        split
        · exact trans (forget s _) (jots (drop_jots _ _))
        · exact trans (forget s _) (settle _ _ _)

theorem Along.takeIn (h : Along R) (s : Session) (items : List Frame.Item) :
    R s (s.takeIn items).1 := by
  induction items generalizing s with
  | nil => exact h.refl s
  | cons item rest ih =>
    cases item with
    | fault fault => exact h.trans (h.jots (garbled_jots s _)) (ih _)
    | message message =>
      have handled := h.dispatch s message
      rw [Session.takeIn]
      split
      · rename_i he
        rw [he] at handled
        exact h.trans handled (ih _)
      · rename_i he
        rw [he] at handled
        exact handled

/-- **What holds along every message holds along all that is read**, if it holds besides where
octets are taken from the transport, and where the reader waits, ends, or loses the session. -/
theorem Along.read (h : Along R)
    (pull : ∀ s : Session, R s { s with transport := s.transport.pull.2.1 })
    (waits : ∀ s : Session, R s { s with reader := .waiting })
    (ends : ∀ s : Session, R s s.endReader)
    (lose : ∀ (s : Session) ending, R s (s.lose ending).endReader) (s : Session) : R s s.read := by
  unfold Session.read
  split
  · exact ends s
  · have taken := h.trans (pull s) (h.takeIn _ s.transport.pull.1)
    simp only
    split
    · rename_i he
      rw [he] at taken
      exact h.trans taken (lose _ _)
    · rename_i he
      rw [he] at taken
      split
      · exact h.trans taken (waits _)
      · exact h.trans taken (lose _ _)
      · exact h.trans taken (lose _ _)
  · exact h.refl s

/-- What every message keeps, and depends on the table only, is kept along. -/
theorem Along.keeps {P : Session → Prop}
    (dispatch : ∀ {s}, P s → ∀ message, P (s.dispatch message).1)
    (congr : ∀ {s s'}, P s → SameTable s s' → P s') : Along fun s s' => P s → P s' where
  refl _ h := h
  trans first last h := last (first h)
  jots noted h := congr h noted.same
  dispatch _ message h := dispatch h message

end Along

/-- What a response finds is an entry with its id. -/
theorem id_of_addressee? {s : Session} {message : Members} {e : Entry}
    (h : s.addressee? message = some e) :
    e ∈ s.pending ∧ requestId? (message.get? "id") = some (e.id : Int) := by
  obtain ⟨n, hn, hf⟩ := Option.bind_eq_some_iff.mp h
  have found := List.find?_some hf
  refine ⟨List.mem_of_find?_eq_some hf, ?_⟩
  rw [hn]
  simpa using (of_decide_eq_true found).symm

theorem Sound.respond {s : Session} (h : Sound s) (message : Members) :
    Sound (s.respond message) := by
  rw [respond_eq]
  cases ha : s.addressee? message with
  | none => exact h.congr (drop_same _ _)
  | some e =>
    have old := h.entries e (id_of_addressee? ha).1
    simp only
    split
    · exact (h.forget e.id).congr (drop_same _ _)
    · exact (h.forget e.id).settle old _

theorem Sound.dispatch {s : Session} (h : Sound s) (message : Members) :
    Sound (s.dispatch message).1 := by
  unfold Session.dispatch
  split
  · exact h.congr (handle_same _ _ _)
  · exact h.respond message

/-- **The response to a request that waits settles it** with the outcome that the message gives. -/
theorem Waiting.dispatch_own {n : Nat} {method : String} {s : Session} (h : Waiting n method s)
    {message : Members} (response : IsResponse message)
    (own : requestId? (message.get? "id") = some (n : Int)) :
    Settled n (responseOutcome method message) (s.dispatch message).1 := by
  rw [dispatch_of_response response, respond_eq, addressee?_of_id own, h.entry]
  exact ⟨entryOf?_forget_self s n, outcome?_settle_self h.outcome _⟩

/-- A message that finds no entry of a request leaves that request as it is. -/
theorem dispatch_untouched {n : Nat} {s : Session} {message : Members}
    (other : ∀ e, IsResponse message → s.addressee? message = some e → e.id ≠ n) :
    (s.dispatch message).1.entryOf? n = s.entryOf? n ∧
      (s.dispatch message).1.outcome? n = s.outcome? n ∧
      (s.dispatch message).1.ending = s.ending := by
  have untouched {u u' : Session} (same : SameTable u u') :
      u'.entryOf? n = u.entryOf? n ∧ u'.outcome? n = u.outcome? n ∧ u'.ending = u.ending :=
    ⟨same.entryOf? n, same.outcome? n, same.ending⟩
  unfold dispatch
  split
  · exact untouched (handle_same _ _ _)
  · rename_i response
    rw [respond_eq]
    cases ha : s.addressee? message with
    | none => exact untouched (drop_same _ _)
    | some e =>
      have ne := other e (fun name hn => response name hn) ha
      have entry := entryOf?_forget_of_ne s ne
      simp only
      split
      · obtain ⟨entry', outcome, ending⟩ := untouched (drop_same (s.forget e.id) _)
        exact ⟨entry'.trans entry, outcome, ending⟩
      · exact ⟨entry, outcome?_settle_of_ne _ ne _, rfl⟩

/-- Any other message leaves it waiting. -/
theorem Waiting.dispatch_other {n : Nat} {method : String} {s : Session} (h : Waiting n method s)
    {message : Members}
    (other : IsResponse message → requestId? (message.get? "id") ≠ some (n : Int)) :
    Waiting n method (s.dispatch message).1 := by
  have untouched : ∀ e, IsResponse message → s.addressee? message = some e → e.id ≠ n := by
    rintro e response ha rfl
    exact other response (id_of_addressee? ha).2
  obtain ⟨entry, outcome, ending⟩ := dispatch_untouched untouched
  exact ⟨ending.trans h.alive, entry.trans h.entry, outcome.trans h.outcome⟩

/-- **No message changes what a request is settled with.** -/
theorem Settled.dispatch {n : Nat} {o : Outcome} {s : Session} (h : Settled n o s)
    (message : Members) : Settled n o (s.dispatch message).1 := by
  have untouched : ∀ e, IsResponse message → s.addressee? message = some e → e.id ≠ n := by
    rintro e - ha rfl
    have found := addressee?_of_id (s := s) (id_of_addressee? ha).2
    rw [ha, h.entry] at found
    cases found
  obtain ⟨entry, outcome, -⟩ := dispatch_untouched untouched
  exact ⟨entry.trans h.entry, outcome.trans h.outcome⟩

/-- No message gives an id away. -/
theorem nextId_along : Along fun s s' => s'.nextId = s.nextId :=
  .of_steps (fun _ => rfl) (fun h h' => h'.trans h) (fun noted => noted.same.nextId)
    (fun _ _ _ _ => rfl) (fun _ _ => rfl) (fun _ _ _ => rfl)

theorem nextId_lose (s : Session) (ending : Ending) : (s.lose ending).nextId = s.nextId := by
  rw [Session.lose, endWith_eq]

theorem Sound.lose {s : Session} (h : Sound s) (ending : Ending) : Sound (s.lose ending) :=
  h.endWith ending

theorem endReader_same (s : Session) : SameTable s s.endReader := ⟨rfl, rfl, rfl, rfl, rfl⟩

end ProbeBench.Session
