import ProbeBench.Proofs.Session.Correlation
import ProbeBench.Session.Loop

/-!
# How a session ends

What calls and the server do to the table as a whole and to the ending of a session.

* `Distinct`: no two entries have one id, and no request with an entry has an outcome
  (`Distinct.act`, `Moves.distinct`, `Distinct.absorb`).
* `Moves.owned`: a call leaves no entry behind that is not its own or that of another call.
* `Moves.ending_cases`: a call ends a session by closing it, and waits for no request then.
* `absorb_cases`: what comes from the server does nothing to the table, is handled as a message, or
  ends the session.
* `Moves.sent_eq`, `sent_absorb`: nothing is written on a session that has ended, provided that the
  reader handles nothing after it has ended itself (`admits`).
-/

namespace ProbeBench

namespace Session

/-! ## Entries -/

/-- No two entries have one id, and no request with an entry has an outcome. -/
structure Distinct (s : Session) : Prop where
  apart : s.pending.Pairwise fun e d => e.id ≠ d.id
  open_ : ∀ e ∈ s.pending, s.outcome? e.id = none

theorem find?_of_pairwise {entries : List Entry} (apart : entries.Pairwise fun e d => e.id ≠ d.id)
    {e : Entry} (he : e ∈ entries) : entries.find? (fun d => d.id = e.id) = some e := by
  induction entries with
  | nil => cases he
  | cons first rest ih =>
    obtain ⟨before, later⟩ := List.pairwise_cons.mp apart
    rcases List.mem_cons.mp he with rfl | there
    · exact List.find?_cons_of_pos (by simp)
    · rw [List.find?_cons_of_neg (by simpa using before e there)]
      exact ih later there

/-- An entry is found by its id. -/
theorem Distinct.entryOf? {s : Session} (h : Distinct s) {e : Entry} (he : e ∈ s.pending) :
    s.entryOf? e.id = some e :=
  find?_of_pairwise h.apart he

/-- **An entry whose caller has not stopped waiting** is that of a request that waits. -/
theorem Distinct.waiting {s : Session} (h : Distinct s) (alive : s.ending = none) {e : Entry}
    (he : e ∈ s.pending) (live : e.expired = false) : Waiting e.id e.method s := by
  refine ⟨alive, ?_, h.open_ e he⟩
  rw [h.entryOf? he, ← live]

theorem Distinct.congr {s s' : Session} (h : Distinct s) (same : SameTable s s') :
    Distinct s' where
  apart := same.pending ▸ h.apart
  open_ := fun e he => (same.outcome? e.id).trans (h.open_ e (same.pending ▸ he))

theorem Distinct.of_empty {s : Session} (h : s.pending = []) : Distinct s where
  apart := h ▸ .nil
  open_ := fun e he => by
    rw [h] at he
    cases he

theorem Distinct.forget {s : Session} (h : Distinct s) (id : Nat) : Distinct (s.forget id) where
  apart := h.apart.filter _
  open_ := fun e he => h.open_ e (List.mem_filter.mp he).1

theorem id_of_mem_forget {s : Session} {id : Nat} {e : Entry} (he : e ∈ (s.forget id).pending) :
    e.id ≠ id := by
  simpa using (List.mem_filter.mp he).2

theorem Distinct.act {s : Session} {own : Option Nat} {a : Act} (h : Distinct s) (sound : Sound s)
    (allowed : a.Allowed s own) : Distinct (s.act a) := by
  by_cases plain : a.isPlain = true
  · exact h.congr (act_same s plain)
  · cases a with
    | register method =>
      constructor
      · refine List.pairwise_append.mpr ⟨h.apart, List.pairwise_singleton .., ?_⟩
        intro e he d hd
        have old := sound.entries e he
        rw [List.mem_singleton.mp hd]
        exact Nat.ne_of_lt old
      · intro e he
        rcases List.mem_append.mp he with there | new
        · exact h.open_ e there
        · rw [List.mem_singleton.mp new]
          exact sound.unused.2
    | forget id => exact h.forget id
    | conclude id =>
      refine ⟨(h.forget id).apart, fun e he => ?_⟩
      have ne := id_of_mem_forget he
      exact (outcome?_collect_of_ne _ ne.symm).trans ((h.forget id).open_ e he)
    | expire id =>
      constructor
      · refine List.pairwise_map.mpr (h.apart.imp ?_)
        intro e d ne
        split <;> split <;> exact ne
      · intro e he
        obtain ⟨d, hd, rfl⟩ := List.mem_map.mp he
        split <;> exact h.open_ d hd
    | close =>
      have same := (act_close_same s).pending
      rw [endWith_eq] at same
      exact .of_empty same
    | _ => exact absurd rfl plain

/-- What an act does to the entries that are not the call's own, it leaves to their calls. -/
theorem owned_act {s : Session} {own : Option Nat} {a : Act} {others : Nat → Prop}
    (h : ∀ e ∈ s.pending, own = some e.id ∨ others e.id) (allowed : a.Allowed s own) :
    ∀ e ∈ (s.act a).pending, a.ownAfter s own = some e.id ∨ others e.id := by
  intro e he
  cases a with
  | register method =>
    rcases List.mem_append.mp he with there | new
    · rcases h e there with mine | other
      · rw [allowed.2] at mine
        cases mine
      · exact .inr other
    · rw [List.mem_singleton.mp new]
      exact .inl rfl
  | forget id => exact h e (List.mem_filter.mp he).1
  | conclude id =>
    have ne := id_of_mem_forget he
    rcases h e (List.mem_filter.mp he).1 with mine | other
    · exact absurd (Option.some.inj (mine.symm.trans allowed)) ne
    · exact .inr other
  | expire id =>
    obtain ⟨d, hd, rfl⟩ := List.mem_map.mp he
    split <;> exact h d hd
  | close =>
    have same := (act_close_same s).pending
    rw [endWith_eq] at same
    have empty : (s.act .close).pending = [] := same
    rw [empty] at he
    cases he
  | warn text => exact h e ((warn_same s text).pending ▸ he)
  | adopt result => exact h e ((adopt_same s result).pending ▸ he)
  | start => exact h e ((start_same s).pending ▸ he)
  | cancelReader => exact h e ((cancelReader_same s).pending ▸ he)
  | _ => exact h e he

/-! ## Endings -/

/-- Once the session has ended nobody answers the server: its stream is closed, or nobody reads. -/
def Quiet (s : Session) : Prop :=
  s.ending ≠ none → s.transport.wire.closed = true ∨ s.reader = .ended

/-- A reader that has ended is not started again. -/
theorem reader_act {s : Session} (h : s.reader = .ended) (a : Act) :
    (s.act a).reader = .ended := by
  cases a with
  | warn text =>
    simp only [Session.act, warn]
    split <;> exact h
  | adopt result =>
    simp only [Session.act, adopt]
    split <;> exact h
  | start => simp only [Session.act, start, h, reduceCtorEq, if_false]
  | cancelReader => simp only [Session.act, cancelReader, h]
  | close =>
    simp only [Session.act, shut, endWith_eq]
    exact h
  | _ => exact h

/-- An act leaves the ending as it is, or closes a session that has none. -/
theorem ending_act {s : Session} {own : Option Nat} {a : Act} (allowed : a.Allowed s own) :
    (s.act a).ending = s.ending ∨
      s.ending = none ∧ own = none ∧ a.ownAfter s own = none ∧ (s.act a).ending = some .closed ∧
        (s.act a).transport.wire.closed = true := by
  by_cases plain : a.isPlain = true
  · exact .inl (act_same s plain).ending
  · cases a with
    | close =>
      have same : (s.act .close).ending = _ := (act_close_same s).ending
      rw [endWith_eq] at same
      cases alive : s.ending with
      | none =>
        rw [alive] at same
        exact .inr ⟨rfl, allowed, allowed, same, closed_act_close s⟩
      | some ending =>
        rw [alive] at same
        exact .inl same
    | register method => exact .inl rfl
    | forget id => exact .inl rfl
    | conclude id => exact .inl rfl
    | expire id => exact .inl rfl
    | _ => exact absurd rfl plain

/-- A call writes nothing on a session that has ended. -/
theorem sent_act {s : Session} {own : Option Nat} {a : Act} (allowed : a.Allowed s own)
    (past : s.ending ≠ none) : (s.act a).transport.wire.sent = s.transport.wire.sent := by
  cases a with
  | write message => exact absurd allowed.1.1 past
  | warn text =>
    simp only [Session.act, warn]
    split <;> rfl
  | adopt result =>
    simp only [Session.act, adopt]
    split <;> rfl
  | start =>
    simp only [Session.act, start]
    split <;> rfl
  | cancelReader =>
    simp only [Session.act, cancelReader]
    split <;> rfl
  | close =>
    simp only [Session.act, shut, endWith_eq]
    exact Wire.sent_close _
  | _ => rfl

/-- What an act of a call does to its own request once that is settled: nothing, or the request
ends. -/
theorem Settled.act_own {n : Nat} {o : Outcome} {s : Session} {a : Act} (h : Settled n o s)
    (allowed : a.Allowed s (some n)) :
    a.ownAfter s (some n) = none ∨ a.ownAfter s (some n) = some n ∧ Settled n o (s.act a) := by
  by_cases plain : a.isPlain = true
  · refine .inr ⟨?_, h.congr (act_same s plain)⟩
    cases a <;> first | rfl | cases plain
  · cases a with
    | register method => cases allowed.2
    | forget id =>
      cases allowed
      exact .inr ⟨rfl, entryOf?_forget_self s _, h.outcome⟩
    | conclude id => exact .inl rfl
    | expire id =>
      refine .inr ⟨rfl, ?_, h.outcome⟩
      rw [entryOf?_expire, h.entry]
      rfl
    | close => cases allowed
    | _ => exact absurd rfl plain

end Session

/-! ## What calls do -/

open Session

namespace Moves

variable {s : Session} {own : Option Nat} {r : Session × Progress}

theorem distinct (h : Moves s own r) (sound : Sound s) (distinct : Distinct s) : Distinct r.1 := by
  induction h with
  | rest _ => exact distinct
  | act a allowed _ ih => exact ih (sound.act allowed) (distinct.act sound allowed)

/-- **A call leaves no entry behind** that is not its own or that of another call. -/
theorem owned {others : Nat → Prop} (h : Moves s own r)
    (before : ∀ e ∈ s.pending, own = some e.id ∨ others e.id) :
    ∀ e ∈ r.1.pending, r.2.id? = some e.id ∨ others e.id := by
  induction h with
  | rest hp => exact fun e he => (before e he).imp_left hp.trans
  | act a allowed _ ih => exact ih (owned_act before allowed)

theorem reader_ended (h : Moves s own r) (ended : s.reader = .ended) : r.1.reader = .ended := by
  induction h with
  | rest _ => exact ended
  | act a _ _ ih => exact ih (reader_act ended a)

/-- **The ending is set once.** -/
theorem ending_eq (h : Moves s own r) (past : s.ending ≠ none) : r.1.ending = s.ending := by
  induction h with
  | rest _ => rfl
  | act a allowed _ ih =>
    rcases ending_act allowed with same | ⟨alive, _⟩
    · exact (ih (same ▸ past)).trans same
    · exact absurd alive past

/-- A call keeps the entries of others, unless it closes the session. -/
theorem entryOf?_of_ne {n : Nat} (h : Moves s own r) (other : own ≠ some n) (old : n < s.nextId)
    (alive : r.1.ending = none) : r.1.entryOf? n = s.entryOf? n := by
  induction h with
  | rest _ => rfl
  | @act s own r a allowed more ih =>
    rw [ih (ownAfter_ne a other old) (Nat.lt_of_lt_of_le old (act_nextId_le s a)) alive]
    by_cases plain : a.isPlain = true
    · exact (act_same s plain).entryOf? n
    · cases a with
      | register method =>
        rw [entryOf?, Session.act, List.find?_append, List.find?_singleton, if_neg (by simp; omega),
          Option.or_none, entryOf?]
      | forget id => exact entryOf?_forget_of_ne s fun e => other (allowed.trans (congrArg some e))
      | conclude id =>
        exact entryOf?_forget_of_ne s fun e => other (allowed.trans (congrArg some e))
      | expire id =>
        have ne : id ≠ n := fun e => other (allowed.trans (congrArg some e))
        rw [entryOf?_expire]
        cases there : s.entryOf? n with
        | none => rfl
        | some d =>
          have mine : d.id = n := by simpa using List.find?_some there
          rw [Option.map_some, if_neg (mine ▸ ne.symm)]
      | close =>
        have past : (s.act .close).ending ≠ none := by
          rw [(act_close_same s).ending, endWith_eq]
          simp
        rw [more.ending_eq past] at alive
        exact absurd alive past
      | _ => exact absurd rfl plain

/-- **Nothing is written** by a call on a session that has ended. -/
theorem sent_eq (h : Moves s own r) (past : s.ending ≠ none) :
    r.1.transport.wire.sent = s.transport.wire.sent := by
  induction h with
  | rest _ => rfl
  | act a allowed _ ih =>
    rcases ending_act allowed with same | ⟨alive, _⟩
    · exact (ih (same ▸ past)).trans (sent_act allowed past)
    · exact absurd alive past

/-- A call that has no request makes none on a session that has ended. -/
theorem id?_of_past (h : Moves s own r) (past : s.ending ≠ none) (free : own = none) :
    r.2.id? = none := by
  induction h with
  | rest hp => exact hp.trans free
  | @act s own r a allowed _ ih =>
    have same : a.ownAfter s own = none := by
      cases a with
      | register method => exact absurd allowed.1 past
      | conclude id => rfl
      | _ => exact free
    rcases ending_act allowed with kept | ⟨alive, _⟩
    · exact ih (kept ▸ past) same
    · exact absurd alive past

/-- **A call ends a session by closing it**, and waits for no request then. -/
theorem ending_cases (h : Moves s own r) :
    r.1.ending = s.ending ∨
      s.ending = none ∧ r.1.ending = some .closed ∧ r.1.transport.wire.closed = true ∧
        r.2.id? = none := by
  induction h with
  | rest _ => exact .inl rfl
  | @act s own r a allowed more ih =>
    rcases ending_act allowed with same | ⟨alive, _, free, ended, closed⟩
    · rw [← same]
      exact ih
    · have past : (s.act a).ending ≠ none := ended ▸ Option.some_ne_none _
      exact .inr ⟨alive, (more.ending_eq past).trans ended, more.closed closed,
        more.id?_of_past past free⟩

theorem quiet (h : Moves s own r) (quiet : Quiet s) : Quiet r.1 := by
  intro past
  rcases h.ending_cases with same | ⟨_, _, closed, _⟩
  · rw [same] at past
    exact (quiet past).imp h.closed h.reader_ended
  · exact .inl closed

end Moves

/-- A request that is settled stays so as long as its call has not ended it. -/
theorem Session.Settled.of_any_moves {n : Nat} {o : Outcome} {s : Session} {own : Option Nat}
    {r : Session × Progress} (h : Settled n o s) (moves : Moves s own r) (old : n < s.nextId)
    (still : r.2.id? = some n) : Settled n o r.1 := by
  induction moves with
  | rest _ => exact h
  | @act s own r a allowed more ih =>
    have old' := Nat.lt_of_lt_of_le old (act_nextId_le s a)
    by_cases mine : own = some n
    · subst mine
      rcases h.act_own allowed with gone | ⟨_, settled⟩
      · -- a call that has ended its request gets no old one again
        rcases more.id? still with none_ | ⟨new, _⟩
        · rw [gone] at none_
          cases none_
        · exact absurd old' (Nat.not_lt_of_le new)
      · exact ih settled old' still
    · exact ih (h.act allowed mine old) old' still

/-! ## Closing -/

namespace Session

/-- A session that is closed from this side: it has ended, and so has its stream. -/
def shutDown (s : Session) : Session :=
  { s.shut with transport.wire := s.shut.transport.wire.close.1 }

theorem shutDown_wire (s : Session) : s.shutDown.transport.wire = s.transport.wire.close.1 := by
  rw [shutDown, shut, endWith_eq]

theorem shutDown_reader (s : Session) : s.shutDown.reader = s.reader := by
  show s.shut.reader = _
  rw [shut, endWith_eq]

theorem shutDown_ending (s : Session) : s.shutDown.ending = some (s.ending.getD .closed) := by
  show s.shut.ending = _
  rw [shut, endWith_eq]

theorem shutDown_pending (s : Session) : s.shutDown.pending = [] := by
  show s.shut.pending = _
  rw [shut, endWith_eq]

/-- A session whose stream closes without a fault is closed, and its reader is told to end if there
is one. -/
theorem through_close {s : Session} (open_ : s.transport.wire.closed = false)
    (gone : s.transport.wire.closeFault.filter (!·.isGone) = none) (result : Outcome) (fuel : Nat) :
    through (fuel + 1) (s.close result) =
      if s.reader = .absent ∨ s.reader = .ended then (s.shutDown, .finished result)
      else (s.shutDown.cancelReader, .waiting (.releasing result)) := by
  have transport : s.shut.transport = s.transport := by rw [shut, endWith_eq]
  have closing : s.close result = (s.shutDown, .waiting (.closing result none)) := by
    simp [Session.close, shutDown, transport, Wire.close, open_, gone]
  have goes : through (fuel + 1) (s.close result) =
      through fuel (s.shutDown.release result none) := by
    rw [closing]
    rfl
  rw [goes, release, shutDown_reader]
  split
  · cases fuel <;> rfl
  · cases fuel <;> rfl

/-- A reader that is there is told to end. -/
theorem cancelReader_of_there (s : Session) (there : ¬ (s.reader = .absent ∨ s.reader = .ended)) :
    s.cancelReader.reader = .cancelled ∧ s.cancelReader.transport = s.transport := by
  unfold cancelReader
  cases phase : s.reader with
  | absent => exact absurd (.inl phase) there
  | ended => exact absurd (.inr phase) there
  | cancelled => exact ⟨phase, rfl⟩
  | _ => exact ⟨rfl, rfl⟩

end Session

/-! ## What comes from the server -/

namespace Session

/-- A message changes nothing about requests, or it takes one off the table and may settle it. -/
theorem dispatch_cases (s : Session) (message : Members) :
    SameTable s (s.dispatch message).1 ∨
      ∃ id, SameTable (s.forget id) (s.dispatch message).1 ∨
        ∃ o, (s.dispatch message).1 = (s.forget id).settle id o := by
  unfold dispatch
  split
  · exact .inl (handle_same _ _ _)
  · rw [respond_eq]
    cases ha : s.addressee? message with
    | none => exact .inl (drop_same _ _)
    | some e =>
      simp only
      split
      · exact .inr ⟨e.id, .inl (drop_same _ _)⟩
      · exact .inr ⟨e.id, .inr ⟨_, rfl⟩⟩

theorem ending_dispatch (s : Session) (message : Members) :
    (s.dispatch message).1.ending = s.ending := by
  rcases s.dispatch_cases message with same | ⟨id, same | ⟨o, settled⟩⟩
  · exact same.ending
  · exact same.ending
  · rw [settled]
    rfl

theorem Distinct.dispatch {s : Session} (h : Distinct s) (message : Members) :
    Distinct (s.dispatch message).1 := by
  rcases s.dispatch_cases message with same | ⟨id, same | ⟨o, settled⟩⟩
  · exact h.congr same
  · exact (h.forget id).congr same
  · rw [settled]
    refine ⟨(h.forget id).apart, fun e he => ?_⟩
    have ne := id_of_mem_forget he
    exact (outcome?_settle_of_ne _ ne.symm o).trans ((h.forget id).open_ e he)

/-- What stops the reader is no response. -/
theorem same_of_fault {s : Session} {message : Members} {fault : WriteFault}
    (h : (s.dispatch message).2 = some fault) : SameTable s (s.dispatch message).1 := by
  unfold dispatch at h ⊢
  split
  · exact handle_same _ _ _
  · rename_i none_
    split at h
    · rename_i method hm
      exact absurd hm (none_ method)
    · cases h

/-- A stream that is closed stays closed, and nothing is written on it. -/
def Mute (s s' : Session) : Prop :=
  s.transport.wire.closed = true →
    s'.transport.wire.closed = true ∧ s'.transport.wire.sent = s.transport.wire.sent

/-- On a closed stream the server gets no answer. -/
theorem mute_along : Along Mute := by
  refine .of_steps (fun _ closed => ⟨closed, rfl⟩) ?_ ?_ ?_ (fun _ _ closed => ⟨closed, rfl⟩)
    fun _ _ _ closed => ⟨closed, rfl⟩
  · intro s t u first last closed
    obtain ⟨closed, same⟩ := first closed
    obtain ⟨closed, same'⟩ := last closed
    exact ⟨closed, same'.trans same⟩
  · rintro s _ ⟨_, _, _, _, rfl⟩ closed
    exact ⟨closed, rfl⟩
  · intro s id method open_ closed
    rw [open_] at closed
    cases closed

theorem mute_absorb (s : Session) (e : Traffic.Event) : Mute s (s.absorb e) := by
  refine mute_along.absorb (fun s ending closed => ?_) (fun _ _ _ _ _ closed => ⟨closed, rfl⟩)
    fun _ _ closed => ⟨closed, rfl⟩
  rw [Session.lose, endWith_eq]
  exact ⟨closed, rfl⟩

/-- **What comes from the server** does nothing to the table, is handled as a message, or ends the
session. -/
theorem absorb_cases (s : Session) (e : Traffic.Event) :
    SameTable s (s.absorb e) ∨
      (∃ message, s.absorb e = (s.dispatch message).1) ∨
      ∃ s' ending, SameTable s s' ∧ s.absorb e = (s'.lose ending).endReader := by
  cases e with
  | receive message =>
    right
    simp only [absorb]
    split
    · rename_i he
      exact .inl ⟨message, by rw [he]⟩
    · rename_i s' fault he
      refine .inr ⟨s', _, ?_, rfl⟩
      have same : SameTable s (s.dispatch message).1 := same_of_fault (by rw [he])
      rw [he] at same
      exact same
  | finish => exact .inr (.inr ⟨s, _, .refl s, rfl⟩)
  | fail fault => exact .inr (.inr ⟨s, _, .refl s, rfl⟩)
  | _ => exact .inl (absorb_plain (by simp) (by simp) (by simp))

/-- Whether an event may happen: a reader that has ended handles nothing and does not come back. -/
def admits (s : Session) : Traffic.Event → Bool
  | .receive _ => s.reader ≠ .ended
  | .garbled _ => s.reader ≠ .ended
  | .finish => s.reader ≠ .ended
  | .fail _ => s.reader ≠ .ended
  | .quit => s.reader ≠ .ended
  | .stir _ _ reader _ => s.reader ≠ .ended ∨ reader = .ended
  | _ => true

theorem reader_absorb {s : Session} {e : Traffic.Event} (admits : s.admits e)
    (ended : s.reader = .ended) : (s.absorb e).reader = .ended := by
  cases e with
  | stir inbox decoder reader wakes =>
    have same : reader = .ended := by simpa [Session.admits, ended] using admits
    exact same
  | call task call => exact ended
  | goOn task => exact ended
  | expire task => exact ended
  | unwritten task fault => exact ended
  | breaks fault => exact ended
  | _ => simp [Session.admits, ended] at admits

theorem ending_absorb {s : Session} (e : Traffic.Event) (past : s.ending ≠ none) :
    (s.absorb e).ending = s.ending := by
  rcases s.absorb_cases e with same | ⟨message, handled⟩ | ⟨s', ending, same, lost⟩
  · exact same.ending
  · rw [handled]
    exact s.ending_dispatch message
  · obtain ⟨x, hx⟩ := Option.ne_none_iff_exists'.mp past
    rw [lost, Session.lose, endWith_eq, endReader]
    simp only [same.ending, hx, Option.getD_some]

/-- **Nothing is written** for the server on a session that has ended. -/
theorem sent_absorb {s : Session} {e : Traffic.Event} (quiet : Quiet s) (admits : s.admits e)
    (past : s.ending ≠ none) : (s.absorb e).transport.wire.sent = s.transport.wire.sent := by
  rcases quiet past with closed | ended
  · exact (s.mute_absorb e closed).2
  · -- a reader that has ended handles nothing
    cases e with
    | receive message => exact absurd ended (of_decide_eq_true admits)
    | garbled fault => exact absurd ended (of_decide_eq_true admits)
    | finish => exact absurd ended (of_decide_eq_true admits)
    | fail fault => exact absurd ended (of_decide_eq_true admits)
    | _ => rfl

theorem Quiet.absorb {s : Session} {e : Traffic.Event} (h : Quiet s) (admits : s.admits e) :
    Quiet (s.absorb e) := by
  intro past
  rcases s.absorb_cases e with same | ⟨message, handled⟩ | ⟨s', ending, same, lost⟩
  · rw [same.ending] at past
    exact (h past).imp same.closed.trans (reader_absorb admits)
  · rw [handled, ending_dispatch] at past
    exact (h past).imp (fun closed => (s.mute_absorb e closed).1) (reader_absorb admits)
  · rw [lost]
    exact .inr rfl

theorem Distinct.absorb {s : Session} (h : Distinct s) (e : Traffic.Event) :
    Distinct (s.absorb e) :=
  absorb_keeps (fun h => h.dispatch) (fun _ _ => .of_empty (by rw [Session.lose, endWith_eq]))
    (fun h => h.congr) h e

/-- Whatever comes from the server, no entry is added to the table. -/
theorem pending_absorb {s : Session} {e : Traffic.Event} {d : Entry}
    (hd : d ∈ (s.absorb e).pending) : d ∈ s.pending := by
  have along : Along fun s s' => s'.pending ⊆ s.pending :=
    .of_steps (fun _ => List.Subset.refl _) (fun h h' => List.Subset.trans h' h)
      (fun noted => noted.same.pending ▸ List.Subset.refl _) (fun _ _ _ _ => List.Subset.refl _)
      (fun _ _ _ he => (List.mem_filter.mp he).1) fun _ _ _ => List.Subset.refl _
  refine along.absorb (fun s ending => ?_) (fun _ _ _ _ _ => List.Subset.refl _)
    (fun _ _ => List.Subset.refl _) hd
  rw [Session.lose, endWith_eq]
  exact List.nil_subset _

end Session

end ProbeBench
