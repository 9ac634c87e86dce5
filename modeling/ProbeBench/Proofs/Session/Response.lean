import ProbeBench.Proofs.Frame.Stream
import ProbeBench.Proofs.Session.Live
import ProbeBench.Proofs.Session.Phases

/-!
# The response to a request

A reader that goes on takes in all messages that have arrived (`intake`). For a request that waits,
the first of them that bears its id is the answer, and no other counts: neither a response that
comes for the second time, nor one to a request that was given up, nor one that nobody asked for.

* `takeIn_keeps`, `read_keeps`: what reading keeps.
* `Waiting.takeIn`, `Waiting.read`: what it does to a request that waits.
* `unheard_begin`, `unheard_resume`: where a call stands as long as nothing has come.
-/

namespace ProbeBench

/-- Whether a message counts as a response to request `n`. A truth value counts as one or zero. -/
def bearsId (n : Nat) (message : Members) : Bool :=
  match message.get? "method" with
  | some (.str _) => false
  | _ => requestId? (message.get? "id") = some (n : Int)

theorem bearsId_iff {n : Nat} {message : Members} :
    bearsId n message = true ↔
      Session.IsResponse message ∧ requestId? (message.get? "id") = some (n : Int) := by
  unfold bearsId
  split
  · rename_i method named
    constructor
    · exact fun h => by cases h
    · exact fun h => absurd named (h.1 method)
  · rename_i unnamed
    rw [decide_eq_true_iff]
    exact ⟨fun h => ⟨fun method named => unnamed method named, h⟩, fun h => h.2⟩

/-- Where no id is a truth value, these are the responses with this number. -/
theorem bearsId_eq {message : Members} (plain : hasTruthId message = false) (n : Nat) :
    bearsId n message = isResponseTo n message := by
  cases own : isResponseTo n message with
  | true => exact bearsId_iff.mpr (response_of_isResponseTo own)
  | false =>
    rw [Bool.eq_false_iff]
    intro h
    obtain ⟨response, same⟩ := bearsId_iff.mp h
    exact requestId?_ne own plain response same

namespace Session

/-- The messages that the reader takes in when it goes on. -/
def intake (s : Session) : List Members :=
  match s.reader with
  | .woken => Frame.messages s.transport.pull.1
  | _ => []

/-- Whether a response to request `n` would reach its caller. -/
def awaits (s : Session) (n : Nat) : Bool :=
  match s.entryOf? n with
  | some entry => !entry.expired
  | none => false

theorem Waiting.awaits {n : Nat} {method : String} {s : Session} (h : Waiting n method s) :
    s.awaits n = true := by
  rw [Session.awaits, h.entry]
  rfl

theorem Settled.awaits {n : Nat} {o : Outcome} {s : Session} (h : Settled n o s) :
    s.awaits n = false := by
  rw [Session.awaits, h.entry]

/-! ## What reading keeps -/

section Keeps

variable {P : Session → Prop} (dispatch : ∀ {s}, P s → ∀ message, P (s.dispatch message).1)
  (congr : ∀ {s s'}, P s → SameTable s s' → P s')

include dispatch congr

/-- What handling one message keeps, and what depends on the table only, handling all keeps. -/
theorem takeIn_keeps (items : List Frame.Item) {s : Session} (h : P s) : P (s.takeIn items).1 :=
  (Along.keeps dispatch congr).takeIn s items h

/-- What losing the session keeps besides, reading keeps. -/
theorem read_keeps (lose : ∀ {s}, P s → ∀ ending, P (s.lose ending)) {s : Session} (h : P s) :
    P s.read :=
  (Along.keeps dispatch congr).read
    (fun s h => congr h ⟨rfl, rfl, rfl, rfl, congrArg Wire.closed (wire_pull s.transport)⟩)
    (fun _ h => congr h ⟨rfl, rfl, rfl, rfl, rfl⟩) (fun s h => congr h (endReader_same s))
    (fun _ ending h => congr (lose h ending) (endReader_same _)) s h

end Keeps

theorem Settled.read {n : Nat} {o : Outcome} {s : Session} (h : Settled n o s) :
    Settled n o s.read :=
  read_keeps (fun h => h.dispatch) (fun h => h.congr) (fun h => h.lose) h

/-! ## The answer -/

/-- What has become of a request that waited, once the first response to it has been taken in, if
there was one. -/
def Answered (n : Nat) (method : String) (response : Option Members) (s : Session) : Prop :=
  match response with
  | some message => Settled n (responseOutcome method message) s
  | none => Waiting n method s

theorem Answered.congr {n : Nat} {method : String} {response : Option Members} {s s' : Session}
    (h : Answered n method response s) (same : SameTable s s') : Answered n method response s' := by
  cases response with
  | some message => exact Settled.congr h same
  | none => exact Waiting.congr h same

/-- **The first message that bears the id of a request answers it.** -/
theorem Waiting.takeIn {n : Nat} {method : String} {told : List Members} {limit : Option Limit}
    {s : Session} (h : Waiting n method s) (live : s.At told limit) (items : List Frame.Item) :
    Answered n method ((Frame.messages items).find? (bearsId n)) (s.takeIn items).1 := by
  induction items generalizing s with
  | nil => exact h
  | cons item rest ih =>
    rw [Frame.messages_cons]
    cases item with
    | fault fault =>
      have counted : SameTable s { s with frameFaults := s.frameFaults + 1 } :=
        ⟨rfl, rfl, rfl, rfl, rfl⟩
      refine ih (h.congr (counted.trans (warn_same _ _))) (At.warn ?_ _)
      exact live.same rfl rfl rfl rfl rfl
    | message message =>
      obtain ⟨still, clean⟩ := live.dispatch message
      have later : (s.takeIn (.message message :: rest)).1 =
          ((s.dispatch message).1.takeIn rest).1 := by
        rw [Session.takeIn]
        split
        · rename_i he
          rw [he]
        · rename_i he
          rw [he] at clean
          cases clean
      rw [later]
      cases own : bearsId n message with
      | true =>
        obtain ⟨response, same⟩ := bearsId_iff.mp own
        have first : List.find? (bearsId n) (message :: Frame.messages rest) = some message :=
          List.find?_cons_of_pos own
        show Answered n method (List.find? (bearsId n) (message :: Frame.messages rest)) _
        rw [first]
        exact takeIn_keeps (fun h => h.dispatch) (fun h => h.congr) rest
          (h.dispatch_own response same)
      | false =>
        have skipped : List.find? (bearsId n) (message :: Frame.messages rest) =
            (Frame.messages rest).find? (bearsId n) :=
          List.find?_cons_of_neg (by simp [own])
        show Answered n method (List.find? (bearsId n) (message :: Frame.messages rest)) _
        rw [skipped]
        refine ih (h.dispatch_other fun response same => ?_) still
        rw [bearsId_iff.mpr ⟨response, same⟩] at own
        cases own

/-- **A reader that goes on gives a request its answer**, if one has arrived. -/
theorem Waiting.read {n : Nat} {method : String} {told : List Members} {limit : Option Limit}
    {s : Session} (h : Waiting n method s) (live : s.At told limit) :
    Answered n method (s.intake.find? (bearsId n)) s.read := by
  by_cases woken : s.reader = .woken
  · obtain ⟨transport, wire, pulled, read⟩ := live.read_of_woken woken
    have moved : SameTable s { s with transport } := ⟨rfl, rfl, rfl, rfl, congrArg Wire.closed wire⟩
    have taken := (h.congr moved).takeIn pulled s.transport.pull.1
    rw [intake, woken, read]
    exact taken.congr ⟨rfl, rfl, rfl, rfl, rfl⟩
  · have nothing : s.intake = [] := by
      unfold intake
      split
      · rename_i goes
        exact absurd goes woken
      · rfl
    have same : SameTable s s.read := by
      unfold Session.read
      split
      · exact endReader_same s
      · rename_i goes
        exact absurd goes woken
      · exact .refl s
    rw [nothing]
    exact h.congr same

/-! ## Calls that wait for it -/

/-- A call whose request is answered ends with the answer. -/
theorem Settled.resume {n : Nat} {o : Outcome} {s : Session} (h : Settled n o s) (method : String)
    (seconds : Option Float) :
    (through 3 (s.resume (.awaiting .answer n method seconds))).2 = .finished o := by
  cases seconds <;> simp only [Session.resume, concludeOr, h.outcome] <;> rfl

/-- A call whose time is over fails with that. -/
theorem At.resume_expiring {told : List Members} {limit : Option Limit} {s : Session}
    (h : s.At told limit) (n : Nat) (failure : Failure) :
    (through 3 (s.resume (.expiring .answer n failure))).2 = .finished (.error failure) := by
  simp only [resume, giveUp, (h.forget n).live.tell]
  rfl

end Session

end ProbeBench
