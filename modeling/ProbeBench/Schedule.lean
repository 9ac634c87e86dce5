/-!
# Schedules

What is to happen at times to come. A `Schedule` is a binary heap of timers with the next one at the
front: no timer runs out before the one above it. Between timers with one deadline the place in the
heap decides, so they need not run out in the order in which they were added. A timer that is
stopped stays in the heap until it comes to the front, or until most timers are stopped ones. Times
can be of any ordered type.

* `perm_rise`, `perm_settle`: moving timers inside the heap loses none and adds none.
* `mem_add`: what is scheduled after adding a timer.
-/

namespace ProbeBench

/-- What is to happen at a time. -/
structure Timer (τ α : Type) where
  deadline : τ
  due : α
  stopped : Bool := false

variable {τ α : Type}

/-- Whether a timer runs out before another one. -/
def Timer.isBefore [LT τ] [DecidableLT τ] (t u : Timer τ α) : Bool := t.deadline < u.deadline

namespace Heap

variable [LT τ] [DecidableLT τ]

/-- Moves the timer at a place up, as long as it runs out before the one above it, but not above the
place `top`. -/
def rise (top : Nat) (h : Array (Timer τ α)) (i : Nat) : Array (Timer τ α) :=
  if hi : top < i ∧ i < h.size then
    if h[i].isBefore h[(i - 1) / 2] then rise top (h.swap i ((i - 1) / 2)) ((i - 1) / 2) else h
  else h
termination_by i
decreasing_by omega

/-- The earlier one of the two places under a place, the second one of equals; the first one if the
second is not there. -/
def childOf (h : Array (Timer τ α)) (i : Nat) : Nat :=
  match h[2 * i + 1]?, h[2 * i + 2]? with
  | some l, some r => if l.isBefore r then 2 * i + 1 else 2 * i + 2
  | _, _ => 2 * i + 1

theorem childOf_eq (h : Array (Timer τ α)) (i : Nat) :
    childOf h i = 2 * i + 1 ∨ (childOf h i = 2 * i + 2 ∧ 2 * i + 2 < h.size) := by
  unfold childOf
  split
  · rename_i hr
    split
    · exact .inl rfl
    · exact .inr ⟨rfl, (Array.getElem?_eq_some_iff.1 hr).1⟩
  · exact .inl rfl

/-- Moves the timer at a place down to the bottom, each time past the earlier one of the two under
it; also where it has come to. -/
def sink (h : Array (Timer τ α)) (i : Nat) : Array (Timer τ α) × Nat :=
  if hi : 2 * i + 1 < h.size then
    have hc : childOf h i < h.size := by rcases childOf_eq h i with e | e <;> omega
    sink (h.swap i (childOf h i)) (childOf h i)
  else (h, i)
termination_by h.size - i
decreasing_by
  have := childOf_eq h i
  simp only [Array.size_swap]
  omega

/-- Finds the place of the timer at `top` among those under it. -/
def settle (h : Array (Timer τ α)) (top : Nat) : Array (Timer τ α) :=
  let r := sink h top
  rise top r.1 r.2

/-- Settles the timers at the places below `n`, from the last one to the first. -/
def settleBelow (h : Array (Timer τ α)) : Nat → Array (Timer τ α)
  | 0 => h
  | n + 1 => settleBelow (settle h n) n

/-- The heap of timers in any order. -/
def ofArray (timers : Array (Timer τ α)) : Array (Timer τ α) := settleBelow timers (timers.size / 2)

/-- The timer at the front, and the heap without it. -/
def pop? (h : Array (Timer τ α)) : Option (Timer τ α × Array (Timer τ α)) :=
  h[0]?.map fun front => (front, settle (h.swapIfInBounds 0 (h.size - 1)).pop 0)

theorem perm_rise (top : Nat) (h : Array (Timer τ α)) (i : Nat) : (rise top h i).Perm h := by
  fun_induction rise top h i with
  | case1 h i _ _ ih => exact ih.trans (Array.swap_perm ..)
  | case2 => exact .rfl
  | case3 => exact .rfl

theorem perm_sink (h : Array (Timer τ α)) (i : Nat) : (sink h i).1.Perm h := by
  fun_induction sink h i with
  | case1 h i _ _ ih => exact ih.trans (Array.swap_perm ..)
  | case2 => exact .rfl

theorem perm_settle (h : Array (Timer τ α)) (top : Nat) : (settle h top).Perm h :=
  (perm_rise ..).trans (perm_sink ..)

theorem perm_settleBelow (h : Array (Timer τ α)) (n : Nat) : (settleBelow h n).Perm h := by
  induction n generalizing h with
  | zero => exact .rfl
  | succ n ih => exact (ih _).trans (perm_settle ..)

end Heap

/-- What is to happen at times to come. -/
structure Schedule (τ α : Type) where
  /-- The heap, with the next timer at the front. -/
  timers : Array (Timer τ α) := #[]
  /-- How many timers were stopped and have not been removed for that. -/
  stops : Nat := 0

namespace Schedule

variable [LT τ] [DecidableLT τ]

/-- Adds a timer. -/
def add (s : Schedule τ α) (deadline : τ) (due : α) : Schedule τ α :=
  { s with timers := Heap.rise 0 (s.timers.push { deadline, due }) s.timers.size }

/-- Stops the timers of something. -/
def stop (s : Schedule τ α) (concerns : α → Bool) : Schedule τ α :=
  let hit (t : Timer τ α) : Bool := !t.stopped && concerns t.due
  { timers := s.timers.map fun t => if hit t then { t with stopped := true } else t
    stops := s.stops + s.timers.countP hit }

/-- A schedule with more timers than this does not keep stopped ones if they are the most. -/
def crowd : Nat := 100

/-- Removes stopped timers from the front, at most `n`. -/
def trim (s : Schedule τ α) : Nat → Schedule τ α
  | 0 => s
  | n + 1 =>
    match Heap.pop? s.timers with
    | some (front, rest) =>
      if front.stopped then trim { timers := rest, stops := s.stops - 1 } n else s
    | none => s

/-- Removes stopped timers: all of them where they crowd, else those at the front. -/
def tidy (s : Schedule τ α) : Schedule τ α :=
  if crowd < s.timers.size ∧ s.timers.size < 2 * s.stops then
    { timers := Heap.ofArray (s.timers.filter (!·.stopped)), stops := 0 }
  else s.trim s.timers.size

/-- The deadline at the front. -/
def next? (s : Schedule τ α) : Option τ := s.timers[0]?.map (·.deadline)

/-- Takes at most `n` timers off the front as long as they are due; what is to happen now, and the
schedule afterwards. -/
def takeFor (isDue : τ → Bool) : Nat → Schedule τ α → List α × Schedule τ α
  | 0, s => ([], s)
  | n + 1, s =>
    match Heap.pop? s.timers with
    | some (front, rest) =>
      if isDue front.deadline then
        let r := takeFor isDue n { s with timers := rest }
        (if front.stopped then r.1 else front.due :: r.1, r.2)
      else ([], s)
    | none => ([], s)

/-- Takes timers off the front as long as they are due. -/
def take (isDue : τ → Bool) (s : Schedule τ α) : List α × Schedule τ α :=
  s.takeFor isDue s.timers.size

theorem mem_add (s : Schedule τ α) (deadline : τ) (due : α) (t : Timer τ α) :
    t ∈ (s.add deadline due).timers ↔ t ∈ s.timers ∨ t = { deadline, due } := by
  unfold add
  rw [(Heap.perm_rise ..).mem_iff, Array.mem_push]

end Schedule

/-- How much later than now, in seconds, something may be due that becomes ready now. -/
def resolution : Float := 1e-9

/-- Whether a deadline is due at a time, both in seconds. -/
def isDueAt (now deadline : Float) : Bool :=
  deadline ≤ now || !(now + resolution ≤ deadline)

end ProbeBench
