import ProbeBench.Proofs.Toml.Reading

/-!
# How plain values are read

Dates, times and numbers are tried one after the other, and each takes what it reads off the front
of the text, or nothing at all: `Takes` says so of an outcome that may be missing. Only a whole
number in decimal digits can be too long; then its digits stand in the text, with the underscores
among them.

* `reads_scalar`: what reading a plain value leaves, and when it stops without a place.
-/

namespace ProbeBench.Toml

open ProbeBench.Config

variable {α β : Type} {cs rest : List Char}

/-- What is left of a text with an outcome, if there is one, is the end of the text. -/
def Takes (cs : List Char) (left : α → List Char) (r : Option α) : Prop := ∀ a ∈ r, left a <:+ cs

namespace Takes

variable {left : α → List Char} {left' : β → List Char} {r : Option α}

theorem none : Takes cs left none := fun _ there => nomatch there

theorem some {a : α} (ending : left a <:+ cs) : Takes cs left (some a) := by
  rintro _ ⟨⟩
  exact ending

theorem of_suffix (ending : rest <:+ cs) (takes : Takes rest left r) : Takes cs left r :=
  fun a there => (takes a there).trans ending

theorem bind {f : α → Option β} (first : Takes cs left r) (next : ∀ a, Takes (left a) left' (f a)) :
    Takes cs left' (r >>= f) := by
  cases r with
  | none => exact none
  | some a => exact (next a).of_suffix (first a rfl)

theorem map {f : α → β} (takes : Takes cs left r) (same : ∀ a, left' (f a) = left a) :
    Takes cs left' (r.map f) := by
  cases r with
  | none => exact none
  | some a => exact some (same a ▸ takes a rfl)

theorem filter {p : α → Bool} (takes : Takes cs left r) : Takes cs left (r.filter p) :=
  fun a there => takes a (Option.mem_filter_iff.mp there).1

end Takes

/-! ### Dates and times -/

theorem takes_fixed? (width : Nat) (cs : List Char) : Takes cs Prod.snd (fixed? width cs) := by
  unfold fixed?
  dsimp only
  split
  · exact .some (List.drop_suffix _ _)
  · exact .none

theorem takes_pair? (low high : Nat) (cs : List Char) : Takes cs Prod.snd (pair? low high cs) :=
  (takes_fixed? 2 cs).filter

theorem takes_after? (c : Char) (cs : List Char) : Takes cs id (after? c cs) := by
  unfold after?
  split
  · split
    · exact .some (List.suffix_cons _ _)
    · exact .none
  · exact .none

/-- Two digits behind a mark. -/
theorem takes_marked {mark : Char} {low high : Nat} {f : Nat × List Char → Option β}
    {left : β → List Char} (next : ∀ r, Takes r.2 left (f r)) (cs : List Char) :
    Takes cs left (after? mark cs >>= fun cs => pair? low high cs >>= f) :=
  (takes_after? mark cs).bind fun rest => (takes_pair? low high rest).bind next

theorem takes_date? (cs : List Char) : Takes cs Prod.snd (date? cs) := by
  unfold date?
  refine (takes_fixed? 4 cs).bind ?_
  rintro ⟨year, cs⟩
  refine takes_marked ?_ cs
  rintro ⟨month, cs⟩
  refine takes_marked ?_ cs
  rintro ⟨day, cs⟩
  exact .some List.suffix_rfl

theorem fraction_suffix (cs : List Char) : (fraction cs).2 <:+ cs := by
  unfold fraction
  split
  · dsimp only
    split
    · exact List.suffix_rfl
    · exact (List.drop_suffix _ _).trans (List.suffix_cons _ _)
  · exact List.suffix_rfl

theorem takes_clock? (cs : List Char) : Takes cs Prod.snd (clock? cs) := by
  unfold clock?
  refine (takes_pair? 0 23 cs).bind ?_
  rintro ⟨hour, cs⟩
  refine takes_marked ?_ cs
  rintro ⟨minute, cs⟩
  refine takes_marked ?_ cs
  rintro ⟨second, cs⟩
  exact .some (fraction_suffix cs)

theorem takes_distance? (sign : Int) (cs : List Char) : Takes cs Prod.snd (distance? sign cs) := by
  unfold distance?
  refine (takes_pair? 0 23 cs).bind ?_
  rintro ⟨hour, cs⟩
  refine takes_marked ?_ cs
  rintro ⟨minute, cs⟩
  exact .some List.suffix_rfl

theorem offset_suffix (cs : List Char) : (offset cs).2 <:+ cs := by
  unfold offset
  dsimp only
  split
  · rename_i minutes rest found
    split at found
    · cases found
      exact List.suffix_cons _ _
    · cases found
      exact List.suffix_cons _ _
    · exact (takes_distance? 1 _ _ found).trans (List.suffix_cons _ _)
    · exact (takes_distance? (-1) _ _ found).trans (List.suffix_cons _ _)
    · cases found
  · exact List.suffix_rfl

theorem takes_clockAfterDate? (cs : List Char) : Takes cs Prod.snd (clockAfterDate? cs) := by
  unfold clockAfterDate?
  split
  · split
    · exact (takes_clock? _).of_suffix (List.suffix_cons _ _)
    · exact .none
  · exact .none

theorem reads_dateOrMoment? (cs : List Char) :
    ∀ r ∈ dateOrMoment? cs, Reads cs Prod.snd r := by
  unfold dateOrMoment?
  intro r there
  obtain ⟨⟨date, rest⟩, found, rfl⟩ := Option.map_eq_some_iff.mp there
  have ending : rest <:+ cs := takes_date? cs _ found
  dsimp only
  split
  · split
    · rename_i clock rest' found
      exact .ok ((offset_suffix rest').trans ((takes_clockAfterDate? rest _ found).trans ending))
    · exact .ok ending
  · exact .at

/-! ### Numbers -/

/-- Digits that were read, with a single underscore before each or without, stand in the text. -/
theorem moreDigits_run {isDigit : Char → Bool} (noDigit : isDigit '_' = false) (cs : List Char) :
    ∃ run, run ++ (moreDigits isDigit cs).2 = cs ∧ (∀ c ∈ run, isDigit c = true ∨ c = '_') ∧
      run.countP isDigit = (moreDigits isDigit cs).1.length := by
  fun_induction moreDigits isDigit cs with
  | case1 d rest digit r ih =>
    obtain ⟨run, all, digits, count⟩ := ih
    exact ⟨'_' :: d :: run, by simp [r, all], by simpa [digit] using digits,
      by simp [r, noDigit, digit, count]⟩
  | case3 d rest _ digit r ih =>
    obtain ⟨run, all, digits, count⟩ := ih
    exact ⟨d :: run, by simp [r, all], by simpa [digit] using digits, by simp [r, digit, count]⟩
  | case2 => exact ⟨[], rfl, by simp, rfl⟩
  | case4 => exact ⟨[], rfl, by simp, rfl⟩
  | case5 => exact ⟨[], rfl, by simp, rfl⟩

theorem digits?_run {isDigit : Char → Bool} (noDigit : isDigit '_' = false) {cs ds : List Char}
    (read : digits? isDigit cs = some (ds, rest)) :
    ∃ run, run ++ rest = cs ∧ (∀ c ∈ run, isDigit c = true ∨ c = '_') ∧
      run.countP isDigit = ds.length := by
  unfold digits? at read
  split at read
  · rename_i d more
    split at read
    · rename_i digit
      obtain ⟨run, all, digits, count⟩ := moreDigits_run noDigit more
      cases read
      exact ⟨d :: run, by simp [all], by simpa [digit] using digits, by simp [digit, count]⟩
    · cases read
  · cases read

theorem takes_digits? {isDigit : Char → Bool} (noDigit : isDigit '_' = false) (cs : List Char) :
    Takes cs Prod.snd (digits? isDigit cs) := by
  rintro ⟨ds, rest⟩ read
  obtain ⟨run, all, -⟩ := digits?_run noDigit read
  exact ⟨run, all⟩

theorem takes_based? (cs : List Char) : Takes cs Prod.snd (based? cs) := by
  unfold based?
  split
  · rename_i letter rest
    have behind : rest <:+ '0' :: letter :: rest :=
      (List.suffix_cons letter rest).trans (List.suffix_cons _ _)
    exact ((takes_digits? (by rfl) rest).of_suffix behind).map fun _ => rfl
  · exact .none

theorem takes_whole? (cs : List Char) : Takes cs Prod.snd (whole? cs) := by
  unfold whole?
  split
  · exact .some (List.suffix_cons _ _)
  · exact takes_digits? rfl _

theorem places_suffix (cs : List Char) : (places cs).2 <:+ cs := by
  unfold places
  split
  · rename_i rest
    cases found : digits? Decimal.isDigit rest with
    | none => exact List.suffix_rfl
    | some r =>
      exact (takes_digits? rfl rest r found).trans (List.suffix_cons _ _)
  · exact List.suffix_rfl

theorem takeSign_suffix (cs : List Char) : (Decimal.takeSign cs).2 <:+ cs := by
  unfold Decimal.takeSign
  split
  · exact List.suffix_cons _ _
  · exact List.suffix_cons _ _
  · exact List.suffix_rfl

theorem takes_exponent? (cs : List Char) : Takes cs Prod.snd (exponent? cs) := by
  unfold exponent?
  split
  · rename_i c rest
    split
    · have behind : (Decimal.takeSign rest).2 <:+ c :: rest :=
        (takeSign_suffix rest).trans (List.suffix_cons c rest)
      exact ((takes_digits? rfl _).of_suffix behind).map fun _ => rfl
    · exact .none
  · exact .none

/-- More digits before the point than a number may have are a run of digits in the text. -/
theorem holdsLong_of_whole? {cs whole : List Char} (read : whole? cs = some (whole, rest))
    (long : Decimal.maxDigits < whole.length) : HoldsLong cs := by
  unfold whole? at read
  split at read
  · cases read
    exact absurd long (by decide)
  · obtain ⟨run, all, digits, count⟩ := digits?_run rfl read
    refine ⟨run, ⟨[], rest, by simpa using all⟩, fun c there => ?_, count ▸ long⟩
    rcases digits c there with digit | rfl
    · simp [Decimal.isGroupChar, digit]
    · rfl

theorem reads_decimal? (cs : List Char) : ∀ r ∈ decimal? cs, Reads cs Prod.snd r := by
  unfold decimal?
  intro r there
  obtain ⟨⟨whole, rest⟩, found, rfl⟩ := Option.map_eq_some_iff.mp there
  have behind : rest <:+ (Decimal.takeSign cs).2 := takes_whole? _ _ found
  have left : (places rest).2 <:+ cs :=
    (places_suffix rest).trans (behind.trans (takeSign_suffix cs))
  dsimp only
  split
  · rename_i e rest' found'
    exact .ok ((takes_exponent? _ _ found').trans left)
  · split
    · split
      · rename_i long
        exact .digits ((holdsLong_of_whole? found long).of_suffix (takeSign_suffix cs))
      · exact .ok left
    · exact .ok left

theorem takes_special? (cs : List Char) : Takes cs Prod.snd (special? cs) := by
  unfold special?
  have behind (n : Nat) : (Decimal.takeSign cs).2.drop n <:+ cs :=
    (List.drop_suffix n _).trans (takeSign_suffix cs)
  dsimp only
  split
  · exact .some (behind 3)
  · split
    · exact .some (behind 3)
    · exact .none

theorem takes_truth? (cs : List Char) : Takes cs Prod.snd (truth? cs) := by
  unfold truth?
  split
  · exact .some (List.drop_suffix 4 cs)
  · split
    · exact .some (List.drop_suffix 5 cs)
    · exact .none

theorem Takes.reads {r : Option (Setting × List Char)} (takes : Takes cs Prod.snd r) :
    ∀ s ∈ r.map Except.ok, Reads cs Prod.snd s := by
  intro s there
  obtain ⟨a, found, rfl⟩ := Option.map_eq_some_iff.mp there
  exact .ok (takes a found)

theorem reads_orElse {left : α → List Char} {one two : Option (Except Stop α)}
    (first : ∀ r ∈ one, Reads cs left r) (second : ∀ r ∈ two, Reads cs left r) :
    ∀ r ∈ (one <|> two), Reads cs left r := by
  cases one with
  | none => exact second
  | some r => exact first

theorem reads_getD {left : α → List Char} {one : Option (Except Stop α)} {two : Except Stop α}
    (first : ∀ r ∈ one, Reads cs left r) (second : Reads cs left two) :
    Reads cs left (one.getD two) := by
  cases one with
  | none => exact second
  | some r => exact first r rfl

/-- **A plain value stops without a place only at a number of too many digits.** -/
theorem reads_scalar (cs : List Char) : Reads cs Prod.snd (scalar cs) := by
  unfold scalar
  refine reads_getD (reads_orElse (takes_truth? cs).reads <|
    reads_orElse (reads_dateOrMoment? cs) <| reads_orElse (Takes.reads ?clock) <|
    reads_orElse (takes_based? cs).reads <|
    reads_orElse (reads_decimal? cs) (takes_special? cs).reads) .at
  exact (takes_clock? cs).map fun _ => rfl

end ProbeBench.Toml
