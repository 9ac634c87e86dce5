import ProbeBench.Proofs.Json.Scalar

/-!
# Values read back

`parse` gives back every value that `text` has written, with the members of its objects in order,
if the value is `Exact`: it holds no floating number, no whole number of too many digits, and no
object with two members of one name. What text its strings hold does not matter.

* `scanValue_text`, `scanItems_itemsText`, `scanMembers_membersText`: a value, the items of an array
  and the members of an object, wherever they stand.
* `ofPairs_of_nodup`: members of different names stay as they are.
* `parse_text`: an object.
-/

namespace ProbeBench.Json

/-! ## Values that are written exactly -/

mutual

/-- The value reads back from its text. -/
def Exact : Json → Prop
  | .null => True
  | .bool _ => True
  | .int n => (Decimal.digitsOf n.natAbs).length ≤ Decimal.maxDigits
  | .float _ => False
  | .str _ => True
  | .arr items => ItemsExact items
  | .obj members => (members.map Prod.fst).Nodup ∧ MembersExact members

/-- So do all items of an array. -/
def ItemsExact : List Json → Prop
  | [] => True
  | v :: rest => Exact v ∧ ItemsExact rest

/-- So do the values of all members of an object. -/
def MembersExact : List (String × Json) → Prop
  | [] => True
  | (_, v) :: rest => Exact v ∧ MembersExact rest

end

/-! ## Where a text begins -/

/-- The text begins with a character that is no blank, closes no array and is no byte order mark. -/
def Begins (cs : List Char) : Prop :=
  ∃ c rest, cs = c :: rest ∧ isSpace c = false ∧ c ≠ ']' ∧ c ≠ '\ufeff'

theorem Begins.skipSpace {cs : List Char} (h : Begins cs) (more : List Char) :
    skipSpace (cs ++ more) = cs ++ more := by
  obtain ⟨c, rest, rfl, space, _⟩ := h
  simp [Json.skipSpace, space]

/-- A whole number begins with its sign or with a digit. -/
theorem intText_eq_cons (n : Int) :
    ∃ c rest, intText n = c :: rest ∧ (c = '-' ∨ Decimal.isDigit c = true) := by
  obtain ⟨d, ds, hd, digit⟩ := digitsOf_eq_cons n.natAbs
  unfold intText
  split
  · exact ⟨'-', _, rfl, .inl rfl⟩
  · exact ⟨d, ds, hd, .inr digit⟩

/-- A sign or digit is none of the characters that begin other values or stand between them. -/
theorem not_mem_of_number {c : Char} (h : c = '-' ∨ Decimal.isDigit c = true) :
    c ∉ [' ', '\t', '\n', '\r', ']', '\ufeff', '"', '[', '\x7b'] := by
  rcases h with rfl | h
  · decide
  · intro hc
    simp only [List.mem_cons, List.not_mem_nil, or_false] at hc
    rcases hc with rfl | rfl | rfl | rfl | rfl | rfl | rfl | rfl | rfl <;> cases h

theorem begins_intText (n : Int) : Begins (intText n) := by
  obtain ⟨c, rest, hc, hn⟩ := intText_eq_cons n
  have no := not_mem_of_number hn
  simp only [List.mem_cons, List.not_mem_nil, or_false, not_or] at no
  exact ⟨c, rest, hc, by simp [isSpace, no], no.2.2.2.2.1, no.2.2.2.2.2.1⟩

theorem begins_text {v : Json} (h : v.Exact) : Begins (text v) := by
  cases v with
  | null => exact ⟨'n', _, rfl, rfl, by decide, by decide⟩
  | bool b => cases b <;> exact ⟨_, _, rfl, rfl, by decide, by decide⟩
  | int n => exact begins_intText n
  | float x => exact h.elim
  | str s => exact ⟨'"', _, rfl, rfl, by decide, by decide⟩
  | arr items => exact ⟨'[', _, rfl, rfl, by decide, by decide⟩
  | obj members => exact ⟨'\x7b', _, rfl, rfl, by decide, by decide⟩

theorem begins_itemsText {v : Json} (h : v.Exact) (rest : List Json) :
    Begins (itemsText (v :: rest)) := by
  obtain ⟨c, cs, hc, hb⟩ := begins_text h
  cases rest with
  | nil => exact ⟨c, cs, hc, hb⟩
  | cons w rest => exact ⟨c, _, by rw [itemsText, hc, List.cons_append], hb⟩

theorem Begins.length_pos {cs : List Char} (h : Begins cs) : 0 < cs.length := by
  obtain ⟨c, rest, rfl, _⟩ := h
  exact Nat.succ_pos _

/-! ## Members of different names -/

theorem put_of_not_mem {ms : Members} {key : String} (h : key ∉ ms.map Prod.fst) (value : Json) :
    ms.put key value = ms ++ [(key, value)] := by
  induction ms with
  | nil => rfl
  | cons m rest ih =>
    simp only [List.map_cons, List.mem_cons, not_or] at h
    rw [Members.put, if_neg fun e => h.1 e.symm, ih h.2, List.cons_append]

theorem foldl_put_of_nodup {ms pairs : Members} (h : ((ms ++ pairs).map Prod.fst).Nodup) :
    pairs.foldl (fun ms p => ms.put p.1 p.2) ms = ms ++ pairs := by
  induction pairs generalizing ms with
  | nil => exact (List.append_nil ms).symm
  | cons p rest ih =>
    have fresh : p.1 ∉ ms.map Prod.fst := by
      rw [List.map_append, List.nodup_append] at h
      exact fun hp => h.2.2 _ hp _ List.mem_cons_self rfl
    have split : ms ++ p :: rest = (ms ++ [p]) ++ rest := by simp
    rw [split] at h ⊢
    rw [List.foldl_cons, put_of_not_mem fresh]
    exact ih h

/-- **Members of different names stay as they are.** -/
theorem ofPairs_of_nodup {ms : Members} (h : (ms.map Prod.fst).Nodup) : Members.ofPairs ms = ms :=
  @foldl_put_of_nodup [] ms h

/-! ## One step of each scanner -/

theorem scanValue_of_scalar (fuel : Nat) {c : Char} (cs : List Char) (quote : c ≠ '"')
    (bracket : c ≠ '[') (brace : c ≠ '\x7b') :
    scanValue (fuel + 1) (c :: cs) = scanScalar (c :: cs) := by
  rw [scanValue]
  all_goals simp [quote, bracket, brace]

theorem scanValue_of_string (fuel : Nat) (s : String) (rest : List Char) :
    scanValue (fuel + 1) (stringText s ++ rest) = .ok (.str s, rest) := by
  obtain ⟨content, hc, hs⟩ := scanString_stringText s rest
  rw [hc, scanValue, hs]
  simp [Except.map]

/-- An array with items is read item by item. -/
theorem scanValue_of_items (fuel : Nat) {cs : List Char} (h : Begins cs) (more : List Char) :
    scanValue (fuel + 1) ('[' :: (cs ++ more)) =
      (scanItems fuel (cs ++ more)).map fun r => (.arr r.1, r.2) := by
  rw [scanValue, h.skipSpace]
  obtain ⟨c, rest, rfl, _, open_, _⟩ := h
  split
  · rename_i he
    exact absurd (List.cons.inj he).1 open_
  · rfl

/-- An object with members is read member by member. -/
theorem scanValue_of_members (fuel : Nat) (cs : List Char) :
    scanValue (fuel + 1) ('\x7b' :: '"' :: cs) =
      (scanMembers fuel ('"' :: cs)).map fun r => (.obj (Members.ofPairs r.1), r.2) := by
  rw [scanValue]
  rfl

theorem scanItems_last {fuel : Nat} {cs rest : List Char} {v : Json}
    (h : scanValue fuel cs = .ok (v, ']' :: rest)) :
    scanItems (fuel + 1) cs = .ok ([v], rest) := by
  rw [scanItems, h]
  rfl

theorem scanItems_cons {fuel : Nat} {cs rest : List Char} {v : Json}
    (h : scanValue fuel cs = .ok (v, ',' :: ' ' :: rest)) (begins : skipSpace rest = rest) :
    scanItems (fuel + 1) cs = (scanItems fuel rest).map fun r => (v :: r.1, r.2) := by
  rw [scanItems, h]
  show (scanItems fuel (skipSpace rest)).map _ = _
  rw [begins]

/-- A member is read up to what stands behind its value. -/
theorem scanMembers_of_value {fuel : Nat} (key : String) {cs rest : List Char} {v : Json}
    (begins : skipSpace cs = cs) (h : scanValue fuel cs = .ok (v, rest)) :
    scanMembers (fuel + 1) (stringText key ++ ':' :: ' ' :: cs) =
      match skipSpace rest with
      | '\x7d' :: rest => .ok ([(key, v)], rest)
      | ',' :: rest => (scanMembers fuel (skipSpace rest)).map fun r => ((key, v) :: r.1, r.2)
      | rest => .error (.at .comma rest.length) := by
  obtain ⟨content, hc, hs⟩ := scanString_stringText key (':' :: ' ' :: cs)
  have colon : skipSpace (':' :: ' ' :: cs) = ':' :: ' ' :: cs := rfl
  have blank : skipSpace (' ' :: cs) = skipSpace cs := rfl
  rw [hc, scanMembers, hs]
  simp only [colon, blank, begins, h, String.ofList_toList] <;> rfl

theorem scanMembers_last {fuel : Nat} (key : String) {cs rest : List Char} {v : Json}
    (begins : skipSpace cs = cs) (h : scanValue fuel cs = .ok (v, '\x7d' :: rest)) :
    scanMembers (fuel + 1) (stringText key ++ ':' :: ' ' :: cs) = .ok ([(key, v)], rest) :=
  scanMembers_of_value key begins h

theorem scanMembers_cons {fuel : Nat} (key : String) {cs rest : List Char} {v : Json}
    (begins : skipSpace cs = cs) (h : scanValue fuel cs = .ok (v, ',' :: ' ' :: '"' :: rest)) :
    scanMembers (fuel + 1) (stringText key ++ ':' :: ' ' :: cs) =
      (scanMembers fuel ('"' :: rest)).map fun r => ((key, v) :: r.1, r.2) :=
  scanMembers_of_value key begins h

theorem membersText_cons (key : String) (v : Json) (rest : List (String × Json)) :
    ∃ cs, membersText ((key, v) :: rest) = '"' :: cs := by
  cases rest <;> exact ⟨_, rfl⟩

theorem length_stringText (s : String) : 2 ≤ (stringText s).length := by
  simp only [stringText, List.length_cons, List.length_append]
  omega

/-! ## Whole values -/

mutual

/-- **A value reads back**, wherever it stands. -/
theorem scanValue_text : ∀ (v : Json), v.Exact → ∀ (fuel : Nat), 2 * (text v).length ≤ fuel →
    ∀ (rest : List Char), EndsNumber rest → scanValue fuel (text v ++ rest) = .ok (v, rest)
  | v, hv, 0, hf, _, _ => by
    have := (begins_text hv).length_pos
    omega
  | .null, _, fuel + 1, _, rest, _ => by
    rw [text]
    exact (scanValue_of_scalar fuel _ (by decide) (by decide) (by decide)).trans
      (scanScalar_null rest)
  | .bool b, _, fuel + 1, _, rest, _ => by
    rw [text, ← scanScalar_bool b rest]
    cases b <;> exact scanValue_of_scalar fuel _ (by decide) (by decide) (by decide)
  | .int n, few, fuel + 1, _, rest, ends => by
    obtain ⟨c, cs, hc, hn⟩ := intText_eq_cons n
    have no := not_mem_of_number hn
    simp only [List.mem_cons, List.not_mem_nil, or_false, not_or] at no
    rw [text, ← scanScalar_intText few ends, hc]
    exact scanValue_of_scalar fuel _ no.2.2.2.2.2.2.1 no.2.2.2.2.2.2.2.1 no.2.2.2.2.2.2.2.2
  | .str s, _, fuel + 1, _, rest, _ => scanValue_of_string fuel s rest
  | .arr [], _, fuel + 1, _, rest, _ => rfl
  | .arr (v :: items), exact_, fuel + 1, hf, rest, _ => by
    have hb := begins_itemsText exact_.1 items
    simp only [text, List.length_cons, List.length_append] at hf
    have hi := scanItems_itemsText v items exact_.1 exact_.2 fuel (by omega) rest
    rw [text, List.cons_append, List.append_assoc, scanValue_of_items fuel hb]
    exact congrArg (Except.map _) hi
  | .obj [], _, fuel + 1, _, rest, _ => rfl
  | .obj ((key, v) :: ms), ⟨nodup, exact_⟩, fuel + 1, hf, rest, _ => by
    simp only [text, List.length_cons, List.length_append] at hf
    have hm := scanMembers_membersText key v ms exact_.1 exact_.2 fuel (by omega) rest
    obtain ⟨cs, hc⟩ := membersText_cons key v ms
    rw [hc, List.cons_append] at hm
    rw [text, hc, List.cons_append, List.append_assoc, List.cons_append, scanValue_of_members, hm]
    exact congrArg (fun ms => Except.ok (Json.obj ms, rest)) (ofPairs_of_nodup nodup)

/-- The items of an array read back up to its closing bracket. -/
theorem scanItems_itemsText : ∀ (v : Json) (items : List Json), v.Exact → ItemsExact items →
    ∀ (fuel : Nat), 2 * (itemsText (v :: items)).length + 1 ≤ fuel → ∀ (rest : List Char),
    scanItems fuel (itemsText (v :: items) ++ ([']'] ++ rest)) = .ok (v :: items, rest)
  | v, items, _, _, 0, hf, _ => by omega
  | v, [], hv, _, fuel + 1, hf, rest => by
    rw [itemsText] at hf ⊢
    exact scanItems_last
      (scanValue_text v hv fuel (by omega) (']' :: rest) (endsNumber_cons (by decide)))
  | v, w :: items, hv, hw, fuel + 1, hf, rest => by
    have hb := begins_itemsText hw.1 items
    have pos := (begins_text hv).length_pos
    simp only [itemsText, List.length_cons, List.length_append] at hf
    have first := scanValue_text v hv fuel (by omega)
      (',' :: ' ' :: (itemsText (w :: items) ++ ([']'] ++ rest))) (endsNumber_cons (by decide))
    have later := scanItems_itemsText w items hw.1 hw.2 fuel (by omega) rest
    rw [itemsText, List.append_assoc]
    exact (scanItems_cons first (hb.skipSpace _)).trans (congrArg (Except.map _) later)

/-- The members of an object read back up to its closing brace. -/
theorem scanMembers_membersText : ∀ (key : String) (v : Json) (ms : List (String × Json)),
    v.Exact → MembersExact ms → ∀ (fuel : Nat),
    2 * (membersText ((key, v) :: ms)).length + 1 ≤ fuel → ∀ (rest : List Char),
    scanMembers fuel (membersText ((key, v) :: ms) ++ (['\x7d'] ++ rest)) =
      .ok ((key, v) :: ms, rest)
  | key, v, ms, _, _, 0, hf, _ => by omega
  | key, v, [], hv, _, fuel + 1, hf, rest => by
    simp only [membersText, List.length_cons, List.length_append] at hf
    have value := scanValue_text v hv fuel (by omega) ('\x7d' :: rest)
      (endsNumber_cons (by decide))
    rw [membersText, List.append_assoc]
    exact scanMembers_last key ((begins_text hv).skipSpace _) value
  | key, v, (name, w) :: ms, hv, hw, fuel + 1, hf, rest => by
    have long := length_stringText key
    simp only [membersText, List.length_cons, List.length_append] at hf
    obtain ⟨cs, hc⟩ := membersText_cons name w ms
    have later := scanMembers_membersText name w ms hw.1 hw.2 fuel (by omega) rest
    have first := scanValue_text v hv fuel (by omega)
      (',' :: ' ' :: '"' :: (cs ++ (['\x7d'] ++ rest))) (endsNumber_cons (by decide))
    rw [hc, List.cons_append] at later
    rw [membersText, hc, List.append_assoc, List.cons_append, List.cons_append, List.append_assoc]
    exact (scanMembers_cons key ((begins_text hv).skipSpace _) first).trans
      (congrArg (Except.map _) later)

end

theorem scanDocument_text {v : Json} (h : v.Exact) : scanDocument (text v) = .ok v := by
  have hb := begins_text h
  have value := scanValue_text v h (2 * (text v).length + 2) (by omega) [] endsNumber_nil
  have start := hb.skipSpace []
  rw [List.append_nil] at value start
  have mark : (text v).head? ≠ some '\ufeff' := by
    obtain ⟨c, rest, hc, _, _, mark⟩ := hb
    rw [hc]
    exact fun e => mark (Option.some.inj e)
  rw [scanDocument, if_neg mark, start, value]
  rfl

/-- **A value reads back from its text.** -/
theorem parse_text {v : Json} (h : v.Exact) : parse (text v) = .ok v := by
  rw [parse, scanDocument_text h]

end ProbeBench.Json
