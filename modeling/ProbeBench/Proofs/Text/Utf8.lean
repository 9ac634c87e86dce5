import ProbeBench.Text.Utf8

/-!
# UTF-8 reads back

`decode` gives back every text that `encode` has written. The proof goes character by character, by
the number of octets that a character takes: the first octet says how many follow and which may come
second, and each further octet adds six bits. Nothing else is read: whatever octets have been read
of a character, each octet that the decoder takes behind them completes one of a text
(`Open.Begun`).

* `decodeFrom_encodeChar`: one character, wherever it stands.
* `decode_encode`: a whole text.
* `decode_eq_ok_iff`: octets spell a text exactly if they are what it is written as.
-/

namespace ProbeBench.Text.Utf8

theorem toNat_toUInt8 {n : Nat} (h : n < 0x100) : n.toUInt8.toNat = n :=
  UInt8.toNat_ofNat_of_lt' h

/-- An octet that may follow, and after which others still do. -/
theorem decodeFrom_inner (position : Nat) {o : Open} {b : UInt8} (rest : List UInt8)
    (hb : o.low ≤ b.toNat ∧ b.toNat ≤ o.high) (owed : o.owed ≠ 1) :
    decodeFrom position (some o) (b :: rest) =
      decodeFrom (position + 1)
        (some
          { o with
            value := o.value * 0x40 + (b.toNat - 0x80), owed := o.owed - 1, low := 0x80,
            high := 0xbf, seen := o.seen + 1 })
        rest := by
  rw [decodeFrom]
  simp only [hb, owed, and_self, if_true, if_false]

/-- An octet that may follow, with which the character ends. -/
theorem decodeFrom_last (position : Nat) {o : Open} {b : UInt8} (rest : List UInt8)
    (hb : o.low ≤ b.toNat ∧ b.toNat ≤ o.high) (owed : o.owed = 1) :
    decodeFrom position (some o) (b :: rest) =
      (decodeFrom (position + 1) none rest).map
        (Char.ofNat (o.value * 0x40 + (b.toNat - 0x80)) :: ·) := by
  rw [decodeFrom]
  simp only [hb, owed, and_self, if_true]

/-- An octet with which a character of more octets begins. -/
theorem decodeFrom_first (position : Nat) {o : Open} {b : UInt8} (rest : List UInt8)
    (hb : 0x80 ≤ b.toNat) (ho : begin? position b = some o) :
    decodeFrom position none (b :: rest) = decodeFrom (position + 1) (some o) rest := by
  rw [decodeFrom]
  simp only [ho]
  rw [if_neg (by omega)]

/-- **A character reads back**, wherever it stands. -/
theorem decodeFrom_encodeChar (position : Nat) (c : Char) (rest : List UInt8) :
    decodeFrom position none (encodeChar c ++ rest) =
      (decodeFrom (position + (encodeChar c).length) none rest).map (c :: ·) := by
  have hc : Char.ofNat c.toNat = c := Char.ofNat_toNat c
  have valid : c.toNat < 0xd800 ∨ (0xdfff < c.toNat ∧ c.toNat < 0x110000) := c.valid
  unfold encodeChar
  generalize c.toNat = n at hc valid
  simp only
  split
  · rename_i one
    have e := toNat_toUInt8 (n := n) (by omega)
    rw [List.singleton_append, decodeFrom]
    simp only [e, if_pos one, hc, List.length_singleton]
  · split
    · rename_i two
      have e₁ := toNat_toUInt8 (n := 0xc0 + n / 0x40) (by omega)
      have e₂ := toNat_toUInt8 (n := 0x80 + n % 0x40) (by omega)
      rw [List.cons_append, List.singleton_append,
        decodeFrom_first _ _ (by omega) (by rw [begin?]; simp only [e₁]; rw [if_pos (by omega)]),
        decodeFrom_last _ _ (by simp only [e₂]; omega) rfl]
      simp only [e₂]
      rw [show (0xc0 + n / 0x40 - 0xc0) * 0x40 + (0x80 + n % 0x40 - 0x80) = n by omega, hc]
      rfl
    · split
      · rename_i three
        have e₁ := toNat_toUInt8 (n := 0xe0 + n / 0x1000) (by omega)
        have e₂ := toNat_toUInt8 (n := 0x80 + n / 0x40 % 0x40) (by omega)
        have e₃ := toNat_toUInt8 (n := 0x80 + n % 0x40) (by omega)
        rw [List.cons_append, List.cons_append, List.singleton_append,
          decodeFrom_first _ _ (by omega)
            (by rw [begin?]; simp only [e₁]; rw [if_neg (by omega), if_pos (by omega)]),
          decodeFrom_inner _ _ (by simp only [e₂]; split <;> split <;> omega) (by simp),
          decodeFrom_last _ _ (by simp only [e₃]; omega) rfl]
        simp only [e₂, e₃]
        rw [show ((0xe0 + n / 0x1000 - 0xe0) * 0x40 + (0x80 + n / 0x40 % 0x40 - 0x80)) * 0x40 +
          (0x80 + n % 0x40 - 0x80) = n by omega, hc]
        rfl
      · have e₁ := toNat_toUInt8 (n := 0xf0 + n / 0x40000) (by omega)
        have e₂ := toNat_toUInt8 (n := 0x80 + n / 0x1000 % 0x40) (by omega)
        have e₃ := toNat_toUInt8 (n := 0x80 + n / 0x40 % 0x40) (by omega)
        have e₄ := toNat_toUInt8 (n := 0x80 + n % 0x40) (by omega)
        rw [List.cons_append, List.cons_append, List.cons_append, List.singleton_append,
          decodeFrom_first _ _ (by omega)
            (by
              rw [begin?]
              simp only [e₁]
              rw [if_neg (by omega), if_neg (by omega), if_pos (by omega)]),
          decodeFrom_inner _ _ (by simp only [e₂]; split <;> split <;> omega) (by simp),
          decodeFrom_inner _ _ (by simp only [e₃]; omega) (by simp),
          decodeFrom_last _ _ (by simp only [e₄]; omega) rfl]
        simp only [e₂, e₃, e₄]
        rw [show (((0xf0 + n / 0x40000 - 0xf0) * 0x40 + (0x80 + n / 0x1000 % 0x40 - 0x80)) * 0x40 +
          (0x80 + n / 0x40 % 0x40 - 0x80)) * 0x40 + (0x80 + n % 0x40 - 0x80) = n by omega, hc]
        rfl

theorem decodeFrom_encode (position : Nat) (text : List Char) :
    decodeFrom position none (encode text) = .ok text := by
  induction text generalizing position with
  | nil => rfl
  | cons c rest ih =>
    rw [encode, List.flatMap_cons, decodeFrom_encodeChar]
    show (decodeFrom _ none (encode rest)).map (c :: ·) = _
    rw [ih]
    rfl

/-- **Every text reads back.** -/
theorem decode_encode (text : List Char) : decode (encode text) = .ok text :=
  decodeFrom_encode 0 text

/-- The value of a character whose value so far is `value`, with the octets that follow. -/
def valueWith (value : Nat) (tail : List UInt8) : Nat :=
  tail.foldl (fun v b => v * 0x40 + (b.toNat - 0x80)) value

@[simp] theorem valueWith_nil (value : Nat) : valueWith value [] = value := rfl

theorem valueWith_cons (value : Nat) (b : UInt8) (rest : List UInt8) :
    valueWith value (b :: rest) = valueWith (value * 0x40 + (b.toNat - 0x80)) rest := by
  unfold valueWith
  rw [List.foldl_cons]

/-- The octets `head` have been read of a character: with whatever may follow they spell one. -/
structure Open.Begun (o : Open) (head : List UInt8) : Prop where
  owes : 0 < o.owed
  spells : ∀ b rest, o.low ≤ b.toNat ∧ b.toNat ≤ o.high →
    (∀ c ∈ rest, 0x80 ≤ c.toNat ∧ c.toNat ≤ 0xbf) → rest.length + 1 = o.owed →
    encodeChar (Char.ofNat (valueWith o.value (b :: rest))) = head ++ b :: rest

theorem toNat_ofNat {n : Nat} (valid : n < 0xd800 ∨ (0xdfff < n ∧ n < 0x110000)) :
    (Char.ofNat n).toNat = n := by
  rw [Char.ofNat, dif_pos valid]
  rfl

theorem toUInt8_eq {n : Nat} {b : UInt8} (h : n = b.toNat) : n.toUInt8 = b := by
  subst h
  exact UInt8.ofNat_toNat

/-- An octet that may follow goes on with the character. -/
theorem Open.Begun.next {o : Open} {head : List UInt8} (h : o.Begun head) {b : UInt8}
    (fits : o.low ≤ b.toNat ∧ b.toNat ≤ o.high) (more : o.owed ≠ 1) :
    Begun { o with
      value := o.value * 0x40 + (b.toNat - 0x80), owed := o.owed - 1, low := 0x80, high := 0xbf,
      seen := o.seen + 1 } (head ++ [b]) := by
  have owes := h.owes
  refine ⟨by dsimp only; omega, fun c rest within others length => ?_⟩
  dsimp only at length
  have spells := h.spells b (c :: rest) fits (List.forall_mem_cons.mpr ⟨within, others⟩)
    (by rw [List.length_cons]; omega)
  rw [valueWith_cons] at spells
  rw [spells, List.append_assoc]
  rfl

/-- A character of two octets. -/
theorem encodeChar_two {a b : UInt8} (ha : 0xc2 ≤ a.toNat ∧ a.toNat ≤ 0xdf)
    (hb : 0x80 ≤ b.toNat ∧ b.toNat ≤ 0xbf) :
    encodeChar (Char.ofNat ((a.toNat - 0xc0) * 0x40 + (b.toNat - 0x80))) = [a, b] := by
  unfold encodeChar
  rw [toNat_ofNat (by omega)]
  generalize e : (a.toNat - 0xc0) * 0x40 + (b.toNat - 0x80) = n
  dsimp only
  rw [if_neg (by omega), if_pos (by omega), toUInt8_eq (b := a) (by omega),
    toUInt8_eq (b := b) (by omega)]

/-- A character of three octets, the first two of which rule out overlong forms and surrogates. -/
theorem encodeChar_three {a b c : UInt8} (ha : 0xe0 ≤ a.toNat ∧ a.toNat ≤ 0xef)
    (hb : (if a.toNat = 0xe0 then 0xa0 else 0x80) ≤ b.toNat ∧
      b.toNat ≤ if a.toNat = 0xed then 0x9f else 0xbf)
    (hc : 0x80 ≤ c.toNat ∧ c.toNat ≤ 0xbf) :
    encodeChar (Char.ofNat
      (((a.toNat - 0xe0) * 0x40 + (b.toNat - 0x80)) * 0x40 + (c.toNat - 0x80))) = [a, b, c] := by
  unfold encodeChar
  rw [toNat_ofNat (by split at hb <;> split at hb <;> omega)]
  have low : 0x80 ≤ b.toNat ∧ b.toNat ≤ 0xbf ∧ (a.toNat = 0xe0 → 0xa0 ≤ b.toNat) := by
    split at hb <;> split at hb <;> omega
  generalize e : ((a.toNat - 0xe0) * 0x40 + (b.toNat - 0x80)) * 0x40 + (c.toNat - 0x80) = n
  dsimp only
  rw [if_neg (by omega), if_neg (by omega), if_pos (by omega), toUInt8_eq (b := a) (by omega),
    toUInt8_eq (b := b) (by omega), toUInt8_eq (b := c) (by omega)]

/-- A character of four octets, the first two of which rule out overlong forms and what lies beyond
the last code point. -/
theorem encodeChar_four {a b c d : UInt8} (ha : 0xf0 ≤ a.toNat ∧ a.toNat ≤ 0xf4)
    (hb : (if a.toNat = 0xf0 then 0x90 else 0x80) ≤ b.toNat ∧
      b.toNat ≤ if a.toNat = 0xf4 then 0x8f else 0xbf)
    (hc : 0x80 ≤ c.toNat ∧ c.toNat ≤ 0xbf) (hd : 0x80 ≤ d.toNat ∧ d.toNat ≤ 0xbf) :
    encodeChar (Char.ofNat
      ((((a.toNat - 0xf0) * 0x40 + (b.toNat - 0x80)) * 0x40 + (c.toNat - 0x80)) * 0x40 +
        (d.toNat - 0x80))) = [a, b, c, d] := by
  unfold encodeChar
  rw [toNat_ofNat (by split at hb <;> split at hb <;> omega)]
  have low : 0x80 ≤ b.toNat ∧ b.toNat ≤ 0xbf ∧ (a.toNat = 0xf0 → 0x90 ≤ b.toNat) := by
    split at hb <;> split at hb <;> omega
  generalize e : (((a.toNat - 0xf0) * 0x40 + (b.toNat - 0x80)) * 0x40 + (c.toNat - 0x80)) * 0x40 +
    (d.toNat - 0x80) = n
  dsimp only
  rw [if_neg (by omega), if_neg (by omega), if_neg (by omega), toUInt8_eq (b := a) (by omega),
    toUInt8_eq (b := b) (by omega), toUInt8_eq (b := c) (by omega), toUInt8_eq (b := d) (by omega)]

/-- Which octets follow depends on the first one. -/
theorem begun_of_begin? {position : Nat} {a : UInt8} {o : Open} (h : begin? position a = some o) :
    o.Begun [a] := by
  unfold begin? at h
  dsimp only at h
  split at h
  · rename_i two
    obtain rfl := Option.some.inj h
    refine ⟨Nat.zero_lt_one, fun b rest hb others length => ?_⟩
    obtain rfl : rest = [] := List.length_eq_zero_iff.mp (Nat.succ.inj length)
    rw [valueWith_cons, valueWith_nil, encodeChar_two two hb]
    rfl
  split at h
  · rename_i three
    obtain rfl := Option.some.inj h
    refine ⟨Nat.zero_lt_two, fun b rest hb others length => ?_⟩
    obtain ⟨c, rfl⟩ := List.length_eq_one_iff.mp (Nat.succ.inj length)
    rw [valueWith_cons, valueWith_cons, valueWith_nil,
      encodeChar_three three hb (others c (List.mem_singleton_self c))]
    rfl
  split at h
  · rename_i four
    obtain rfl := Option.some.inj h
    refine ⟨Nat.zero_lt_succ _, fun b rest hb others length => ?_⟩
    obtain ⟨c, tail, rfl⟩ := List.exists_cons_of_length_eq_add_one (Nat.succ.inj length)
    obtain ⟨d, rfl⟩ := List.length_eq_one_iff.mp (Nat.succ.inj (Nat.succ.inj length))
    rw [valueWith_cons, valueWith_cons, valueWith_cons, valueWith_nil,
      encodeChar_four four hb (others c (by simp)) (others d (by simp))]
    rfl
  · cases h

/-- The octets `head` have been read of the character that goes on, if one does. -/
def Within : Option Open → List UInt8 → Prop
  | none, head => head = []
  | some o, head => o.Begun head

/-- What has been read is what the text is written as. -/
theorem encode_of_decodeFrom {octets : List UInt8} {position : Nat} {within : Option Open}
    {head : List UInt8} {text : List Char} (begun : Within within head)
    (h : decodeFrom position within octets = .ok text) : head ++ octets = encode text := by
  induction octets generalizing position within head text with
  | nil =>
    cases within with
    | none =>
      cases begun
      cases h
      rfl
    | some o => cases h
  | cons b rest ih =>
    have ends {c : Char} (spells : encodeChar c = head ++ [b])
        (h : (decodeFrom (position + 1) none rest).map (c :: ·) = .ok text) :
        head ++ b :: rest = encode text := by
      cases later : decodeFrom (position + 1) none rest with
      | error fault =>
        rw [later] at h
        cases h
      | ok text' =>
        rw [later] at h
        cases h
        have same : [] ++ rest = encode text' := ih (show Within none [] from rfl) later
        rw [encode, List.flatMap_cons, spells, List.append_assoc]
        exact congrArg (head ++ b :: ·) same
    cases within with
    | none =>
      cases begun
      rw [decodeFrom] at h
      split at h
      · rename_i small
        refine ends ?_ h
        rw [encodeChar, toNat_ofNat (by omega), if_pos small, toUInt8_eq rfl]
        rfl
      · split at h
        · rename_i o begins
          exact ih (show Within (some o) [b] from begun_of_begin? begins) h
        · cases h
    | some o =>
      have spelled : o.Begun head := begun
      rw [decodeFrom] at h
      split at h
      · rename_i fits
        split at h
        · rename_i last
          have nothing : ∀ c ∈ ([] : List UInt8), 0x80 ≤ c.toNat ∧ c.toNat ≤ 0xbf :=
            fun c there => absurd there List.not_mem_nil
          exact ends (spelled.spells b [] fits nothing last.symm) h
        · rename_i more
          have taken := ih (show Within (some _) _ from spelled.next fits more) h
          rwa [List.append_assoc] at taken
      · cases h

/-- **What reads back is UTF-8**: the octets that are read are those that the text is written as. -/
theorem decode_eq_ok_iff {octets : List UInt8} {text : List Char} :
    decode octets = .ok text ↔ octets = encode text :=
  ⟨encode_of_decodeFrom (show Within none [] from rfl), fun same => same ▸ decode_encode text⟩

end ProbeBench.Text.Utf8
