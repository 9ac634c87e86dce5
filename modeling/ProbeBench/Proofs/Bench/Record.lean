import ProbeBench.Bench.Measurement
import ProbeBench.Proofs.Decimal.Rounding

/-!
# Records that read back

Reports for programs are records of comma separated values, one a line. A reader of such records
goes through a text character by character: a comma ends a field and a line break a record, unless
they stand in quotes, where two quotes are one. A record that is written reads back just if each of
its fields does. A comma or a quote in a field gives it quotes, and then it does; a line break alone
gives it none, and then the record is cut off there.

* `Csv.read`: the reader. A line feed, a carriage return or both end a record.
* `Csv.Frail`: a text that has a line break and gets no quotes.
* `Csv.read_csvRecord_iff`: a record reads back just if none of its fields is frail.
* `Csv.read_lines`: so do any number of lines.
* `Measurement.csvLine_reads_back`: the result for measurements.
-/

namespace ProbeBench

namespace Csv

/-- A record, by its fields. -/
abbrev Record := List (List Char)

/-- Where a reader is. -/
inductive Place where
  /-- In front of a record. -/
  | ahead
  /-- In front of a record, behind a carriage return, to which a line feed still belongs. -/
  | returned
  /-- At the beginning of a field. -/
  | start
  /-- Within a field that is not in quotes. -/
  | plain
  /-- Within quotes. -/
  | quoted
  /-- Behind a quote that ends the quotes or is the first of two. -/
  | closed
  deriving DecidableEq

/-- What a character does to the records that are read. -/
inductive Mark where
  | keep (c : Char)
  | comma
  | line
  | nothing

/-- Puts in front of the records behind a character what that does: it stands in the first field, or
ends a field or a record in front of them. -/
def Mark.add : Mark → List Record → List Record
  | .keep c, (field :: fields) :: records => ((c :: field) :: fields) :: records
  | .keep c, [] :: records => [[c]] :: records
  | .keep c, [] => [[[c]]]
  | .comma, record :: records => ([] :: record) :: records
  | .comma, [] => [[[]]]
  | .line, records => [[]] :: records
  | .nothing, records => records

/-- What a character does and where the reader is behind it; none if it may not stand there. -/
def Place.next : Place → Char → Option (Mark × Place)
  | .quoted, c => if c = '"' then some (.nothing, .closed) else some (.keep c, .quoted)
  | place, c =>
    if c = '"' then
      match place with
      | .plain => none
      | .closed => some (.keep c, .quoted)
      | _ => some (.nothing, .quoted)
    else if c = ',' then some (.comma, .start)
    else if c = '\r' then some (.line, .returned)
    else if c = '\n' then some (if place = .returned then .nothing else .line, .ahead)
    else if place = .closed then none
    else some (.keep c, .plain)

/-- The records in what is left of a text. -/
def readFrom (place : Place) : List Char → Option (List Record)
  | [] =>
    match place with
    | .quoted => none
    | .ahead | .returned => some []
    | _ => some [[[]]]
  | c :: rest =>
    match place.next c with
    | none => none
    | some (mark, place) => (readFrom place rest).map mark.add

/-- The records in a text. -/
def read (s : String) : Option (List (List String)) :=
  (readFrom .ahead s.toList).map fun records => records.map (·.map String.ofList)

example : read "a,\"b\"\"\n,\",\r\nc\r\n\n" = some [["a", "b\"\n,", ""], ["c"], [""]] := by decide
example : read "a,\"b" = none := by decide

/-! ## Fields and records -/

/-- A character that says nothing to a reader outside quotes. -/
def Ordinary (c : Char) : Prop := c ≠ ',' ∧ c ≠ '"' ∧ c ≠ '\n' ∧ c ≠ '\r'

/-- Puts a text in front of the first field. -/
def addText (cs : List Char) (records : List Record) : List Record :=
  cs.foldr (fun c => (Mark.keep c).add) records

@[simp] theorem addText_nil : addText [] = id := rfl

@[simp] theorem addText_cons (c : Char) (cs : List Char) :
    addText (c :: cs) = (Mark.keep c).add ∘ addText cs := rfl

@[simp] theorem add_nothing : Mark.nothing.add = id := rfl

theorem addText_field (cs : List Char) (field : List Char) (fields : Record)
    (records : List Record) :
    addText cs ((field :: fields) :: records) = ((cs ++ field) :: fields) :: records := by
  induction cs with
  | nil => rfl
  | cons c cs ih =>
    rw [addText_cons, Function.comp_apply, ih]
    rfl

/-- A text of ordinary characters within a field is read as it stands. -/
theorem readFrom_plain {cs : List Char} (h : ∀ c ∈ cs, Ordinary c) (rest : List Char) :
    readFrom .plain (cs ++ rest) = (readFrom .plain rest).map (addText cs) := by
  induction cs with
  | nil => simp
  | cons c cs ih =>
    obtain ⟨⟨comma, quote, feed, ret⟩, later⟩ := List.forall_mem_cons.mp h
    simp [readFrom, Place.next, comma, quote, feed, ret, ih later]

/-- A text within quotes is read with its quotes no longer doubled. -/
theorem readFrom_quoted (cs rest : List Char) :
    readFrom .quoted (cs.flatMap (fun c => if c = '"' then ['"', '"'] else [c]) ++ '"' :: rest) =
      (readFrom .closed rest).map (addText cs) := by
  induction cs with
  | nil => simp [readFrom, Place.next]
  | cons c cs ih =>
    by_cases quote : c = '"'
    · simp [readFrom, Place.next, quote, ih]
    · simp [readFrom, Place.next, quote, ih]

/-- What follows a field: the next field, the next line or nothing. -/
def Ends (rest : List Char) : Prop :=
  ∀ c ∈ rest.head?, c = ',' ∨ c = '\n' ∨ c = '\r'

theorem readFrom_of_ends {rest : List Char} (ends : Ends rest) :
    readFrom .plain rest = readFrom .start rest ∧ readFrom .closed rest = readFrom .start rest := by
  cases rest with
  | nil => exact ⟨rfl, rfl⟩
  | cons c rest =>
    rcases ends c rfl with rfl | rfl | rfl <;> exact ⟨rfl, rfl⟩

theorem readFrom_ordinary {cs rest : List Char} (h : ∀ c ∈ cs, Ordinary c) (ends : Ends rest) :
    readFrom .start (cs ++ rest) = (readFrom .start rest).map (addText cs) := by
  cases cs with
  | nil => simp
  | cons c cs =>
    obtain ⟨⟨comma, quote, feed, ret⟩, later⟩ := List.forall_mem_cons.mp h
    have inside := readFrom_plain later rest
    rw [(readFrom_of_ends ends).1] at inside
    simp [readFrom, Place.next, comma, quote, feed, ret, inside]

/-- A text that does not get quotes. -/
def Bare (text : String) : Prop := ',' ∉ text.toList ∧ '"' ∉ text.toList

/-- A text with a line break, to which quotes are not given. -/
def Frail (text : String) : Prop := Bare text ∧ ('\n' ∈ text.toList ∨ '\r' ∈ text.toList)

theorem csvField_of_bare {text : String} (bare : Bare text) :
    Measurement.csvField text = text.toList := by
  simp [Measurement.csvField, bare.1, bare.2]

theorem csvField_of_not_bare {text : String} (sheltered : ¬ Bare text) :
    Measurement.csvField text =
      '"' :: (text.toList.flatMap (fun c => if c = '"' then ['"', '"'] else [c]) ++ ['"']) := by
  rw [Bare, ← not_or, not_not] at sheltered
  simp [Measurement.csvField, sheltered]

/-- **A field reads back** if it is not frail. -/
theorem readFrom_csvField {text : String} (firm : ¬ Frail text) {rest : List Char}
    (ends : Ends rest) :
    readFrom .start (Measurement.csvField text ++ rest) =
      (readFrom .start rest).map (addText text.toList) := by
  by_cases bare : Bare text
  · rw [csvField_of_bare bare]
    refine readFrom_ordinary (fun c hc => ⟨?_, ?_, ?_, ?_⟩) ends
    · exact fun comma => bare.1 (comma ▸ hc)
    · exact fun quote => bare.2 (quote ▸ hc)
    · exact fun feed => firm ⟨bare, .inl (feed ▸ hc)⟩
    · exact fun ret => firm ⟨bare, .inr (ret ▸ hc)⟩
  · have inside := readFrom_quoted text.toList rest
    rw [(readFrom_of_ends ends).2] at inside
    simp [csvField_of_not_bare bare, readFrom, Place.next, inside]

theorem toList_csvRecord_cons (text next : String) (more : List String) :
    (Measurement.csvRecord (text :: next :: more)).toList =
      Measurement.csvField text ++ ',' :: (Measurement.csvRecord (next :: more)).toList := by
  simp [Measurement.csvRecord]

theorem toList_csvRecord_singleton (text : String) :
    (Measurement.csvRecord [text]).toList = Measurement.csvField text := by
  simp [Measurement.csvRecord]

/-- **A record reads back** if none of its fields is frail. -/
theorem readFrom_csvRecord {text : String} {texts : List String}
    (firm : ∀ f ∈ text :: texts, ¬ Frail f) {rest : List Char} {records : List Record}
    (ends : Ends rest) (behind : readFrom .start rest = some ([[]] :: records)) :
    readFrom .start ((Measurement.csvRecord (text :: texts)).toList ++ rest) =
      some ((text :: texts).map String.toList :: records) := by
  induction texts generalizing text with
  | nil =>
    rw [toList_csvRecord_singleton, readFrom_csvField (firm text (by simp)) ends, behind]
    simp [addText_field]
  | cons next more ih =>
    obtain ⟨first, later⟩ := List.forall_mem_cons.mp firm
    rw [toList_csvRecord_cons, List.append_assoc, List.cons_append,
      readFrom_csvField first (by simp [Ends])]
    simp [readFrom, Place.next, ih later, Mark.add, addText_field]

/-! ## Records that are cut off -/

/-- **A frail field is cut off at its first line break**, where its record ends. -/
theorem readFrom_of_frail {text : String} (frail : Frail text) {rest : List Char}
    {records : List Record}
    (h : readFrom .start (Measurement.csvField text ++ rest) = some records) :
    ∃ front more, records = [front] :: more ∧ front ≠ text.toList := by
  obtain ⟨bare, breaks⟩ := frail
  rw [csvField_of_bare bare] at h
  -- the first line break
  cases hb : text.toList.find? fun c => c = '\n' ∨ c = '\r' with
  | none =>
    have none_there := List.find?_eq_none.mp hb
    rcases breaks with feed | ret
    · simpa using none_there _ feed
    · simpa using none_there _ ret
  | some b =>
    obtain ⟨hbreak, front, back, whole, before⟩ := List.find?_eq_some_iff_append.mp hb
    have ordinary : ∀ c ∈ front, Ordinary c := by
      intro c hc
      have there : c ∈ text.toList := by simp [whole, hc]
      have no := before c hc
      simp only [Bool.not_eq_eq_eq_not, Bool.not_true, decide_eq_false_iff_not, not_or] at no
      exact ⟨fun comma => bare.1 (comma ▸ there), fun quote => bare.2 (quote ▸ there), no⟩
    have ends : Ends (b :: (back ++ rest)) := by
      intro c hc
      cases hc
      exact .inr (by simpa using hbreak)
    rw [whole, List.append_assoc, List.cons_append, readFrom_ordinary ordinary ends] at h
    obtain ⟨cut, hcut, rfl⟩ := Option.map_eq_some_iff.mp h
    have line : ∃ more, cut = [[]] :: more := by
      have hbreak : b = '\n' ∨ b = '\r' := by simpa using hbreak
      rcases hbreak with rfl | rfl
      · obtain ⟨more, -, rfl⟩ := Option.map_eq_some_iff.mp hcut
        exact ⟨more, rfl⟩
      · obtain ⟨more, -, rfl⟩ := Option.map_eq_some_iff.mp hcut
        exact ⟨more, rfl⟩
    obtain ⟨more, rfl⟩ := line
    refine ⟨front, more, by simp [addText_field], fun same => ?_⟩
    have lengths := congrArg List.length (same.trans whole)
    simp at lengths

/-- **A record with a frail field does not read back.** -/
theorem readFrom_csvRecord_ne {text : String} {texts : List String}
    (frail : ∃ f ∈ text :: texts, Frail f) {records more : List Record}
    (h : readFrom .start (Measurement.csvRecord (text :: texts)).toList = some records) :
    records ≠ (text :: texts).map String.toList :: more := by
  rintro rfl
  induction texts generalizing text with
  | nil =>
    obtain ⟨f, hf, frail⟩ := frail
    rw [List.mem_singleton] at hf
    subst hf
    rw [toList_csvRecord_singleton, ← List.append_nil (Measurement.csvField f)] at h
    obtain ⟨front, rest, cut, short⟩ := readFrom_of_frail frail h
    exact short (List.cons.inj (List.cons.inj cut).1).1.symm
  | cons next texts ih =>
    rw [toList_csvRecord_cons] at h
    by_cases first : Frail text
    · obtain ⟨front, rest, cut, short⟩ := readFrom_of_frail first h
      cases cut
    · have later : ∃ f ∈ next :: texts, Frail f := by
        obtain ⟨f, hf, frail⟩ := frail
        rcases List.mem_cons.mp hf with rfl | hf
        · exact absurd frail first
        · exact ⟨f, hf, frail⟩
      rw [readFrom_csvField first (by simp [Ends])] at h
      obtain ⟨read, hr, same⟩ := Option.map_eq_some_iff.mp h
      obtain ⟨behind, hb, rfl⟩ := Option.map_eq_some_iff.mp hr
      match behind, same with
      | [], same => simp [Mark.add, addText_field] at same
      | record :: rest, same =>
        simp only [Mark.add, addText_field, List.append_nil, List.map_cons, List.cons.injEq,
          true_and] at same
        obtain ⟨rfl, rfl⟩ := same
        exact ih later hb

/-! ## Whole texts -/

theorem readFrom_ahead {cs : List Char} (filled : cs ≠ []) :
    readFrom .ahead cs = readFrom .start cs := by
  cases cs with
  | nil => exact absurd rfl filled
  | cons c rest => rfl

/-- **A record of two fields or more reads back just if none of them is frail.** -/
theorem read_csvRecord_iff (text next : String) (more : List String) :
    read (Measurement.csvRecord (text :: next :: more)) = some [text :: next :: more] ↔
      ∀ f ∈ text :: next :: more, ¬ Frail f := by
  have filled : (Measurement.csvRecord (text :: next :: more)).toList ≠ [] := by
    simp [toList_csvRecord_cons]
  rw [read, readFrom_ahead filled]
  constructor
  · intro h
    obtain ⟨records, hr, same⟩ := Option.map_eq_some_iff.mp h
    have back : records = [(text :: next :: more).map String.toList] := by
      have again := congrArg (List.map (List.map String.toList)) same
      simpa [Function.comp_def] using again
    by_contra frail
    push Not at frail
    exact readFrom_csvRecord_ne frail hr back
  · intro firm
    have behind : readFrom .start [] = some ([[]] :: []) := rfl
    have back := readFrom_csvRecord firm (by simp [Ends]) behind
    rw [List.append_nil] at back
    simp [back, Function.comp_def]

/-- **Lines read back one by one** where none of their fields is frail. -/
theorem read_lines {records : List (List String)} (filled : ∀ r ∈ records, r ≠ [])
    (firm : ∀ r ∈ records, ∀ f ∈ r, ¬ Frail f) :
    read (String.ofList (records.flatMap fun r => (Measurement.csvRecord r).toList ++ ['\n'])) =
      some records := by
  have all : readFrom .ahead
      (records.flatMap fun r => (Measurement.csvRecord r).toList ++ ['\n']) =
        some (records.map (·.map String.toList)) := by
    induction records with
    | nil => rfl
    | cons r records ih =>
      obtain ⟨some_field, later⟩ := List.forall_mem_cons.mp filled
      obtain ⟨first, others⟩ := List.forall_mem_cons.mp firm
      match r with
      | text :: texts =>
        have behind := ih later others
        rw [List.flatMap_cons, List.append_assoc, List.singleton_append,
          readFrom_ahead (by simp)]
        refine readFrom_csvRecord first (by simp [Ends]) ?_
        simp [readFrom, Place.next, behind, Mark.add]
  rw [read, String.toList_ofList, all]
  simp [Function.comp_def]

end Csv

/-! ## Measurements -/

/-- The number of milliseconds. -/
def Milliseconds.value? : Milliseconds → Option ℚ
  | .whole n => some n
  | .real x => (Decimal.Double.ofFloat x).value?

theorem Milliseconds.round_of_value {elapsed : Milliseconds} {value : ℚ}
    (finite : elapsed.value? = some value) :
    ∃ ms, elapsed.round = .ok ms ∧ Decimal.IsNearest value ms := by
  cases elapsed with
  | whole n =>
    cases finite
    exact ⟨n, rfl, by simp [Decimal.IsNearest]⟩
  | real x =>
    obtain ⟨ms, rounded, nearest⟩ := Decimal.round_of_value finite
    refine ⟨ms, ?_, nearest⟩
    rw [round, wholeMilliseconds, rounded]

namespace Csv

/-- The digits of a number say nothing to a reader. -/
theorem ordinary_of_mem_toString {n : Int} {c : Char} (h : c ∈ (toString n).toList) :
    Ordinary c := by
  have written : c.isDigit = true ∨ c = '-' := by
    cases n with
    | ofNat k =>
      have digits : c ∈ Nat.toDigits 10 k := by simpa [toString, Int.repr] using h
      exact .inl (Nat.isDigit_of_mem_toDigits (by decide) (by decide) digits)
    | negSucc k =>
      have digits : c = '-' ∨ c ∈ Nat.toDigits 10 (k + 1) := by simpa [toString, Int.repr] using h
      exact digits.symm.imp_left (Nat.isDigit_of_mem_toDigits (by decide) (by decide))
  rcases written with digit | rfl
  · refine ⟨?_, ?_, ?_, ?_⟩ <;> rintro rfl <;> exact absurd digit (by decide)
  · simp [Ordinary]

theorem not_frail_toString (n : Int) : ¬ Frail (toString n) := by
  rintro ⟨-, feed | ret⟩
  · exact (ordinary_of_mem_toString feed).2.2.1 rfl
  · exact (ordinary_of_mem_toString ret).2.2.2 rfl

/-- What stands behind the name of the file is ordinary. -/
theorem frail_location (m : Measurement) : Frail m.location ↔ Frail m.file := by
  have rest : ∃ tail, m.location.toList = m.file.toList ++ tail ∧ ∀ c ∈ tail, Ordinary c := by
    refine ⟨':' :: ((toString m.line).toList ++ ':' :: (toString m.column).toList), ?_, ?_⟩
    · simp [Measurement.location]
    · intro c hc
      simp only [List.mem_cons, List.mem_append] at hc
      rcases hc with rfl | hc | rfl | hc
      · simp [Ordinary]
      · exact ordinary_of_mem_toString hc
      · simp [Ordinary]
      · exact ordinary_of_mem_toString hc
  obtain ⟨tail, whole, ordinary⟩ := rest
  have plain (c : Char) (special : ¬ Ordinary c) : c ∈ m.location.toList ↔ c ∈ m.file.toList := by
    rw [whole, List.mem_append, or_iff_left fun hc => special (ordinary c hc)]
  rw [Frail, Frail, Bare, Bare, plain ',' (by simp [Ordinary]), plain '"' (by simp [Ordinary]),
    plain '\n' (by simp [Ordinary]), plain '\r' (by simp [Ordinary])]

end Csv

namespace Measurement

/-- **A record reads back**, whatever the measurement is, if its time is a number: the fields are the
place of the probe, the milliseconds rounded to the nearest whole number, the count, and the error
if there is one. But a file name or an error with a line break and with neither a comma nor a quote
is written as it is, and then the record is cut off at the break. -/
theorem csvLine_reads_back (m : Measurement) {elapsed : ℚ} (finite : m.elapsed.value? = some elapsed) :
    ∃ ms line, m.elapsed.round = .ok ms ∧ Decimal.IsNearest elapsed ms ∧ m.csvLine = .ok line ∧
      (Csv.read line =
          some [[m.file ++ ":" ++ toString m.line ++ ":" ++ toString m.column, toString ms,
            toString m.count] ++ m.error.toList] ↔
        ∀ text ∈ m.file :: m.error.toList, ¬ Csv.Frail text) := by
  obtain ⟨ms, rounded, nearest⟩ := Milliseconds.round_of_value finite
  refine ⟨ms, csvRecord (m.csvFields ms), rounded, nearest, by rw [csvLine, rounded]; rfl, ?_⟩
  have back := Csv.read_csvRecord_iff m.location (toString ms) (toString m.count :: m.error.toList)
  refine back.trans ?_
  simp only [List.forall_mem_cons, Csv.frail_location, Csv.not_frail_toString, not_false_eq_true,
    true_and]

/-- A break of a line is no matter where there is a comma or a quote, and a half is rounded to the
even neighbour. -/
theorem csvLine_reads_back_sheltered :
    let m : Measurement :=
      { file := "a,b.ql", line := 3, column := 5, elapsed := .real 2.5, count := 7,
        error := some "said \"no\"\nand left" }
    ∃ line, m.csvLine = .ok line ∧
      Csv.read line = some [["a,b.ql:3:5", "2", "7", "said \"no\"\nand left"]] := by
  intro m
  have parts : Decimal.Double.ofFloat 2.5 = .finite false 5629499534213120 (-51) := by
    decide +kernel
  have half : (Decimal.Double.ofFloat 2.5).value? =
      some (1 * (((5629499534213120 : ℕ) : ℚ) * 2 ^ (-51 : ℤ))) := by
    rw [parts]
    rfl
  obtain ⟨ms, line, rounded, -, written, back⟩ := csvLine_reads_back m half
  have two : ms = 2 := by
    have same : Decimal.round 2.5 = .ok 2 := by decide +kernel
    rw [Milliseconds.round, wholeMilliseconds, same] at rounded
    exact (Except.ok.inj rounded).symm
  subst two
  refine ⟨line, written, back.mpr fun text there => ?_⟩
  rcases List.mem_cons.mp there with rfl | there
  · exact fun frail => frail.1.1 (by decide)
  · cases List.mem_singleton.mp there
    exact fun frail => frail.1.2 (by decide)

/-- **An error with a break of a line** and neither a comma nor a quote makes two records. -/
theorem not_read_back_when_broken :
    ¬ ∀ (m : Measurement) (elapsed : ℚ), m.elapsed.value? = some elapsed →
      ∃ ms line, m.elapsed.round = .ok ms ∧ Decimal.IsNearest elapsed ms ∧ m.csvLine = .ok line ∧
        Csv.read line =
          some [[m.file ++ ":" ++ toString m.line ++ ":" ++ toString m.column, toString ms,
            toString m.count] ++ m.error.toList] := by
  intro always
  let m : Measurement :=
    { file := "a.ql", line := 1, column := 1, elapsed := .whole 1, count := 0,
      error := some "a\nb" }
  obtain ⟨ms, line, rounded, -, written, back⟩ := always m 1 rfl
  have one : m.elapsed.round = .ok 1 := rfl
  have made : m.csvLine = .ok (csvRecord (m.csvFields 1)) := rfl
  rw [one, Except.ok.injEq] at rounded
  rw [made, Except.ok.injEq] at written
  subst rounded written
  have two : Csv.read (csvRecord (m.csvFields 1)) =
      some [["a.ql:1:1", "1", "0", "a"], ["b"]] := by decide
  rw [two] at back
  exact absurd back (by decide)

end Measurement

end ProbeBench
