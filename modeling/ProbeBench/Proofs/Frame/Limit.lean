import ProbeBench.Proofs.Frame.Keeping

/-!
# Headers longer than the limit

A decoder gives up a header when more octets than the limit wait for its end. It looks at that only
where a chunk ends: a header whose end arrives before anybody looks is read, however long it is. So
whether a long header costs its frame depends on how the stream is cut.

* `Moment`: in a run of a decoder, an octet comes to the front of the buffer.
* `CutLate`: a chunk ends within a header, behind more octets of it than the limit.
* `Gives`: what a header gives together with the octets behind it.
* `feedAll_of_cutLate`, `feedAll_of_gives`: what comes first out of a stream, by how it is cut.
* `Moment.limit_at_borders`: the result, for every header that comes to the front.
* `Moment.long_header_taken`: a frame whose header is too long, and which gives its message.
-/

namespace ProbeBench.Frame

open Decoder

/-! ## Moments of a run -/

/-- What goes on from the middle of a buffer that is drained. -/
theorem Passes.drain_eq {buffer rest : Decoder} {taken : List Item} (h : Passes buffer taken rest) :
    drain buffer = (taken ++ (drain rest).1, (drain rest).2) := by
  induction h with
  | stay => rfl
  | take next shorter later ih => rw [drain_of_some next, ih, List.cons_append]

/-- A moment of a run: the chunks `earlier` have been fed, and of what `chunk` adds to the buffer
the items `taken` have been taken off, so that `front` is what the decoder looks at. The chunks
`later` are still to come. -/
structure Moment where
  earlier : List (List UInt8)
  chunk : List UInt8
  later : List (List UInt8)
  taken : List Item
  front : Decoder
  passes : Passes ((feedAll [] earlier).2 ++ chunk) taken front

namespace Moment

/-- All items of the run. -/
def items (m : Moment) : List Item := (feedAll [] (m.earlier ++ m.chunk :: m.later)).1

/-- The items that have come out so far. -/
def before (m : Moment) : List Item := (feedAll [] m.earlier).1 ++ m.taken

/-- The octets from the front of the buffer on, in the pieces in which the decoder gets to see
them. -/
def pieces (m : Moment) : List (List UInt8) := m.front :: m.later

/-- **From any moment on** a decoder does what a new one does that is fed with what it looks at. -/
theorem items_eq (m : Moment) : m.items = m.before ++ (feedAll [] m.pieces).1 := by
  have drained : feed (feedAll [] m.earlier).2 m.chunk =
      (m.taken ++ (drain m.front).1, (drain m.front).2) := m.passes.drain_eq
  have fed : feed [] m.front = drain m.front := rfl
  rw [items, before, pieces, feedAll_append, feedAll, feedAll, drained, fed]
  simp only [List.append_assoc]

end Moment

/-! ## Borders between chunks -/

/-- More octets than the limit have come, and the header or its end is not there as a whole. -/
def Late (header arrived : List UInt8) : Prop :=
  maxHeader < arrived.length ∧ arrived.length < header.length + terminator.length

/-- A chunk ends late within a header, where the chunks begin with the header. -/
def CutLate (header : List UInt8) (chunks : List (List UInt8)) : Prop :=
  ∃ first rest, chunks = first ++ rest ∧ Late header first.flatten

theorem not_late_nil (header : List UInt8) : ¬ Late header [] := by
  rintro ⟨late, -⟩
  simp at late

theorem Late.cutLate {header chunk : List UInt8} (h : Late header chunk)
    (chunks : List (List UInt8)) : CutLate header (chunk :: chunks) :=
  ⟨[chunk], chunks, rfl, by simpa using h⟩

theorem cutLate_singleton {header chunk : List UInt8} :
    CutLate header [chunk] ↔ Late header chunk := by
  constructor
  · rintro ⟨first, rest, e, late⟩
    match first, e with
    | [], _ => exact absurd late (not_late_nil header)
    | [_], e =>
      cases e
      simpa using late
  · intro late
    exact late.cutLate []

/-- The first chunk ends late, or a later one does; then it also does where the first two chunks are
one. -/
theorem cutLate_cons_cons {header chunk next : List UInt8} {more : List (List UInt8)} :
    CutLate header (chunk :: next :: more) ↔
      Late header chunk ∨ CutLate header ((chunk ++ next) :: more) := by
  constructor
  · rintro ⟨first, rest, e, late⟩
    match first, e with
    | [], _ => exact absurd late (not_late_nil header)
    | [_], e =>
      cases e
      exact .inl (by simpa using late)
    | _ :: _ :: first, e =>
      cases e
      exact .inr ⟨(chunk ++ next) :: first, rest, rfl, by simpa using late⟩
  · rintro (late | ⟨first, rest, e, late⟩)
    · exact late.cutLate _
    · match first, e with
      | [], _ => exact absurd late (not_late_nil header)
      | _ :: first, e =>
        cases e
        exact ⟨chunk :: next :: first, rest, rfl, by simpa using late⟩

/-- A header that is cut late has not come as a whole with the first chunk. -/
theorem CutLate.few {header chunk : List UInt8} {chunks : List (List UInt8)}
    (h : CutLate header (chunk :: chunks)) :
    chunk.length < header.length + terminator.length := by
  obtain ⟨first, rest, e, late⟩ := h
  match first, e with
  | [], _ => exact absurd late (not_late_nil header)
  | _ :: first, e =>
    cases e
    have within := late.2
    rw [List.flatten_cons, List.length_append] at within
    omega

/-- A header that leaves room for its end within the limit is never cut late. -/
theorem not_cutLate_of_short {header : List UInt8} (short : header.length + 3 ≤ maxHeader)
    (chunks : List (List UInt8)) : ¬ CutLate header chunks := by
  have four : terminator.length = 4 := rfl
  rintro ⟨first, rest, -, late, within⟩
  omega

/-! ## A header at the front -/

/-- What a header gives when `rest` follows its end: its fault, or what is in the body that it
announces, once the body is there. -/
inductive Gives (header rest : List UInt8) : Item → Prop
  | refused {fault : Fault} (declared : declaredLength header = .error fault) :
      Gives header rest (.fault fault)
  | body {body behind : List UInt8} (declared : declaredLength header = .ok body.length)
      (there : rest = body ++ behind) : Gives header rest (decodeBody body)

theorem Gives.append {header rest : List UInt8} {item : Item} (h : Gives header rest item)
    (more : List UInt8) : Gives header (rest ++ more) item := by
  cases h with
  | refused declared => exact .refused declared
  | body declared there => exact .body declared (by rw [there, List.append_assoc])

/-- A header gives one item only. -/
theorem Gives.unique {header rest : List UInt8} {item other : Item} (h : Gives header rest item)
    (g : Gives header rest other) : item = other := by
  cases h with
  | refused declared =>
    cases g with
    | refused again =>
      rw [declared, Except.error.injEq] at again
      rw [again]
    | body again there =>
      rw [declared] at again
      cases again
  | body declared there =>
    cases g with
    | refused again =>
      rw [declared] at again
      cases again
    | body again other =>
      rw [declared, Except.ok.injEq] at again
      rw [(List.append_inj (there.symm.trans other) again).1]

/-- The header ends where its end first stands, so a part of them holds no end. -/
theorem HeaderEnds.find?_of_few {part rest : List UInt8} {stop : Nat}
    (ends : HeaderEnds (part ++ rest) stop) (few : part.length < stop + terminator.length) :
    Text.find? terminator part = none := by
  cases hs : Text.find? terminator part with
  | none => rfl
  | some found =>
    have bound := Text.find?_le hs
    have same := Text.find?_append hs rest (by decide)
    rw [Text.find?_eq_some_iff.mpr ends, Option.some.injEq] at same
    omega

/-- Octets at the end that are not there yet do not matter to where the header ends. -/
theorem HeaderEnds.of_append {header start more : List UInt8}
    (ends : HeaderEnds (header ++ terminator ++ start ++ more) header.length) :
    HeaderEnds (header ++ terminator ++ start) header.length := by
  refine ⟨by simp, fun k before there => ends.2 k before (there.trans ?_)⟩
  have within : k ≤ (header ++ terminator ++ start).length := by
    simp only [List.length_append]
    omega
  rw [List.drop_append_of_le_length within]
  exact List.prefix_append ..

/-- **A header that has ended** is taken off with what it gives, however long it is, or its body is
not there yet. -/
theorem next?_of_ended {header rest : List UInt8}
    (ends : HeaderEnds (header ++ terminator ++ rest) header.length) :
    (next? (header ++ terminator ++ rest) = none ∧ ∀ item, ¬ Gives header rest item) ∨
      ∃ item left, next? (header ++ terminator ++ rest) = some (item, left) ∧
        Gives header rest item := by
  have front : (header ++ terminator ++ rest).take header.length = header := by
    rw [List.append_assoc, List.take_left]
  cases declared : declaredLength header with
  | error fault =>
    have hn := next?_of_error (Text.find?_eq_some_iff.mpr ends) (front.symm ▸ declared)
    exact .inr ⟨_, _, hn, .refused declared⟩
  | ok length =>
    have hn := next?_of_declared declared rest
    by_cases short : rest.length < length
    · refine .inl ⟨by rw [hn, if_pos short], fun item gives => ?_⟩
      cases gives with
      | refused again =>
        rw [declared] at again
        cases again
      | body again there =>
        rw [declared, Except.ok.injEq] at again
        rw [there, List.length_append] at short
        omega
    · rw [if_neg short] at hn
      refine .inr ⟨_, _, hn, .body ?_ (List.take_append_drop length rest).symm⟩
      rw [declared, List.length_take, Nat.min_eq_left (Nat.le_of_not_lt short)]

/-! ## Chunk by chunk -/

/-- A chunk of which nothing can be taken off is one chunk with the next. -/
theorem feedAll_of_idle {chunk : List UInt8} (hn : next? chunk = none) (next : List UInt8)
    (more : List (List UInt8)) :
    feedAll [] (chunk :: next :: more) = feedAll [] ((chunk ++ next) :: more) := by
  have first : feed [] chunk = ([], chunk) := drain_of_none hn
  rw [feedAll, first, feedAll, feedAll]
  rfl

/-- What can be taken off the first chunk comes out first. -/
theorem feedAll_of_next {chunk rest : List UInt8} {item : Item}
    (hn : next? chunk = some (item, rest)) (more : List (List UInt8)) :
    ∃ items, (feedAll [] (chunk :: more)).1 = item :: items := by
  have first : feed [] chunk = (item :: (drain rest).1, (drain rest).2) := drain_of_some hn
  rw [feedAll, first]
  exact ⟨_, rfl⟩

/-- While a header has not ended, it is given up where the chunk ends late, and else waited for. -/
theorem next?_of_few {header chunk rest : List UInt8}
    (ends : HeaderEnds (chunk ++ rest) header.length)
    (few : chunk.length < header.length + terminator.length) :
    (¬ Late header chunk ∧ next? chunk = none) ∨
      (Late header chunk ∧
        ∃ dropped left, next? chunk = some (.fault (.oversized dropped), left)) := by
  have hn := next?_of_open (ends.find?_of_few few)
  by_cases fits : chunk.length ≤ maxHeader
  · rw [if_pos fits] at hn
    exact .inl ⟨fun late => absurd late.1 (Nat.not_lt_of_le fits), hn⟩
  · rw [if_neg fits] at hn
    exact .inr ⟨⟨Nat.lt_of_not_le fits, few⟩, _, _, hn⟩

/-- **A header that is cut late** is given up before anything else comes out. -/
theorem feedAll_of_cutLate {header chunk : List UInt8} {chunks : List (List UInt8)}
    (ends : HeaderEnds (chunk ++ chunks.flatten) header.length)
    (cut : CutLate header (chunk :: chunks)) :
    ∃ dropped items, (feedAll [] (chunk :: chunks)).1 = .fault (.oversized dropped) :: items := by
  induction chunks generalizing chunk with
  | nil =>
    rcases next?_of_few ends cut.few with ⟨early, -⟩ | ⟨-, dropped, left, hn⟩
    · exact absurd (cutLate_singleton.mp cut) early
    · exact ⟨dropped, feedAll_of_next hn []⟩
  | cons second more ih =>
    rcases next?_of_few ends cut.few with ⟨early, idle⟩ | ⟨-, dropped, left, hn⟩
    · rw [feedAll_of_idle idle]
      rw [List.flatten_cons, ← List.append_assoc] at ends
      exact ih ends ((cutLate_cons_cons.mp cut).resolve_left early)
    · exact ⟨dropped, feedAll_of_next hn (second :: more)⟩

/-- **A header that is not cut late** gives what it gives in a stream that is there as a whole. -/
theorem feedAll_of_gives {header rest chunk : List UInt8} {chunks : List (List UInt8)} {item : Item}
    (e : chunk ++ chunks.flatten = header ++ terminator ++ rest)
    (ends : HeaderEnds (chunk ++ chunks.flatten) header.length)
    (uncut : ¬ CutLate header (chunk :: chunks)) (gives : Gives header rest item) :
    ∃ items, (feedAll [] (chunk :: chunks)).1 = item :: items := by
  induction chunks generalizing chunk with
  | nil =>
    rw [List.flatten_nil, List.append_nil] at e ends
    subst e
    rcases next?_of_ended ends with ⟨-, nothing⟩ | ⟨other, left, hn, given⟩
    · exact absurd gives (nothing item)
    · cases given.unique gives
      exact feedAll_of_next hn []
  | cons second more ih =>
    have merged : next? chunk = none →
        ∃ items, (feedAll [] (chunk :: second :: more)).1 = item :: items := by
      intro idle
      rw [feedAll_of_idle idle]
      rw [List.flatten_cons, ← List.append_assoc] at e ends
      exact ih e ends fun cut => uncut (cutLate_cons_cons.mpr (.inr cut))
    by_cases few : chunk.length < header.length + terminator.length
    · rcases next?_of_few ends few with ⟨-, idle⟩ | ⟨late, -⟩
      · exact merged idle
      · exact absurd (late.cutLate (second :: more)) uncut
    · obtain ⟨start, rfl, rfl⟩ :=
        exists_between e (by rw [List.length_append]; exact Nat.le_of_not_lt few)
      rcases next?_of_ended ends.of_append with ⟨idle, -⟩ | ⟨other, left, hn, given⟩
      · exact merged idle
      · cases (given.append _).unique gives
        exact feedAll_of_next hn (second :: more)

/-! ## The result -/

/-- **The limit is looked at where chunks end.** Whenever octets come to the front of the buffer, in
whatever run, let a header end in the stream from there on. If a chunk ends within the header or its
end, behind more octets of it than the limit, then the next item is the fault of a header that is
too long. If no chunk ends there, then the next item is what the header gives, however long it is.
A header that leaves room for its end within the limit always gives that. -/
theorem Moment.limit_at_borders (m : Moment) {header rest : List UInt8}
    (stream : m.pieces.flatten = header ++ terminator ++ rest)
    (ends : HeaderEnds m.pieces.flatten header.length) :
    (CutLate header m.pieces →
      ∃ dropped more, m.items = m.before ++ .fault (.oversized dropped) :: more) ∧
    (¬ CutLate header m.pieces →
      ∀ item, Gives header rest item → ∃ more, m.items = m.before ++ item :: more) ∧
    (header.length + 3 ≤ maxHeader → ¬ CutLate header m.pieces) := by
  rw [m.items_eq]
  refine ⟨fun cut => ?_, fun uncut item gives => ?_, fun short => not_cutLate_of_short short _⟩
  · obtain ⟨dropped, items, first⟩ := feedAll_of_cutLate ends cut
    exact ⟨dropped, items, congrArg _ first⟩
  · obtain ⟨items, first⟩ := feedAll_of_gives stream ends uncut gives
    exact ⟨items, congrArg _ first⟩

/-! ## A long header -/

/-- A header of two lines, the second of which has `n` letters behind its name. -/
def paddedHeader (n : Nat) : List UInt8 :=
  ascii "Content-Length: 2" ++ 13 :: 10 :: (ascii "x:" ++ List.replicate n 97)

theorem declaredLength_paddedHeader (n : Nat) : declaredLength (paddedHeader n) = .ok 2 := by
  have first : scanLine none (ascii "Content-Length: 2") = .ok (some 2) := rfl
  have second : scanLine (some 2) (ascii "x:" ++ List.replicate n 97) = .ok (some 2) := by
    simp [scanLine, ascii, beginsWith, lengthField, small]
  have lines : Text.splitPair 13 10 (paddedHeader n) =
      [ascii "Content-Length: 2", ascii "x:" ++ List.replicate n 97] := by
    rw [paddedHeader, Text.splitPair_append_pair (by decide),
      Text.splitPair_of_not_mem 10 (by decide),
      Text.splitPair_of_not_mem 10 (by simp [ascii])]
    rfl
  refine declaredLength_of_reads ?_ (by decide)
  rw [Reads, lines, scanLines, first]
  simp only [scanLines, second]
  rfl

/-- The octets of an empty object. -/
def emptyObject : List UInt8 := ascii "\x7b\x7d"

theorem gives_paddedHeader (n : Nat) : Gives (paddedHeader n) emptyObject (.message []) :=
  .body (declaredLength_paddedHeader n) (List.append_nil emptyObject).symm

theorem headerEnds_paddedHeader (n : Nat) :
    HeaderEnds (paddedHeader n ++ terminator ++ emptyObject) (paddedHeader n).length :=
  Text.find?_eq_some_iff.mp
    (find?_of_reads (reads_of_declaredLength (declaredLength_paddedHeader n)).1 emptyObject)

theorem length_paddedHeader (n : Nat) : (paddedHeader n).length = n + 21 := by
  simp [paddedHeader, ascii]

namespace Moment

/-- A stream has come to a new decoder. -/
def start (front : List UInt8) (later : List (List UInt8)) : Moment where
  earlier := []
  chunk := front
  later := later
  taken := []
  front := front
  passes := .stay front

/-- A frame with a short header has been taken off the chunk in which `front` has come. -/
def second (front : List UInt8) (later : List (List UInt8)) : Moment where
  earlier := []
  chunk := ascii "Content-Length: 2" ++ terminator ++ (emptyObject ++ front)
  later := later
  taken := [.message []]
  front := front
  passes := by
    have declared : declaredLength (ascii "Content-Length: 2") = .ok 2 := rfl
    refine .take (next?_of_declared declared (emptyObject ++ front)) ?_ (.stay front)
    have two : emptyObject.length = 2 := rfl
    simp only [List.length_append, List.length_drop]
    omega

/-- The second of two frames in one chunk gives its message, though its header is too long; it is
given up where a chunk ends before the last octet of the header's end. -/
theorem limit_at_borders_second :
    maxHeader < (paddedHeader maxHeader).length ∧
    (let m := second (paddedHeader maxHeader ++ terminator ++ emptyObject) []
    ∃ more, m.items = m.before ++ .message [] :: more) ∧
    (let m := second (paddedHeader maxHeader ++ [13, 10, 13]) [10 :: emptyObject]
    ∃ dropped more, m.items = m.before ++ .fault (.oversized dropped) :: more) := by
  have long := length_paddedHeader maxHeader
  have ends := headerEnds_paddedHeader maxHeader
  have four : terminator.length = 4 := rfl
  refine ⟨by omega, ?_, ?_⟩
  · have stream : ∀ front, (second front []).pieces.flatten = front := by
      intro front
      simp [pieces, second]
    refine (limit_at_borders _ (stream _) (by rwa [stream])).2.1 (fun cut => ?_) _
      (gives_paddedHeader maxHeader)
    have few := cut.few
    simp only [second, List.length_append] at few
    omega
  · have stream : ∀ header, (second (header ++ [13, 10, 13]) [10 :: emptyObject]).pieces.flatten =
        header ++ terminator ++ emptyObject := by
      intro header
      simp [pieces, second, terminator]
    refine (limit_at_borders _ (stream _) (by rwa [stream])).1 (Late.cutLate ⟨?_, ?_⟩ _)
    · simp only [second, List.length_append]
      omega
    · simp only [second, List.length_append, List.length_cons, List.length_nil]
      omega

/-- **A header that is too long** does not always give a fault. -/
theorem long_header_taken :
    ¬ ∀ (m : Moment) (header rest : List UInt8),
      m.pieces.flatten = header ++ terminator ++ rest →
        HeaderEnds m.pieces.flatten header.length → maxHeader < header.length →
          ∃ fault more, m.items = m.before ++ .fault fault :: more := by
  intro enforced
  let m := start (paddedHeader maxHeader ++ terminator ++ emptyObject) []
  have stream : m.pieces.flatten = paddedHeader maxHeader ++ terminator ++ emptyObject := by
    simp [m, pieces, start]
  have ends : HeaderEnds m.pieces.flatten (paddedHeader maxHeader).length :=
    stream ▸ headerEnds_paddedHeader maxHeader
  have long : maxHeader < (paddedHeader maxHeader).length := by
    rw [length_paddedHeader]
    omega
  have uncut : ¬ CutLate (paddedHeader maxHeader) m.pieces := by
    intro cut
    have few := cut.few
    simp only [m, start, List.length_append] at few
    omega
  obtain ⟨fault, more, faulty⟩ := enforced m _ _ stream ends long
  obtain ⟨items, taken⟩ := feedAll_of_gives stream ends uncut (gives_paddedHeader maxHeader)
  rw [m.items_eq, List.append_cancel_left_eq, pieces, taken] at faulty
  cases faulty

end Moment

end ProbeBench.Frame
