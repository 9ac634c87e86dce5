import ProbeBench.Proofs.Bench.Script

/-!
# The server's copy

A server that applies the messages about documents holds a copy of every document that is open: its
version and its text (`Copies.hear`). Along the whole script, at whatever message one stops, there
is at most one copy, and it is `Faithful`: an odd version is the file's own text, and an even one,
which lasts from the edit of a probe until its revert, is the text of that probe.

* `ProbeTells.copies`, `ProbesTell.copies`, `FileTells.copies`: from a probe to a file.
* `FilesTell.held`: what a server holds of all files.
-/

namespace ProbeBench

/-- The copies of the open documents by their URIs: versions and texts. -/
def Copies := String → Option (Int × String)

namespace Copies

/-- No document is open. -/
def empty : Copies := fun _ => none

/-- Just this document is open. -/
def only (d : Document) (copy : Int × String) : Copies :=
  fun uri => if uri = d.uri then some copy else none

/-- Opens, changes or closes a document. -/
def set (copies : Copies) (uri : String) (copy : Option (Int × String)) : Copies :=
  fun other => if other = uri then copy else copies other

/-- The version that a message states. -/
def versionOf (document : Json) : Int :=
  match document.get? "version" with
  | some (.int version) => version
  | _ => 0

/-- The text that a message states. -/
def textOf (holder : Json) : String :=
  match holder.get? "text" with
  | some (.str text) => text
  | _ => ""

/-- What a server holds that has heard a message. Of the changes in one message, each of which is a
whole text, the last one counts. -/
def hear (copies : Copies) (message : Members) : Copies :=
  let params := (message.get? "params").getD .null
  let document := (params.get? "textDocument").getD .null
  match message.get? "method", document.get? "uri" with
  | some (.str method), some (.str uri) =>
    if method = "textDocument/didOpen" then
      copies.set uri (some (versionOf document, textOf document))
    else if method = "textDocument/didChange" then
      match params.get? "contentChanges" with
      | some (.arr changes) =>
        copies.set uri ((copies uri).map fun _ =>
          (versionOf document, textOf (changes.getLast?.getD .null)))
      | _ => copies
    else if method = "textDocument/didClose" then copies.set uri none
    else copies
  | _, _ => copies

/-- What a server holds that has heard messages. -/
def hears (copies : Copies) (messages : List Members) : Copies := messages.foldl hear copies

theorem hears_append (copies : Copies) (messages more : List Members) :
    copies.hears (messages ++ more) = (copies.hears messages).hears more :=
  List.foldl_append

theorem hear_changed (d : Document) (copy : Int × String) (version : Int) (text : String) :
    (only d copy).hear (d.changed version text) = only d (version, text) := by
  have e : (only d copy).hear (d.changed version text) =
      (only d copy).set d.uri ((only d copy d.uri).map fun _ => (version, text)) := rfl
  rw [e]
  funext uri
  by_cases own : uri = d.uri
  · simp [set, only, own]
  · simp [set, only, own]

theorem hear_closed (d : Document) (copy : Int × String) : (only d copy).hear d.closed = empty := by
  have e : (only d copy).hear d.closed = (only d copy).set d.uri none := rfl
  rw [e]
  funext uri
  by_cases own : uri = d.uri
  · simp [set, empty, own]
  · simp [set, only, empty, own]

theorem hear_question (copies : Copies) {d : Document} {c : Probe.Candidate} (q : Question d c)
    (mode : Probe.Mode) : copies.hear (q.message mode) = copies := by
  cases mode <;> rfl

end Copies

/-- A copy is the document's own text under an odd version, and a text of a probe under an even
one. -/
inductive Faithful (mode : Probe.Mode) (d : Document) : Int × String → Prop
  | own (i : Nat) : Faithful mode d (2 * i + 1, d.text)
  | probe (i : Nat) {c : Probe.Candidate} (mem : c ∈ Probe.candidates d.lines) :
      Faithful mode d (2 * i, d.probed mode c)

namespace Copies

/-- What holds of the copies at whatever message one stops. -/
def Always (p : Copies → Prop) (copies : Copies) (told : List Members) : Prop :=
  ∀ seen, seen <+: told → p (copies.hears seen)

theorem Always.nil {p : Copies → Prop} {copies : Copies} (h : p copies) : Always p copies [] := by
  intro seen hs
  rw [List.prefix_nil.mp hs]
  exact h

theorem Always.cons {p : Copies → Prop} {copies : Copies} {m : Members} {told : List Members}
    (h : p copies) (later : Always p (copies.hear m) told) : Always p copies (m :: told) := by
  intro seen hs
  rcases List.prefix_cons_iff.mp hs with rfl | ⟨rest, rfl, hr⟩
  · exact h
  · exact later rest hr

theorem Always.append {p : Copies → Prop} {copies : Copies} {told more : List Members}
    (h : Always p copies told) (later : Always p (copies.hears told) more) :
    Always p copies (told ++ more) := by
  intro seen hs
  rcases List.prefix_or_prefix_of_prefix hs (List.prefix_append told more) with first | ⟨rest, rfl⟩
  · exact h seen first
  · rw [hears_append]
    exact later rest ((List.prefix_append_right_inj told).mp hs)

theorem Always.mono {p q : Copies → Prop} {copies : Copies} {told : List Members}
    (h : Always p copies told) (hpq : ∀ copies, p copies → q copies) : Always q copies told :=
  fun seen hs => hpq _ (h seen hs)

/-- There is one copy, and it is faithful. -/
def Holds (mode : Probe.Mode) (d : Document) (copies : Copies) : Prop :=
  ∃ copy, Faithful mode d copy ∧ copies = only d copy

end Copies

open Copies

/-- The copy of a document that has been probed so often, and is not being probed. -/
def Document.own (d : Document) (probes : Nat) : Copies := only d (2 * probes + 1, d.text)

theorem Document.holds_own (d : Document) (mode : Probe.Mode) (probes : Nat) :
    Holds mode d (d.own probes) := ⟨_, .own probes, rfl⟩

theorem Probing.holds_asking (p : Probing) {d : Document} (i : Nat) {c : Probe.Candidate}
    (mem : c ∈ Probe.candidates d.lines) (q : Question d c) :
    Always (Holds p.mode d) (d.own i) (p.asking d (i + 1) q) := by
  refine .cons (d.holds_own _ i) ?_
  rw [Document.own, hear_changed]
  have edited : Holds p.mode d (only d (2 * ((i + 1 : Nat) : Int), d.probed p.mode c)) :=
    ⟨_, .probe (i + 1) mem, rfl⟩
  refine .cons edited ?_
  rw [hear_question]
  exact .nil edited

/-- **A whole probe leaves the document's own text behind.** -/
theorem Probing.holds_telling (p : Probing) {d : Document} (i : Nat) {c : Probe.Candidate}
    (mem : c ∈ Probe.candidates d.lines) (q : Question d c) (answer : Outcome) :
    Always (Holds p.mode d) (d.own i) (p.telling d (i + 1) q answer) ∧
      (d.own i).hears (p.telling d (i + 1) q answer) = d.own (i + 1) := by
  have asked : (d.own i).hears (p.asking d (i + 1) q) =
      only d (2 * ((i + 1 : Nat) : Int), d.probed p.mode c) := by
    have e : (d.own i).hears (p.asking d (i + 1) q) =
        ((d.own i).hear (d.changed (2 * ((i + 1 : Nat) : Int)) (d.probed p.mode c))).hear
          (q.message p.mode) := rfl
    rw [e, Document.own, hear_changed, hear_question]
  have edited : Holds p.mode d (only d (2 * ((i + 1 : Nat) : Int), d.probed p.mode c)) :=
    ⟨_, .probe (i + 1) mem, rfl⟩
  have withdrawn (copies : Copies) : copies.hears (cancellations q.id answer) = copies := by
    unfold cancellations
    split <;> rfl
  have reverted (copy : Int × String) :
      (only d copy).hear (d.changed (2 * ((i + 1 : Nat) : Int) + 1) d.text) = d.own (i + 1) :=
    hear_changed ..
  rw [telling]
  refine ⟨.append (.append (p.holds_asking i mem q) ?_) ?_, ?_⟩
  · rw [asked]
    unfold cancellations
    split
    · exact .cons edited (.nil edited)
    · exact .nil edited
  · rw [hears_append, asked, withdrawn]
    refine .cons edited ?_
    rw [reverted]
    exact .nil (d.holds_own _ _)
  · rw [hears_append, hears_append, asked, withdrawn]
    exact reverted _

theorem ProbeTells.holds {p : Probing} {d : Document} {i : Nat} {c : Probe.Candidate}
    {told : List Members} {r : Except Stop Measurement} (h : ProbeTells p d (i + 1) c told r)
    (mem : c ∈ Probe.candidates d.lines) :
    Always (Holds p.mode d) (d.own i) told ∧
      ∀ m, r = .ok m → (d.own i).hears told = d.own (i + 1) := by
  cases h with
  | measured q _ _ _ =>
    obtain ⟨always, left⟩ := p.holds_telling i mem q _
    exact ⟨always, fun _ _ => left⟩
  | aborted q _ _ => exact ⟨(p.holds_telling i mem q _).1, fun m hm => by cases hm⟩
  | unmeasured q _ _ => exact ⟨(p.holds_telling i mem q _).1, fun m hm => by cases hm⟩
  | hung q => exact ⟨p.holds_asking i mem q, fun m hm => by cases hm⟩

/-- **Along all probes of a document the copy is faithful**, and it is the document's own text in
the end. -/
theorem ProbesTell.holds {p : Probing} {d : Document} {i : Nat} {cs : List Probe.Candidate}
    {told : List Members} {ms : List Measurement} {r : Except Stop Nat}
    (h : ProbesTell p d (i + 1) cs told ms r) (mem : ∀ c ∈ cs, c ∈ Probe.candidates d.lines) :
    Always (Holds p.mode d) (d.own i) told ∧
      ∀ n, r = .ok n → ∃ j, (d.own i).hears told = d.own j := by
  generalize hk : i + 1 = k at h
  induction h generalizing i with
  | done => exact ⟨.nil (d.holds_own _ i), fun _ _ => ⟨i, rfl⟩⟩
  | next probe _ ih =>
    subst hk
    obtain ⟨first, left⟩ := probe.holds (mem _ List.mem_cons_self)
    obtain ⟨later, ends⟩ := ih (fun c hc => mem c (List.mem_cons_of_mem _ hc)) rfl
    have left := left _ rfl
    refine ⟨first.append (left ▸ later), fun n hn => ?_⟩
    rename_i r _ _
    cases r with
    | ok n =>
      obtain ⟨j, hj⟩ := ends n rfl
      exact ⟨j, by rw [hears_append, left, hj]⟩
    | error e => cases hn
  | stopped probe =>
    subst hk
    exact ⟨(probe.holds (mem _ List.mem_cons_self)).1, fun n hn => by cases hn⟩
  | unreported probe _ =>
    subst hk
    exact ⟨(probe.holds (mem _ List.mem_cons_self)).1, fun n hn => by cases hn⟩

/-- **Along the whole script of a file** no document is open but this one, and its copy is
faithful. -/
theorem FileTells.holds {p : Probing} {d : Document} {told : List Members} {ms : List Measurement}
    {r : Except Stop Nat} (h : FileTells p d told ms r) :
    Always (fun copies => copies = empty ∨ Holds p.mode d copies) empty told ∧
      ∀ n, r = .ok n → empty.hears told = empty := by
  have opened : empty.hear d.opened = d.own 0 := rfl
  cases h with
  | done probes =>
    obtain ⟨always, ends⟩ := ProbesTell.holds (i := 0) probes fun c hc => hc
    obtain ⟨j, hj⟩ := ends _ rfl
    have closed : (d.own j).hear d.closed = empty := hear_closed d _
    refine ⟨.cons (.inl rfl) (.append ?_ ?_), fun n _ => ?_⟩
    · rw [opened]
      exact always.mono fun _ => .inr
    · rw [opened, hj]
      refine .cons (.inr (d.holds_own _ j)) ?_
      rw [closed]
      exact .nil (.inl rfl)
    · show (empty.hear d.opened).hears _ = _
      rw [opened, hears_append, hj]
      exact closed
  | stopped probes =>
    obtain ⟨always, _⟩ := ProbesTell.holds (i := 0) probes fun c hc => hc
    refine ⟨.cons (.inl rfl) ?_, fun n hn => by cases hn⟩
    rw [opened]
    exact always.mono fun _ => .inr

/-- Every copy is one of a source: under an odd version its own text, under an even one the text of
a probe. -/
def Copies.Held (cwd : Path) (mode : Probe.Mode) (sources : List (Path × String))
    (copies : Copies) : Prop :=
  ∀ uri version text, copies uri = some (version, text) →
    ∃ source ∈ sources, uri = (source.1.resolve cwd).uri ∧
      (version % 2 = 1 → text = source.2) ∧
      (version % 2 = 0 → ∃ c ∈ Probe.candidates (.ofText source.2.toList),
        text = String.ofList (Probe.probeText source.2.toList c mode))

theorem Copies.Holds.held {cwd : Path} {mode : Probe.Mode} {sources : List (Path × String)}
    {source : Path × String} {d : Document} {copies : Copies} (h : Holds mode d copies)
    (mem : source ∈ sources) (uri : d.uri = (source.1.resolve cwd).uri) (text : d.text = source.2) :
    copies.Held cwd mode sources := by
  obtain ⟨copy, faithful, rfl⟩ := h
  intro u version t hc
  obtain ⟨own, e⟩ := Option.ite_none_right_eq_some.mp hc
  cases Option.some.inj e
  refine ⟨source, mem, own.trans uri, ?_⟩
  cases faithful with
  | own i =>
    refine ⟨fun _ => text, fun even => ?_⟩
    omega
  | @probe i c mem =>
    refine ⟨fun odd => ?_, fun _ => ⟨c, text ▸ mem, ?_⟩⟩
    · omega
    · rw [← text]
      rfl

theorem Copies.Held.mono {cwd : Path} {mode : Probe.Mode} {sources more : List (Path × String)}
    {copies : Copies} (h : copies.Held cwd mode sources) (sub : sources ⊆ more) :
    copies.Held cwd mode more := by
  intro uri version text hc
  obtain ⟨source, mem, rest⟩ := h uri version text hc
  exact ⟨source, sub mem, rest⟩

theorem Copies.held_empty (cwd : Path) (mode : Probe.Mode) (sources : List (Path × String)) :
    empty.Held cwd mode sources := by
  intro _ _ _ hc
  cases hc

/-- **At whatever message one stops, the server holds what a source says**, unless a probe is going
on. -/
theorem FilesTell.held {cwd : Path} {c : Config} {number : Nat} {sources : List (Path × String)}
    {told : List Members} {ms : List Measurement} {r : Except Stop Nat}
    (h : FilesTell cwd c number sources told ms r) :
    Always (Copies.Held cwd c.mode sources) empty told := by
  have file {number : Nat} {path : Path} {text : String} {rest : List (Path × String)}
      {d : Document} {copies : Copies}
      (hd : Document.ofFile cwd number path c.language text = .ok d)
      (hc : copies = empty ∨ Holds c.mode d copies) :
      copies.Held cwd c.mode ((path, text) :: rest) := by
    obtain rfl := Document.of_ofFile hd
    rcases hc with rfl | holds
    · exact held_empty _ _ _
    · exact holds.held List.mem_cons_self rfl rfl
  induction h with
  | done => exact .nil (held_empty _ _ _)
  | next hd tells _ ih =>
    obtain ⟨always, ends⟩ := tells.holds
    refine .append (always.mono fun _ => file hd) ?_
    rw [ends _ rfl]
    exact ih.mono fun _ held => held.mono (List.subset_cons_self _ _)
  | stopped hd tells => exact tells.holds.1.mono fun _ => file hd

end ProbeBench
