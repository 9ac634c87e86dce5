import ProbeBench.Proofs.Bench.Growing
import ProbeBench.Proofs.Bench.Releasing
import ProbeBench.Proofs.Bench.Script
import ProbeBench.Proofs.Loop.Outcome

/-!
# What a benchmark opens, and for what it never stops

Once its inputs are read, nothing that a benchmark does stops for a fault of the configuration or of
an input file, behind any server; and all it opens are its files in turn, each with the text that
was read. `Run.Opening` says both of a part of a benchmark.

* `Opening.bind`, `Opening.finish`: parts one after the other, and what is done in any case.
* `perform_opening`, `notify_opening`: calls.
* `open_opening`, `probe_opening`, `measureFiles_opening`: from a document to all files.
* `withServer_opening`: what happens while the server's program runs.
-/

namespace ProbeBench

variable {σ α β : Type} {serve : Server σ}

/-- Whether the configuration, or an input file, is to blame. -/
def Failure.isConfig : Failure → Bool
  | .config _ => true
  | _ => false

/-- If it fails, neither the configuration nor an input file is to blame. -/
structure Blameless (x : Except Failure α) : Prop where
  harmless : ∀ failure, x = .error failure → failure.isConfig = false

/-- Whether a message opens a document. -/
def isOpening (message : Members) : Bool :=
  match message.get? "method" with
  | some (.str method) => method = "textDocument/didOpen"
  | _ => false

/-- The messages that have opened documents. -/
def World.openings (w : World σ) : List Members :=
  w.loop.session.transport.wire.sent.filter isOpening

/-! ## Steps that may fail -/

theorem blameless_error {failure : Failure} (h : failure.isConfig = false) :
    Blameless (.error failure : Except Failure α) := by
  refine ⟨?_⟩
  rintro _ ⟨⟩
  exact h

theorem IsUsual.blameless {o : Outcome} (h : IsUsual o) : Blameless o := by
  refine ⟨fun failure fails => ?_⟩
  have usual := h failure fails
  cases failure with
  | config => cases usual
  | _ => rfl

namespace Blameless

theorem ok (a : α) : Blameless (.ok a : Except Failure α) :=
  ⟨nofun⟩

/-- A check that fails for another reason. -/
theorem guarded {failure : Failure} (condition : Bool) (h : failure.isConfig = false) :
    Blameless (if condition then .ok () else .error failure) := by
  cases condition with
  | true => exact ok ()
  | false => exact blameless_error h

theorem bind {x : Except Failure α} {f : α → Except Failure β} (h : Blameless x)
    (next : ∀ a, Blameless (f a)) : Blameless (x >>= f) := by
  cases x with
  | ok a => exact next a
  | error failure => exact blameless_error (h.harmless failure rfl)

theorem mapM {f : α → Except Failure β} (h : ∀ a, Blameless (f a)) (as : List α) :
    Blameless (as.mapM f) := by
  induction as with
  | nil => exact ok []
  | cons a rest ih =>
    rw [List.mapM_cons]
    exact (h a).bind fun b => ih.bind fun bs => ok (b :: bs)

theorem require (condition : Bool) (reason : String) (env : Members) :
    Blameless (require condition reason env) :=
  guarded condition rfl

theorem checkInt (field : String) (low high : Int) (value : Json) :
    Blameless (Protocol.checkInt field low high value) :=
  guarded _ rfl

theorem checkText (value : Json) : Blameless (Protocol.checkText value) := by
  unfold Protocol.checkText
  split
  · exact ok ()
  · exact blameless_error rfl

theorem position (line character : Json) : Blameless (Protocol.position line character) :=
  (checkInt ..).bind fun _ => (checkInt ..).bind fun _ => ok _

theorem atPosition (uri line character : Json) :
    Blameless (Protocol.atPosition uri line character) :=
  (position line character).bind fun _ => (checkText uri).bind fun _ => ok _

theorem didChange (uri version text : Json) : Blameless (Protocol.didChange uri version text) :=
  (checkInt ..).bind fun _ => (checkText uri).bind fun _ => (checkText text).bind fun _ => ok _

theorem didClose (uri : Json) : Blameless (Protocol.didClose uri) :=
  (checkText uri).bind fun _ => ok _

theorem located (cwd path : Path) : Blameless (Protocol.located cwd path) := by
  unfold Protocol.located
  split
  · exact blameless_error rfl
  · exact ok _

theorem handshake (processId : Int) (cwd : Path) (roots : List Path) :
    Blameless (Protocol.handshake processId cwd roots) :=
  (mapM (fun path => (located cwd path).bind fun _ => ok _) roots).bind fun _ => ok _

theorem ofFile (cwd : Path) (number : Nat) (path : Path) (language text : String) :
    Blameless (Document.ofFile cwd number path language text) :=
  (located cwd path).bind fun _ => ok _

theorem toDouble (s : Seconds) : Blameless s.toDouble := by
  cases s with
  | real x => exact ok x
  | whole n =>
    unfold Seconds.toDouble
    simp only
    cases Decimal.double? n with
    | some x => exact ok x
    | none => exact blameless_error rfl

theorem since (ended started : Seconds) : Blameless (ended.since started) := by
  unfold Seconds.since
  split
  · exact ok _
  · exact (toDouble _).bind fun _ => (toDouble _).bind fun _ => ok _

theorem toMilliseconds (s : Seconds) : Blameless s.toMilliseconds :=
  (toDouble s).bind fun _ => ok _

theorem round (ms : Milliseconds) : Blameless ms.round := by
  cases ms with
  | whole n => exact ok n
  | real x =>
    unfold Milliseconds.round wholeMilliseconds
    simp only
    split
    · exact ok _
    · exact blameless_error rfl
    · exact blameless_error rfl

theorem report (m : Measurement) (format : Format) : Blameless (m.report format) := by
  cases format with
  | human => exact (round m.elapsed).bind fun _ => ok _
  | csv => exact (round m.elapsed).bind fun _ => ok _

end Blameless

/-! ## Parts of a benchmark -/

/-- What a part of a benchmark comes to that opens documents with these messages in turn: it has
opened all of them, or it has stopped somewhere among them, and then neither the configuration nor
an input file is to blame. -/
structure World.Opens (messages : List Members) (w : World σ) (r : Except Stop α)
    (w' : World σ) : Prop where
  usual : w'.loop.Usual
  opened : ∃ new, w'.openings = w.openings ++ new ∧ new <+: messages ∧
    (r.isOk = true → new = messages)
  blameless : ∀ failure, r = .error (.failed failure) → failure.isConfig = false

/-- A part of a benchmark that opens documents with these messages in turn. -/
def Run.Opening (messages : List Members) (x : Run σ α) : Prop :=
  ∀ w : World σ, w.loop.Usual → w.Opens messages (x w).1 (x w).2

/-- What opens nothing, and has stopped for another reason if it has stopped. -/
theorem World.Opens.still {w w' : World σ} {r : Except Stop α} (usual : w'.loop.Usual)
    (same : w'.openings = w.openings)
    (blameless : ∀ failure, r = .error (.failed failure) → failure.isConfig = false) :
    w.Opens [] r w' :=
  ⟨usual, ⟨[], by rw [same, List.append_nil], List.prefix_refl _, fun _ => rfl⟩, blameless⟩

namespace Run

variable {messages more : List Members} {x : Run σ α} {f : α → Run σ β}

theorem Opening.pure (a : α) : Opening [] (Pure.pure a : Run σ α) :=
  fun _ usual => .still usual rfl nofun

theorem Opening.stop {e : Stop}
    (blameless : ∀ failure, e = .failed failure → failure.isConfig = false) :
    Opening [] (Run.stop e : Run σ α) := by
  refine fun _ usual => .still usual rfl ?_
  rintro failure ⟨⟩
  exact blameless failure rfl

theorem Opening.fail {failure : Failure} (blameless : failure.isConfig = false) :
    Opening [] (Run.fail failure : Run σ α) := by
  refine .stop ?_
  rintro _ ⟨⟩
  exact blameless

theorem Opening.lift {x : Except Failure α} (blameless : Blameless x) :
    Opening [] (Run.lift x : Run σ α) := by
  cases x with
  | ok a => exact .pure a
  | error failure => exact .fail (blameless.harmless failure rfl)

theorem Opening.read (f : World σ → α) : Opening [] (Run.read f) :=
  fun _ usual => .still usual rfl nofun

/-- A change that opens nothing. -/
theorem Opening.change {f : World σ → World σ}
    (keeps : ∀ w : World σ, w.loop.Usual → (f w).loop.Usual ∧ (f w).openings = w.openings) :
    Opening [] (Run.change f) :=
  fun w usual => .still (keeps w usual).1 (keeps w usual).2 nofun

/-- A change of what the benchmark keeps for itself. -/
theorem Opening.note {f : World σ → World σ} (same : ∀ w : World σ, (f w).loop = w.loop) :
    Opening [] (Run.change f) := by
  refine .change fun w usual => ⟨same w ▸ usual, ?_⟩
  unfold World.openings
  rw [same]

theorem Opening.enter (phase : Phase) : Opening [] (Run.enter phase : Run σ Unit) :=
  .note fun _ => rfl

theorem Opening.now : Opening [] (Run.now : Run σ Seconds) := by
  intro w usual
  obtain ⟨t, clock, read⟩ := Probing.now_reads w
  rw [read]
  exact .still usual rfl nofun

theorem Opening.warn (text : String) : Opening [] (Run.warn text : Run σ Unit) := by
  intro w usual
  obtain ⟨warnings, warned⟩ := Probing.warn_keeps text w
  rw [warned]
  exact .still ⟨(World.Grows.noted w w.clock warnings).tidy usual.tidy, usual.traffic.truthful,
    usual.traffic.stages, usual.traffic.finished⟩ rfl nofun

/-- **Parts one after the other.** What the second part is given, the first part has come to. -/
theorem Opening.bind (h : Opening messages x)
    (next : ∀ (w : World σ) (a : α), w.loop.Usual → (x w).1 = .ok a → Opening more (f a)) :
    Opening (messages ++ more) (x >>= f) := by
  intro w usual
  have first := h w usual
  obtain ⟨new, told, begun, all⟩ := first.opened
  cases ended : x w with
  | mk r v =>
    rw [ended] at first told all
    cases r with
    | error e =>
      rw [run_bind_error ended]
      refine ⟨first.usual, ⟨new, told, begun.trans (List.prefix_append _ _), nofun⟩, ?_⟩
      rintro failure ⟨⟩
      exact first.blameless failure rfl
    | ok a =>
      rw [run_bind_ok ended]
      have second := next w a usual (congrArg Prod.fst ended) v first.usual
      obtain ⟨new', told', begun', all'⟩ := second.opened
      have same : new = messages := all rfl
      subst same
      refine ⟨second.usual, ⟨new ++ new', ?_, (List.prefix_append_right_inj new).mpr begun',
        fun done => by rw [all' done]⟩, second.blameless⟩
      rw [told', told, List.append_assoc]

/-- Parts of which the second one does not depend on what the first one gives. -/
theorem Opening.before (h : Opening messages x) (next : ∀ a, Opening more (f a)) :
    Opening (messages ++ more) (x >>= f) :=
  h.bind fun _ a _ _ => next a

/-- What a part ends with is not yet the end. -/
theorem Opening.attempt (h : Opening [] x) : Opening [] (Run.attempt x) := by
  intro w usual
  have ends := h w usual
  obtain ⟨new, told, begun, -⟩ := ends.opened
  rw [List.prefix_nil.mp begun, List.append_nil] at told
  exact .still ends.usual told nofun

/-- **What is done in any case** behind a part, which then ends as it has ended. -/
theorem Opening.finish {y : Run σ β} (h : Opening messages x) (last : Opening [] y) :
    Opening messages (Run.attempt x >>= fun r => y >>= fun _ => Run.resume r) := by
  intro w usual
  have first := h w usual
  rw [run_bind_ok (run_attempt x w)]
  have second := last (x w).2 first.usual
  obtain ⟨new, told, begun, all⟩ := first.opened
  obtain ⟨new', told', begun', -⟩ := second.opened
  rw [List.prefix_nil.mp begun', List.append_nil, told] at told'
  cases ended : y (x w).2 with
  | mk r v =>
    rw [ended] at second told'
    cases r with
    | error e =>
      rw [run_bind_error ended]
      refine ⟨second.usual, ⟨new, told', begun, nofun⟩, ?_⟩
      rintro failure ⟨⟩
      exact second.blameless failure rfl
    | ok b =>
      rw [run_bind_ok ended]
      have resumed : Run.resume (x w).1 v = ((x w).1, v) := by
        cases (x w).1 <;> rfl
      rw [resumed]
      exact ⟨second.usual, ⟨new, told', begun, all⟩, first.blameless⟩

end Run

open Run (Opening)

/-! ## Calls -/

theorem notOpening_own : OwnNotices fun message => isOpening message = false := ⟨rfl, rfl⟩

/-- What is written without opening a document opens none. -/
theorem openings_of_adds {w w' : World σ} (adds : Session.Adds
    (fun message => isOpening message = false) w.loop.session w'.loop.session) :
    w'.openings = w.openings := by
  obtain ⟨new, sent, none⟩ := adds
  unfold World.openings
  rw [sent, List.filter_append]
  have nothing : new.filter isOpening = [] :=
    List.filter_eq_nil_iff.mpr fun m there => by simp [none m there]
  rw [nothing, List.append_nil]

theorem ofOutcome_blameless {o : Option Outcome} (usual : ∀ outcome, o = some outcome →
    IsUsual outcome) (failure : Failure) (fails : Run.ofOutcome o = .error (.failed failure)) :
    failure.isConfig = false := by
  cases o with
  | none => cases fails
  | some outcome =>
    cases outcome with
    | ok v => cases fails
    | error f =>
      cases fails
      exact (usual _ rfl).blameless.harmless failure rfl

/-- **A call that does not open a document.** -/
theorem perform_opening (serve : Server σ) {call : Call} (patient : call.patience = .inherited)
    (writes : call.Writes fun message => isOpening message = false) :
    Opening [] (Run.perform serve call) := by
  intro w usual
  obtain ⟨still, ends⟩ := Loop.perform_usual serve usual patient
  exact .still still (openings_of_adds (Loop.perform_writes notOpening_own (fun _ _ => rfl)
    (fun _ => rfl) serve usual.tidy.alone writes)) (ofOutcome_blameless ends)

theorem close_opening (serve : Server σ) : Opening [] (Run.close serve) := by
  intro w usual
  obtain ⟨still, ends⟩ := Loop.close_usual serve usual
  exact .still still (openings_of_adds (Loop.close_writes notOpening_own (fun _ _ => rfl)
    (fun _ => rfl) serve usual.tidy.alone)) (ofOutcome_blameless ends)

/-- **A notification opens a document** if that is what it says, and if it is written. -/
theorem notify_opening (serve : Server σ) (method : String) (params : Json) :
    Opening ([notification method params].filter isOpening) (Run.notify serve method params) := by
  intro w usual
  obtain ⟨still, ends⟩ := Loop.perform_usual serve usual
    (rfl : (Call.notify method params).patience = .inherited)
  obtain ⟨o, ended, sent⟩ := Loop.perform_notify_cases serve usual.tidy.unended method params
  have performed : Run.perform serve (.notify method params) w = (Run.ofOutcome (some o),
      { w with loop := (w.loop.perform serve (.notify method params)).1 }) := by
    rw [← ended]
    rfl
  have blameless := ofOutcome_blameless ends
  rw [ended] at blameless
  have told : ({ w with loop := (w.loop.perform serve (.notify method params)).1 } :
      World σ).openings = w.openings ++
        (if o.isOk then [notification method params] else []).filter isOpening := by
    rw [World.openings, World.openings, ← List.filter_append]
    exact congrArg (List.filter isOpening) sent
  rw [Run.notify, Run.run_bind_pure performed]
  refine ⟨still, ⟨_, told, ?_, ?_⟩, ?_⟩
  · cases o with
    | ok v => exact List.prefix_refl _
    | error f => exact List.nil_prefix
  · cases o with
    | ok v => exact fun _ => rfl
    | error f =>
      intro done
      cases done
  · intro failure fails
    cases o with
    | ok v => cases fails
    | error f =>
      cases fails
      exact blameless failure rfl

/-! ## Documents -/

namespace Document

/-- **Opening a document** opens it with its own text. -/
theorem open_opening (serve : Server σ) (d : Document) : Opening [d.opened] (d.open_ serve) := by
  intro w usual
  by_cases fresh : w.version d.number = firstVersion
  · rw [open_eq serve fresh]
    exact notify_opening serve "textDocument/didOpen" _ w usual
  · have looked : Run.read (fun w : World σ => w.version d.number) w =
        (.ok (w.version d.number), w) := rfl
    have refused : require (w.version d.number = firstVersion) "document opened twice"
        [("uri", .str d.uri)] = .error (.never "document opened twice" [("uri", .str d.uri)]) := by
      simp [require, fresh]
    rw [open_, Run.run_bind_ok looked, Run.run_bind_error (Run.lift_error refused w)]
    refine ⟨usual, ⟨[], (List.append_nil _).symm, List.nil_prefix, fun done => ?_⟩, ?_⟩
    · cases done
    · rintro failure ⟨⟩
      rfl

theorem replace_opening (serve : Server σ) (d : Document) (text : String) :
    Opening [] (d.replace serve text) := by
  have changed : Opening [] (Run.change fun w : World σ =>
      w.setVersion d.number (w.version d.number + 1)) := .note fun _ => rfl
  have counted : Opening [] (d.nextVersion : Run σ Int) := changed.before fun _ => .read _
  refine counted.before fun version => ?_
  refine (Opening.lift (.didChange ..)).before fun params => ?_
  exact (notify_opening serve "textDocument/didChange" params).before fun _ => .pure version

theorem close_opening (serve : Server σ) (d : Document) : Opening [] (d.close serve) :=
  (Opening.lift (.didClose _)).before fun params =>
    notify_opening serve "textDocument/didClose" params

end Document

/-! ## Probes -/

namespace Probing

/-- What the server is asked at a word and has answered, or not, is no fault of the
configuration. -/
theorem query_blameless (serve : Server σ) (p : Probing) (d : Document) (line character : Int)
    {w : World σ} {answer : Except Failure Json}
    (ended : (query serve p d line character w).1 = .ok answer) : Blameless answer := by
  cases asked : Protocol.atPosition (.str d.uri) (.int line) (.int character) with
  | error f =>
    rw [query, Run.run_bind_error (Run.lift_error asked w)] at ended
    cases ended
  | ok params =>
    rw [query, Run.run_bind_ok (Run.lift_ok asked w),
      Run.run_bind_ok (Run.run_attempt _ _)] at ended
    generalize (Run.perform serve (.request (method p.mode) params .inherited) w).1 = r at ended
    cases r with
    | ok v =>
      cases ended
      exact .ok v
    | error e =>
      cases e with
      | hung => cases ended
      | failed f =>
        dsimp only at ended
        split at ended
        · rename_i answers
          cases ended
          refine blameless_error ?_
          cases f <;> first | rfl | cases answers
        · cases ended

theorem query_opening (serve : Server σ) (p : Probing) (d : Document) (line character : Int) :
    Opening [] (query serve p d line character) := by
  refine (Opening.lift (.atPosition ..)).before fun params => ?_
  have asks : Opening [] (Run.perform serve (.request (method p.mode) params .inherited)) := by
    refine perform_opening serve rfl fun id => ?_
    cases p.mode <;> rfl
  refine asks.attempt.bind fun w r usual ended => ?_
  cases ended
  have blameless := (asks w usual).blameless
  split
  · exact .pure _
  · rename_i f same
    split
    · exact .pure _
    · exact .fail (blameless f same)
  · exact .stop nofun

theorem conclude_opening (p : Probing) (d : Document) (c : Probe.Candidate) (started : Seconds)
    {answer : Except Failure Json} (blameless : Blameless answer) :
    Opening [] (conclude p d c started answer : Run σ Measurement) := by
  refine Opening.now.before fun ended => ?_
  refine (Opening.lift ((Blameless.since _ _).bind Blameless.toMilliseconds)).before
    fun elapsed => ?_
  refine (Opening.enter _).before fun _ => ?_
  cases answer with
  | ok v => exact .pure _
  | error f =>
    dsimp only
    split
    · exact .fail (blameless.harmless f rfl)
    · exact (Opening.warn _).before fun _ => .pure _

/-- **A probe opens nothing.** -/
theorem probe_opening (serve : Server σ) (p : Probing) (d : Document) (c : Probe.Candidate) :
    Opening [] (probe serve p d c) := by
  have found : Blameless ((Probe.spot? d.lines c).elim (.error .outside) .ok) := by
    cases Probe.spot? d.lines c with
    | none => exact blameless_error rfl
    | some spot => exact .ok spot
  refine (Opening.read _).before fun phase => ?_
  refine (Opening.lift (.require ..)).before fun _ => ?_
  refine (Opening.lift found).before fun spot => ?_
  refine (Opening.lift (.position ..)).before fun _ => ?_
  refine Opening.now.before fun started => ?_
  refine (d.replace_opening serve _).before fun _ => ?_
  refine (Opening.enter _).before fun _ => ?_
  refine (Opening.enter _).before fun _ => ?_
  refine (query_opening serve p d _ _).bind fun w answer _ ended => ?_
  refine (Opening.enter _).before fun _ => ?_
  refine (d.replace_opening serve d.text).before fun _ => ?_
  exact conclude_opening p d c started (query_blameless serve p d _ _ ended)

end Probing

/-! ## Benchmarks -/

namespace Benchmark

/-- The message that opens a file with this text. -/
def openingOf (cwd : Path) (language : String) (f : Path × String) : Members :=
  Document.opened ⟨0, f.1, (f.1.resolve cwd).uri, language, f.2⟩

theorem reportTo_opening (format : Format) (m : Measurement) :
    Opening [] (reportTo format m : Run σ Unit) := by
  have kept : Opening [] (Probing.keep m : Run σ Unit) := .note fun _ => rfl
  refine kept.before fun _ => ?_
  refine (Opening.lift (.report m format)).before fun line => ?_
  exact Opening.note fun _ => rfl

theorem probeEach_opening (serve : Server σ) (p : Probing) (d : Document) (format : Format)
    (cs : List Probe.Candidate) :
    Opening [] (Probing.probeEach serve p d (reportTo format) cs) := by
  induction cs with
  | nil => exact .pure 0
  | cons c rest ih =>
    refine (Probing.probe_opening serve p d c).before fun m => ?_
    refine (reportTo_opening format m).before fun _ => ?_
    exact ih.before fun n => .pure (n + 1)

theorem measureFile_opening (serve : Server σ) (c : Config) (d : Document) :
    Opening [d.opened] (measureFile serve c d) := by
  refine (d.open_opening serve).before fun _ => ?_
  refine (probeEach_opening serve _ d c.format _).before fun n => ?_
  exact (d.close_opening serve).before fun _ => .pure n

/-- **Files are opened in turn**, each with its own text. -/
theorem measureFiles_opening (serve : Server σ) (cwd : Path) (c : Config) (number : Nat)
    (sources : List (Path × String)) :
    Opening (sources.map (openingOf cwd c.language))
      (measureFiles serve cwd c number sources) := by
  induction sources generalizing number with
  | nil => exact .pure 0
  | cons f rest ih =>
    refine (Opening.lift (.ofFile ..)).bind fun w d _ made => ?_
    have document := Document.of_ofFile (Run.lift_eq_ok (Prod.ext made rfl)).1
    have opens : d.opened = openingOf cwd c.language f := by rw [document]; rfl
    rw [← opens]
    refine (measureFile_opening serve c d).before fun n => ?_
    have later := (ih (number + 1)).before fun m => Opening.pure (n + m)
    rwa [List.append_nil] at later

theorem measureAll_opening (serve : Server σ) (s : Surroundings) (c : Config)
    (sources : List (Path × String)) :
    Opening (sources.map (openingOf s.cwd c.language)) (measureAll serve s c sources) := by
  have shuts : Opening [] (Run.perform serve (.shutdown .inherited)) :=
    perform_opening serve rfl fun _ => rfl
  have all : Opening (sources.map (openingOf s.cwd c.language) ++ [])
      (measureAll serve s c sources) :=
    (measureFiles_opening serve s.cwd c 0 sources).before fun n =>
      shuts.before fun _ => Opening.pure n
  rwa [List.append_nil] at all

theorem closeSession_opening (serve : Server σ) : Opening [] (closeSession serve) := by
  have given_up : Opening [] (Run.change fun w : World σ => { w with loop := w.loop.abandon 0 }) :=
    .change fun w usual => ⟨Loop.abandon_usual usual 0,
      congrArg (fun wire : Wire => wire.sent.filter isOpening) (w.loop.abandon_others 0).2.2⟩
  refine given_up.before fun _ => ?_
  exact (close_opening serve).before fun _ => .pure ()

theorem closeIfOpen_opening (serve : Server σ) : Opening [] (closeIfOpen serve) := by
  refine (Opening.read _).before fun closed => ?_
  split
  · exact closeSession_opening serve
  · exact .pure ()

/-- **The handshake opens nothing.** -/
theorem connect_opening (serve : Server σ) (s : Surroundings) (c : Config) :
    Opening [] (connect serve s c) := by
  refine (Opening.change fun w usual => ?_).before fun _ => ?_
  · refine ⟨⟨usual.tidy.exchange ?_, usual.traffic.truthful, usual.traffic.stages,
      usual.traffic.finished⟩, rfl⟩
    refine usual.tidy.session.congr ⟨rfl, rfl, rfl, rfl, rfl⟩ rfl fun x given => ?_
    obtain ⟨seconds, -, rfl⟩ := Option.map_eq_some_iff.mp given
    rfl
  refine (Opening.lift (.handshake ..)).before fun params => ?_
  have greets : Opening [] (Run.perform serve (.connect params)) :=
    perform_opening serve rfl fun _ => rfl
  refine greets.attempt.bind fun w r usual ended => ?_
  cases ended
  have blameless := (greets w usual).blameless
  split
  · exact .pure _
  · exact (closeSession_opening serve).before fun _ => .stop nofun
  · rename_i e _ same
    exact .stop fun failure stops => blameless failure (same.trans (congrArg _ stops))

/-- **While the server's program runs**, files are opened in turn with the texts that were read. -/
theorem withServer_opening (serve : Server σ) (s : Surroundings) (c : Config) (started : Seconds)
    (sources : List (Path × String)) :
    Opening (sources.map (openingOf s.cwd c.language))
      (withServer serve s c started sources) := by
  refine (connect_opening serve s c).before fun _ => ?_
  refine Opening.now.before fun ready => ?_
  refine (Opening.lift ((Blameless.since _ _).bind fun t => .round t.milliseconds)).before
    fun ms => ?_
  refine (Opening.lift (.guarded _ rfl)).before fun _ => ?_
  refine (Opening.warn _).before fun _ => ?_
  exact (measureAll_opening serve s c sources).finish (closeIfOpen_opening serve)

end Benchmark

end ProbeBench
