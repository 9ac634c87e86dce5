import ProbeBench.Program.Launch
import ProbeBench.Proofs.Bench.Opening
import ProbeBench.Proofs.Config.Accepting
import ProbeBench.Proofs.Text.Utf8

/-!
# Faults of a configuration come before the server

A configuration that was accepted has a format for which there is a reporter, and its input files
have names that the system takes. Such a benchmark stops for a fault of the configuration exactly if
one of its input files cannot be read or is not UTF-8, and then it has done nothing at all. Once it
has started the server's program it never does so any more, even if its files change or vanish: what
it opens are the texts that it read at the start.

* `readSources_eq_ok_iff`, `readSources_eq_error_iff`: what reading the input files comes to.
* `runAmid`: a benchmark whose files change while it runs. `runAmid_eq`: nobody sees that.
* `run_opening`: what a benchmark opens once its files are read.
* `config_faults_come_first`: the result.
-/

namespace ProbeBench

/-! ## Names that the system takes -/

theorem FileTree.walk_ne_null (t : FileTree) (place names : List String) :
    t.walk place names ≠ .error .nullCharacter := by
  induction names generalizing place with
  | nil =>
    unfold FileTree.walk
    split <;> simp
  | cons name rest ih =>
    unfold FileTree.walk
    split
    · simp
    · simp
    · simp
    · split
      · exact ih _
      · split
        · simp
        · exact ih _

theorem FileEntry.content_ne_null (e : FileEntry) : e.content ≠ .error .nullCharacter := by
  cases e with
  | device d => cases d <;> simp [FileEntry.content]
  | _ => simp [FileEntry.content]

/-- A path without a null character leads somewhere, or fails otherwise. -/
theorem FileTree.read_ne_null (t : FileTree) (cwd : Path) {path : Path}
    (named : path.holdsNull = false) : t.read cwd path ≠ .error .nullCharacter := by
  unfold FileTree.read FileTree.find
  rw [named, if_neg Bool.false_ne_true]
  split
  · simp [Bind.bind, Except.bind]
  · cases walked : t.walk [] (cwd.under path).names with
    | error fault =>
      rintro ⟨⟩
      exact t.walk_ne_null _ _ walked
    | ok e => exact e.content_ne_null

/-- The system does not blame the configuration for a program that it cannot start. -/
theorem Program.launch_blameless (place : Shell.Place) (command : List String) :
    Blameless (Program.launch place command) := by
  unfold Program.launch
  split
  · exact blameless_error rfl
  · split
    · exact blameless_error rfl
    · split
      · exact .ok _
      · exact blameless_error rfl

namespace Benchmark

variable {σ : Type} {serve : Server σ} {host : Host σ} {s : Surroundings} {c : Config}
  {path : Path} {paths : List Path} {text : String} {sources : List (Path × String)}
  {failure : Failure} {fault : Config.Fault}

/-! ## Reading the input files -/

/-- A file holds a text, written in UTF-8. -/
def Holds (s : Surroundings) (path : Path) (text : String) : Prop :=
  s.files.read s.cwd path = .ok (Text.Utf8.encode text.toList)

/-- A file cannot be read, or is not UTF-8; what is said about it. -/
inductive Unusable (s : Surroundings) (path : Path) : Config.Fault → Prop
  | unreadable {fault : FileFault} (fails : s.files.read s.cwd path = .error fault) :
      Unusable s path (.unreadableInput path fault)
  | undecodable {octets : List UInt8} {fault : Text.Utf8.Fault}
      (reads : s.files.read s.cwd path = .ok octets)
      (garbled : ∀ text, octets ≠ Text.Utf8.encode text)
      (fails : Text.Utf8.decode octets = .error fault) :
      Unusable s path (.undecodableInput path fault)

/-- The first of these files that cannot be used is at fault. -/
def FirstUnusable (s : Surroundings) (paths : List Path) (fault : Config.Fault) : Prop :=
  ∃ before path after, paths = before ++ path :: after ∧ (∀ p ∈ before, ∃ text, Holds s p text) ∧
    Unusable s path fault

theorem readSource_eq_ok_iff : readSource s path = .ok text ↔ Holds s path text := by
  unfold readSource Holds
  cases read : s.files.read s.cwd path with
  | error fault => cases fault <;> simp
  | ok octets =>
    simp only [Except.ok.injEq, ← Text.Utf8.decode_eq_ok_iff]
    cases Text.Utf8.decode octets with
    | error fault => simp
    | ok decoded =>
      simp only [Except.ok.injEq]
      exact ⟨fun same => same ▸ String.toList_ofList.symm, fun same => same ▸ String.ofList_toList⟩

/-- What is said about a file that cannot be used is what stops its reading. -/
theorem readSource_of_unusable (named : path.holdsNull = false) (h : Unusable s path fault) :
    readSource s path = .error (.config fault) := by
  unfold readSource
  cases h with
  | @unreadable fault fails =>
    have other : fault ≠ .nullCharacter := by
      rintro rfl
      exact s.files.read_ne_null s.cwd named fails
    rw [fails]
    cases fault <;> first | rfl | exact absurd rfl other
  | undecodable reads garbled fails =>
    rw [reads]
    simp only [fails]

theorem unusable_of_readSource (named : path.holdsNull = false)
    (h : readSource s path = .error failure) : ∃ fault, failure = .config fault ∧
      Unusable s path fault := by
  unfold readSource at h
  cases reads : s.files.read s.cwd path with
  | error fault =>
    rw [reads] at h
    refine ⟨.unreadableInput path fault, ?_, .unreadable reads⟩
    cases fault <;> first
      | exact (Except.error.inj h).symm
      | exact absurd reads (s.files.read_ne_null s.cwd named)
  | ok octets =>
    simp only [reads] at h
    cases fails : Text.Utf8.decode octets with
    | ok text =>
      rw [fails] at h
      cases h
    | error fault =>
      rw [fails] at h
      refine ⟨_, (Except.error.inj h).symm, .undecodable reads (fun text same => ?_) fails⟩
      rw [Text.Utf8.decode_eq_ok_iff.mpr same] at fails
      cases fails

theorem readSources_cons_error {rest : List Path} (fails : readSource s path = .error failure) :
    readSources s (path :: rest) = .error failure := by
  rw [readSources, List.mapM_cons, fails]
  rfl

theorem readSources_cons_ok {rest : List Path} (reads : readSource s path = .ok text) :
    readSources s (path :: rest) = (readSources s rest).map ((path, text) :: ·) := by
  rw [readSources, List.mapM_cons, reads]
  show (readSources s rest >>= fun more => pure ((path, text) :: more)) = _
  cases readSources s rest <;> rfl

/-- **The texts of the input files** are read exactly if all of them hold texts. -/
theorem readSources_eq_ok_iff : readSources s paths = .ok sources ↔
    sources.map (·.1) = paths ∧ ∀ f ∈ sources, Holds s f.1 f.2 := by
  induction paths generalizing sources with
  | nil =>
    constructor
    · rintro ⟨⟩
      exact ⟨rfl, fun f there => absurd there List.not_mem_nil⟩
    · rintro ⟨none, -⟩
      rw [List.map_eq_nil_iff.mp none]
      rfl
  | cons path rest ih =>
    constructor
    · intro read
      cases first : readSource s path with
      | error failure =>
        rw [readSources_cons_error first] at read
        cases read
      | ok text =>
        rw [readSources_cons_ok first] at read
        cases later : readSources s rest with
        | error failure =>
          rw [later] at read
          cases read
        | ok more =>
          rw [later] at read
          cases read
          obtain ⟨names, holds⟩ := ih.mp later
          exact ⟨congrArg (path :: ·) names,
            List.forall_mem_cons.mpr ⟨readSource_eq_ok_iff.mp first, holds⟩⟩
    · rintro ⟨names, holds⟩
      obtain ⟨f, more, rfl, rfl, later⟩ := List.map_eq_cons_iff.mp names
      obtain ⟨first, others⟩ := List.forall_mem_cons.mp holds
      rw [readSources_cons_ok (readSource_eq_ok_iff.mpr first), ih.mpr ⟨later, others⟩]
      rfl

theorem firstUnusable_cons {rest : List Path} : FirstUnusable s (path :: rest) fault ↔
    Unusable s path fault ∨ ((∃ text, Holds s path text) ∧ FirstUnusable s rest fault) := by
  constructor
  · rintro ⟨before, path', after, split, holds, unusable⟩
    cases before with
    | nil =>
      cases split
      exact .inl unusable
    | cons p more =>
      cases split
      obtain ⟨first, others⟩ := List.forall_mem_cons.mp holds
      exact .inr ⟨first, more, path', after, rfl, others, unusable⟩
  · rintro (unusable | ⟨first, before, path', after, rfl, holds, unusable⟩)
    · exact ⟨[], path, rest, rfl, fun p there => absurd there List.not_mem_nil, unusable⟩
    · exact ⟨path :: before, path', after, rfl, List.forall_mem_cons.mpr ⟨first, holds⟩, unusable⟩

/-- **Reading the input files stops** exactly at the first that cannot be used. -/
theorem readSources_eq_error_iff (named : ∀ p ∈ paths, p.holdsNull = false) :
    readSources s paths = .error failure ↔
      ∃ fault, failure = .config fault ∧ FirstUnusable s paths fault := by
  induction paths with
  | nil =>
    refine ⟨nofun, ?_⟩
    rintro ⟨fault, -, before, path, after, split, -⟩
    cases before <;> cases split
  | cons path rest ih =>
    obtain ⟨own, others⟩ := List.forall_mem_cons.mp named
    simp only [firstUnusable_cons]
    cases first : readSource s path with
    | error failure' =>
      rw [readSources_cons_error first]
      constructor
      · rintro ⟨⟩
        obtain ⟨fault, same, unusable⟩ := unusable_of_readSource own first
        exact ⟨fault, same, .inl unusable⟩
      · rintro ⟨fault, rfl, unusable | ⟨⟨text, holds⟩, -⟩⟩
        · rw [readSource_of_unusable own unusable] at first
          cases first
          rfl
        · rw [readSource_eq_ok_iff.mpr holds] at first
          cases first
    | ok text =>
      rw [readSources_cons_ok first]
      have later : (readSources s rest).map ((path, text) :: ·) = .error failure ↔
          readSources s rest = .error failure := by
        cases readSources s rest <;> simp [Except.map]
      rw [later, ih others]
      constructor
      · rintro ⟨fault, rfl, unusable⟩
        exact ⟨fault, rfl, .inr ⟨⟨text, readSource_eq_ok_iff.mp first⟩, unusable⟩⟩
      · rintro ⟨fault, rfl, unusable | ⟨-, unusable⟩⟩
        · rw [readSource_of_unusable own unusable] at first
          cases first
        · exact ⟨fault, rfl, unusable⟩

/-! ## Files that change while a benchmark runs -/

/-- The document of a file: with the text that is given, or else with what the file holds. -/
def documentOf (s : Surroundings) (number : Nat) (path : Path) (language : String)
    (text : Option String) : Except Failure Document := do
  Document.ofFile s.cwd number path language (← text.elim (readSource s path) .ok)

/-- Probes files in turn while they change: when document `n` is made they are `later n`. -/
def measureFilesAmid (serve : Server σ) (s : Surroundings) (later : Nat → FileTree) (c : Config)
    (number : Nat) : List (Path × String) → Run σ Nat
  | [] => return 0
  | (path, text) :: rest => do
    let d ← Run.lift
      (documentOf { s with files := later number } number path c.language (some text))
    let n ← measureFile serve c d
    let m ← measureFilesAmid serve s later c (number + 1) rest
    return n + m

/-- Probes all files and shuts the server down, while the files change. -/
def measureAllAmid (serve : Server σ) (s : Surroundings) (later : Nat → FileTree) (c : Config)
    (sources : List (Path × String)) : Run σ Nat := do
  let n ← measureFilesAmid serve s later c 0 sources
  let _ ← Run.perform serve (.shutdown .inherited)
  return n

/-- What happens while the server's program runs and the files change. -/
def withServerAmid (serve : Server σ) (s : Surroundings) (later : Nat → FileTree) (c : Config)
    (started : Seconds) (sources : List (Path × String)) : Run σ Nat := do
  connect serve { s with files := later 0 } c
  let ready ← Run.now
  let ms ← Run.lift ((ready.since started).bind (·.milliseconds.round))
  Run.lift (if Decimal.isWritable ms then .ok () else .error .unwritable)
  Run.warn ("Now listening (took " ++ toString ms ++ " ms)")
  let result ← Run.attempt (measureAllAmid serve s later c sources)
  closeIfOpen serve
  Run.resume result

/-- A benchmark whose files change, or vanish, from when they have been read. -/
def runAmid (host : Host σ) (s : Surroundings) (later : Nat → FileTree) (c : Config) :
    Run σ Nat := do
  let sources ← Run.lift (readSources s c.files)
  Run.warn ("Starting command: " ++ " ".intercalate c.command)
  let started ← Run.now
  launch host c.command
  let result ← Run.attempt (withServerAmid host.serve s later c started sources)
  Run.change fun w => { w with stopped := true }
  Run.resume result

theorem measureFilesAmid_eq (later : Nat → FileTree) (number : Nat)
    (sources : List (Path × String)) : measureFilesAmid serve s later c number sources =
      measureFiles serve s.cwd c number sources := by
  induction sources generalizing number with
  | nil => rfl
  | cons f rest ih =>
    unfold measureFilesAmid measureFiles
    rw [ih]
    rfl

/-- **Nobody sees that the files change.** -/
theorem runAmid_eq (host : Host σ) (s : Surroundings) (later : Nat → FileTree) (c : Config) :
    runAmid host s later c = run host s c := by
  have same (started : Seconds) (sources : List (Path × String)) :
      withServerAmid host.serve s later c started sources =
        withServer host.serve s c started sources := by
    unfold withServerAmid withServer measureAllAmid measureAll
    rw [measureFilesAmid_eq]
    rfl
  unfold runAmid run
  simp only [same]

/-! ## Whole benchmarks -/

theorem launch_opening (startable : ∀ state command, Blameless (host.launch state command))
    (command : List String) : Run.Opening [] (launch host command) := by
  intro w usual
  have launches := launch_eq host command w
  cases launched : host.launch w.loop.server command with
  | error failure =>
    simp only [launched] at launches
    rw [launches]
    refine .still usual rfl ?_
    rintro _ ⟨⟩
    exact (startable _ _).harmless failure launched
  | ok state =>
    simp only [launched] at launches
    rw [launches]
    exact .still ⟨launched_tidy usual.tidy launches, usual.traffic.truthful, usual.traffic.stages,
      usual.traffic.finished⟩ rfl nofun

/-- **Once its files have been read**, a benchmark opens them in turn with the texts that were read,
and stops for no fault of the configuration. -/
theorem run_opening (startable : ∀ state command, Blameless (host.launch state command))
    (read : readSources s c.files = .ok sources) :
    Run.Opening (sources.map (openingOf s.cwd c.language)) (run host s c) := by
  have stopped : Run.Opening [] (Run.change fun w : World σ => { w with stopped := true }) :=
    .note fun _ => rfl
  refine (Run.Opening.lift (read ▸ .ok sources)).bind fun w sources' _ got => ?_
  rw [read] at got
  cases got
  refine (Run.Opening.warn _).before fun _ => ?_
  refine Run.Opening.now.before fun started => ?_
  refine (launch_opening startable _).before fun _ => ?_
  exact (withServer_opening host.serve s c started sources).finish stopped

/-- A run that has not begun has no calls that could come to anything. -/
theorem usual_beginning (state : σ) (clock : List Seconds) (warns : Bool) :
    (beginning state clock warns).loop.Usual where
  tidy := tidy_beginning state clock warns
  traffic := by
    refine ⟨(tidy_beginning state clock warns).session.truthful, fun task stage there => ?_,
      fun _ _ there => absurd there List.not_mem_nil⟩
    have nothing : (none : Option Stage) = some stage := there
    cases nothing

/-- There is a reporter for the format of an accepted configuration. -/
theorem reporterOf_accepted {tree : FileTree} {cwd : Path} {t : Config.Table}
    (accepted : Config.check tree cwd t = .ok c) :
    ∃ name, (t.get? "format" = some (.text name) ∨
        t.get? "format" = none ∧ name = Format.human.name) ∧
      reporterOf name = .ok fun m => m.report c.format := by
  rcases (Config.check_eq_ok_iff.mp accepted).formatNamed with ⟨none, human⟩ | ⟨name, given, found⟩
  · refine ⟨_, .inr ⟨none, rfl⟩, ?_⟩
    rw [reporterOf, Format.ofName?_name, human]
  · refine ⟨name, .inl given, ?_⟩
    rw [reporterOf, found]

/-- **Faults of a configuration come before the server, never after.** For every configuration that
was accepted, every file tree and every change of it after the input files were read, every server
and every clock: there is a reporter for its format; the benchmark stops for a fault of the
configuration exactly if an input file cannot be read or is not UTF-8, for the first such file, and
then the world is the one before the run; and once the server's program has been started there is
no such fault any more, and what has been opened are the input files in turn, each with the text
that it held at the start. That a program cannot be started is no fault of the configuration, as
`Program.launch_blameless` shows of the programs that there are. -/
theorem config_faults_come_first {tree : FileTree} {cwd : Path} {t : Config.Table}
    (accepted : Config.check tree cwd t = .ok c)
    (startable : ∀ state command, Blameless (host.launch state command)) (s : Surroundings)
    (later : Nat → FileTree) (state : σ) (clock : List Seconds) (warns : Bool) :
    let w := beginning state clock warns
    let r := runAmid host s later c w
    (∃ name, (t.get? "format" = some (.text name) ∨
        t.get? "format" = none ∧ name = Format.human.name) ∧
      reporterOf name = .ok fun m => m.report c.format) ∧
    (∀ fault, r.1 = .error (.failed (.config fault)) ↔ FirstUnusable s c.files fault) ∧
    (∀ fault, r.1 = .error (.failed (.config fault)) → r.2 = w) ∧
    (r.2.commands ≠ [] → (∀ fault, r.1 ≠ .error (.failed (.config fault))) ∧
      ∃ sources : List (Path × String), sources.map (·.1) = c.files ∧
        (∀ f ∈ sources, Holds s f.1 f.2) ∧
        r.2.openings <+: sources.map (openingOf s.cwd c.language)) := by
  intro w r
  refine ⟨reporterOf_accepted accepted, ?_⟩
  have ran : r = run host s c w := congrFun (runAmid_eq host s later c) w
  have stops {fault : Config.Fault} : readSources s c.files = .error (.config fault) ↔
      FirstUnusable s c.files fault := by
    rw [readSources_eq_error_iff (Config.check_eq_ok_iff.mp accepted).named]
    constructor
    · rintro ⟨_, ⟨⟩, unusable⟩
      exact unusable
    · exact fun unusable => ⟨fault, rfl, unusable⟩
  cases read : readSources s c.files with
  | error failure =>
    have early : r = (.error (.failed failure), w) := by
      rw [ran, run, Run.run_bind_error (Run.lift_error read w)]
    rw [early]
    refine ⟨fun fault => ?_, fun _ _ => rfl, fun started => absurd rfl started⟩
    rw [← stops, read]
    constructor <;> rintro ⟨⟩ <;> rfl
  | ok sources =>
    have opens := run_opening startable read w (usual_beginning state clock warns)
    rw [← ran] at opens
    have harmless (fault : Config.Fault) : r.1 ≠ .error (.failed (.config fault)) := by
      intro fails
      cases opens.blameless _ fails
    obtain ⟨names, holds⟩ := readSources_eq_ok_iff.mp read
    obtain ⟨new, told, begun, -⟩ := opens.opened
    have opened : r.2.openings = new := told
    refine ⟨fun fault => ⟨fun fails => absurd fails (harmless fault), fun unusable => ?_⟩,
      fun fault fails => absurd fails (harmless fault),
      fun _ => ⟨harmless, sources, names, holds, opened ▸ begun⟩⟩
    rw [stops.mpr unusable] at read
    cases read

/-- A file vanishes as soon as it has been read, and its text is still what the server is shown. -/
theorem config_faults_come_first_vanished :
    let host : Host Nat := ⟨refusing, fun n _ => .ok n⟩
    let files : FileTree := [(["file"], .file [111, 110, 101] false 0)]
    let s : Surroundings := ⟨files, ⟨"/", []⟩, 1⟩
    let t : Config.Table := [("files", .list [.text "file"]), ("command", .list [.text "server"])]
    ∃ c, Config.check files s.cwd t = .ok c ∧
      let r := runAmid host s (fun _ => []) c (beginning 0 [] true)
      r.2.openings ≠ [] ∧ (∀ fault, r.1 ≠ .error (.failed (.config fault))) ∧
        ∃ sources : List (Path × String), sources.map (·.1) = c.files ∧
          (∀ f ∈ sources, Holds s f.1 f.2) ∧
          r.2.openings <+: sources.map (openingOf s.cwd c.language) := by
  intro host files s t
  let c : Config := ⟨[⟨"", ["file"]⟩], ["server"], .completion, Config.defaultLanguage,
    [⟨"/", []⟩], .human, some Config.defaultTimeout, .skip, false⟩
  have accepted : Config.check files s.cwd t = .ok c := rfl
  have startable : ∀ state command, Blameless (host.launch state command) := fun n _ => .ok n
  have opens : (runAmid host s (fun _ => []) c (beginning 0 [] true)).2.openings ≠ [] := by
    decide +kernel
  have starts : (runAmid host s (fun _ => []) c (beginning 0 [] true)).2.commands ≠ [] := by
    decide +kernel
  clear_value host files s t c
  refine ⟨c, accepted, opens, ?_⟩
  exact (config_faults_come_first accepted startable s (fun _ => []) 0 [] true).2.2.2 starts

end Benchmark

end ProbeBench
