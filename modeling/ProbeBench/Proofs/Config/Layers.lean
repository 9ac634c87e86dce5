import ProbeBench.CommandLine.Options
import ProbeBench.Proofs.Config.Accepting
import ProbeBench.Proofs.Path

/-!
# Three layers of settings

A setting comes from the command line if that gives it, else from the configuration file, else it is
what nobody sets. A `Layer` holds what one of the two gives, by the fields it decides and not by the
names that it goes by there: `Options.layer` is what the command line gives, `Layer.ofSettings` what
a configuration file gives, and `Layer.above` puts one over the other. The files and the command
come from the command line alone.

* `Table.get?_merge`: a merged table says what the values say, and what the defaults say where the
  values say nothing.
* `Options.resolve_eq_check`: the configuration of an invocation is the check of the layers put over
  each other.
* `Options.command_line_wins`: every field of an accepted configuration is what its layer decides,
  and two configuration files that agree on what the command line does not give lead to the same
  configuration, or to the same failure.
-/

namespace ProbeBench.Config

variable {tree tree' : FileTree} {cwd : Path} {t : Table} {c : Config}

/-! ### Tables that are put together -/

theorem Table.get?_append (t u : Table) (key : String) :
    Table.get? (t ++ u) key = (t.get? key).or (u.get? key) := by
  unfold Table.get?
  rw [List.find?_append]
  cases List.find? (fun e => decide (e.1 = key)) t <;> simp

@[simp]
theorem Table.get?_nil (key : String) : Table.get? [] key = none := rfl

theorem Table.get?_cons (e : String × Setting) (t : Table) (key : String) :
    Table.get? (e :: t) key = if e.1 = key then some e.2 else t.get? key := by
  by_cases h : e.1 = key <;> simp [Table.get?, h]

/-- A setting under a name, if there is one. -/
def offer (name : String) (v? : Option Setting) : Table := (v?.map fun v => (name, v)).toList

theorem get?_offer (name key : String) (v? : Option Setting) :
    (offer name v?).get? key = if name = key then v? else none := by
  cases v? with
  | none => simp [offer, Table.get?]
  | some v => by_cases h : name = key <;> simp [offer, Table.get?, h]

theorem kept_eq_offer (t : Table) (name : String) : kept t name = offer name (t.get? name) := rfl

theorem unknownNames_append (t u : Table) :
    unknownNames (t ++ u) = unknownNames t ++ unknownNames u := by
  simp [unknownNames]

theorem unknownNames_offer {name : String} (known : name ∈ fieldNames) (v? : Option Setting) :
    unknownNames (offer name v?) = [] := by
  cases v? with
  | none => rfl
  | some v => simp [unknownNames, offer, known]

/-- Setting a field changes nothing about the names that are no field. -/
theorem unknownNames_put {key : String} (known : key ∈ fieldNames) (t : Table) (v : Setting) :
    unknownNames (t.put key v) = unknownNames t := by
  induction t with
  | nil => simp [Table.put, unknownNames, known]
  | cons e rest ih =>
    unfold Table.put
    by_cases same : e.1 = key
    · simp [unknownNames, same, known]
    · simp only [same, if_false]
      rw [← List.singleton_append, unknownNames_append, ih, ← unknownNames_append,
        List.singleton_append]

theorem unknownNames_merge {values : Table} (known : ∀ e ∈ values, e.1 ∈ fieldNames) (t : Table) :
    unknownNames (merge values t) = unknownNames t := by
  unfold merge
  induction values generalizing t with
  | nil => rfl
  | cons e rest ih =>
    rw [List.foldl_cons, ih (fun e' there => known e' (by simp [there]))]
    by_cases null : e.2.isNull
    · rw [if_pos null]
    · rw [if_neg null, unknownNames_put (known e (by simp))]

/-- What a value says; nothing, if it is null. -/
def Setting.said? (v : Setting) : Option Setting := if v.isNull then none else some v

theorem Table.get?_merge {values : Table} (distinct : (values.map (·.1)).Nodup) (t : Table)
    (key : String) :
    (merge values t).get? key = ((values.get? key).bind Setting.said?).or (t.get? key) := by
  unfold merge
  induction values generalizing t with
  | nil => rfl
  | cons e rest ih =>
    obtain ⟨name, v⟩ := e
    simp only [List.map_cons, List.nodup_cons] at distinct
    rw [List.foldl_cons, ih distinct.2, Table.get?_cons]
    by_cases same : name = key
    · subst same
      have gone : Table.get? rest name = none := by
        simp only [Table.get?, Option.map_eq_none_iff, List.find?_eq_none, decide_eq_true_eq]
        exact fun e there same => distinct.1 (List.mem_map.mpr ⟨e, there, same⟩)
      by_cases null : v.isNull
      · simp [gone, null, Setting.said?]
      · simp [gone, null, Setting.said?, Table.get?_put_self]
    · by_cases null : v.isNull
      · simp [same, null]
      · simp [same, null, Table.get?_put_of_ne t v (Ne.symm same)]

/-! ### Layers -/

/-- What one layer gives of the fields that it may give. -/
structure Layer where
  mode : Option Setting
  language : Option Setting
  folders : Option Setting
  format : Option Setting
  timeout : Option Setting
  onError : Option Setting
  verbose : Option Setting

/-- A file asks for jumps with a truth value, if it says anything about them. -/
def JumpPlain (settings : Table) : Prop :=
  ∀ v, settings.get? "jump" = some v → ∃ jump, v = .bool jump

namespace Layer

/-- What the settings of a configuration file give. A single folder may stand without its list. -/
def ofSettings (settings : Table) : Layer where
  mode := (settings.get? "jump").bind fun | .bool jump => some (modeOfJump jump) | _ => none
  language := settings.get? "language"
  folders := (settings.get? "workspace").map fun | .text s => .list [.text s] | v => v
  format := settings.get? "format"
  timeout := settings.get? "timeout"
  onError := settings.get? "on_error"
  verbose := settings.get? "verbose"

/-- One layer over another: what the upper one gives, else what the lower one gives. -/
def above (upper lower : Layer) : Layer where
  mode := upper.mode.or lower.mode
  language := upper.language.or lower.language
  folders := upper.folders.or lower.folders
  format := upper.format.or lower.format
  timeout := upper.timeout.or lower.timeout
  onError := upper.onError.or lower.onError
  verbose := upper.verbose.or lower.verbose

/-- The settings of the fields that a layer gives. -/
def settings (l : Layer) : Table :=
  offer "mode" l.mode ++ offer "language" l.language ++ offer "workspace_folders" l.folders ++
    offer "format" l.format ++ offer "request_timeout" l.timeout ++ offer "on_error" l.onError ++
    offer "verbose" l.verbose

/-- All settings: those that a layer gives, files and a command. -/
def table (l : Layer) (files : List Path) (command : List String) : Table :=
  [("files", CommandLine.pathList files), ("command", .list (command.map .text))] ++ l.settings

/-- What a field is, given what is said of it and what it is otherwise. -/
def settle {α : Type} (v? : Option Setting) (otherwise : α) (check : Setting → Checked α) :
    Checked α :=
  match v? with
  | some v => check v
  | none => .ok otherwise

/-- The fields of a configuration are what a layer decides: what the field makes of the setting that
the layer gives, or what nobody sets. -/
structure Decides (l : Layer) (cwd : Path) (c : Config) : Prop where
  mode : settle l.mode .completion checkMode = .ok c.mode
  language : settle l.language defaultLanguage (checkText "language") = .ok c.language
  folders : settle l.folders [cwd] (checkFolders cwd) = .ok c.workspaceFolders
  format : settle l.format .human checkFormat = .ok c.format
  timeout : settle l.timeout (some defaultTimeout) checkTimeout = .ok c.timeout
  onError : settle l.onError .skip checkPolicy = .ok c.onError
  verbose : settle l.verbose false (checkTruth "verbose") = .ok c.verbose

theorem defaults_eq (plain : JumpPlain t) :
    defaults t = .ok (["language", "format", "on_error", "verbose"].flatMap (kept t) ++
      offer "workspace_folders" (ofSettings t).folders ++ offer "mode" (ofSettings t).mode ++
      offer "request_timeout" (ofSettings t).timeout) := by
  unfold JumpPlain at plain
  unfold defaults ofSettings
  generalize t.get? "jump" = said at plain ⊢
  generalize t.get? "workspace" = workspace
  generalize t.get? "timeout" = timeout
  have modes : said = none ∨ ∃ jump, said = some (.bool jump) := by
    cases said with
    | none => exact .inl rfl
    | some v => exact .inr ((plain v rfl).imp fun _ same => congrArg some same)
  rcases modes with rfl | ⟨jump, rfl⟩ <;> cases timeout <;> cases workspace with
  | none => rfl
  | some v => cases v <;> rfl

/-- What a configuration file gives as defaults is its layer, in another order. -/
theorem defaults_alike (plain : JumpPlain t) :
    ∃ d, defaults t = .ok d ∧ (ofSettings t).settings.Alike d := by
  refine ⟨_, defaults_eq plain, ?_, ?_⟩
  · simp only [List.flatMap_cons, List.flatMap_nil, kept_eq_offer, settings, Table.get?_append,
      get?_offer, fieldNames, List.mem_cons, List.not_mem_nil, or_false, forall_eq_or_imp,
      forall_eq]
    simp [ofSettings]
  · simp (disch := decide) [kept_eq_offer, settings, unknownNames_append, unknownNames_offer]

/-- What a table says of the files, the command and the fields of a layer. -/
theorem get?_table (l : Layer) (files : List Path) (command : List String) :
    (l.table files command).get? "files" = some (CommandLine.pathList files) ∧
      (l.table files command).get? "command" = some (.list (command.map .text)) ∧
      (l.table files command).get? "mode" = l.mode ∧
      (l.table files command).get? "language" = l.language ∧
      (l.table files command).get? "workspace_folders" = l.folders ∧
      (l.table files command).get? "format" = l.format ∧
      (l.table files command).get? "request_timeout" = l.timeout ∧
      (l.table files command).get? "on_error" = l.onError ∧
      (l.table files command).get? "verbose" = l.verbose := by
  simp [table, settings, Table.get?_cons, Table.get?_append, get?_offer]

theorem unknownNames_settings (l : Layer) : unknownNames l.settings = [] := by
  simp (disch := decide) [settings, unknownNames_append, unknownNames_offer]

theorem unknownNames_table (l : Layer) (files : List Path) (command : List String) :
    unknownNames (l.table files command) = [] := by
  rw [table, unknownNames_append, unknownNames_settings]
  rfl

end Layer

/-! ### Settings that the command line gives -/

/-- Items that are accepted as they were given make the list that was given. -/
theorem checkItems_map {α : Type} {check : String → Setting → Checked α} (setting : α → Setting)
    {xs : List α} (accepts : ∀ x ∈ xs, ∀ place, check place (setting x) = .ok x) (field : String)
    (i : Nat) : checkItems check field i (xs.map setting) = .ok xs := by
  induction xs generalizing i with
  | nil => rfl
  | cons x rest ih =>
    rw [List.map_cons, checkItems, accepts x (by simp),
      ih fun y there => accepts y (by simp [there])]

theorem checkList_pathList {paths : List Path} (tidy : ∀ p ∈ paths, p.Tidy) (field : String) :
    checkList checkPath field (CommandLine.pathList paths) = .ok paths := by
  have accepts : ∀ p ∈ paths, ∀ place, checkPath place (.text p.text) = .ok p :=
    fun p there place => by simp [checkPath, Path.ofText_text (tidy p there)]
  exact checkItems_map (fun p : Path => .text p.text) accepts field 0

theorem checkCommand_words {words kept : List String}
    (accepted : checkCommand (.list (words.map .text)) = .ok kept) : kept = words := by
  have read : checkList checkText "command" (.list (words.map .text)) = .ok words :=
    checkItems_map Setting.text (fun _ _ _ => rfl) "command" 0
  unfold checkCommand at accepted
  rw [read] at accepted
  simp only [Bind.bind, Except.bind] at accepted
  split at accepted
  · cases accepted
  · simpa [Pure.pure, Except.pure] using accepted.symm

theorem filesOf_table (l : Layer) (files : List Path) (command : List String) :
    filesOf tree cwd (l.table files command) =
      checkFiles tree cwd (CommandLine.pathList files) := by
  unfold filesOf
  rw [(l.get?_table files command).1]

/-- Files that are accepted are the files that were given. -/
theorem checkFiles_eq_ok {files found : List Path} (tidy : ∀ p ∈ files, p.Tidy)
    (accepted : checkFiles tree cwd (CommandLine.pathList files) = .ok (.ok found)) :
    found = files := by
  have read := (checkFiles_eq_ok_iff.mp accepted).1
  rw [checkList_pathList tidy] at read
  exact (Except.ok.inj read).symm

theorem checkFiles_congr {files : List Path} (tidy : ∀ p ∈ files, p.Tidy)
    (alike : ∀ p ∈ files, tree'.find cwd p = tree.find cwd p) :
    checkFiles tree' cwd (CommandLine.pathList files) =
      checkFiles tree cwd (CommandLine.pathList files) := by
  unfold checkFiles
  rw [checkList_pathList tidy]
  dsimp only
  rw [fileIssue?_congr alike]

theorem Layer.decides_of_accepts {l : Layer} {files : List Path} {command : List String}
    (accepted : Accepts tree cwd (l.table files command) c) : l.Decides cwd c := by
  obtain ⟨-, -, mode, language, folders, format, timeout, onError, verbose⟩ :=
    l.get?_table files command
  constructor
  · rw [← mode]
    exact accepted.mode
  · rw [← language]
    exact accepted.language
  · rw [← folders]
    exact accepted.folders
  · rw [← format]
    exact accepted.format
  · rw [← timeout]
    exact accepted.timeout
  · rw [← onError]
    exact accepted.onError
  · rw [← verbose]
    exact accepted.verbose

theorem command_of_accepts {l : Layer} {files : List Path} {command : List String}
    (accepted : Accepts tree cwd (l.table files command) c) : c.command = command := by
  have read := accepted.command
  simp only [needed, (l.get?_table files command).2.1] at read
  exact checkCommand_words read

end ProbeBench.Config

namespace ProbeBench.CommandLine

open Config

variable {o : Options} {tree tree' : FileTree} {cwd : Path} {settings others : Table} {c : Config}

/-- The files of options that were read are paths that were read. -/
theorem Options.tidy_of_read {words : List String} (read : Options.read words = .options o) :
    ∀ p ∈ o.files, p.Tidy := by
  unfold Options.read at read
  split at read
  · cases read
  · split at read
    · cases read
    · split at read
      · cases read
      · simp only at read
        split at read
        · cases read
        · cases read
          intro p there
          simp only [Options.ofWords, List.mem_filterMap] at there
          obtain ⟨word, -, is⟩ := there
          split at is
          · cases is
            exact Path.ofText_tidy _
          · cases is

/-- What the command line gives. No folder at all is nothing given. -/
def Options.layer (o : Options) : Layer where
  mode := o.jump.map modeOfJump
  language := o.language.map .text
  folders := if o.workspace.isEmpty then none else some (pathList o.workspace)
  format := o.format.map .text
  timeout := o.timeout.map .float
  onError := o.onError.map .text
  verbose := o.verbose.map .bool

/-- Two configuration files agree on the settings that the command line does not give. -/
structure Options.Agree (o : Options) (settings others : Table) : Prop where
  mode : o.jump = none → others.get? "jump" = settings.get? "jump"
  language : o.language = none → others.get? "language" = settings.get? "language"
  folders : o.workspace = [] → others.get? "workspace" = settings.get? "workspace"
  format : o.format = none → others.get? "format" = settings.get? "format"
  timeout : o.timeout = none → others.get? "timeout" = settings.get? "timeout"
  onError : o.onError = none → others.get? "on_error" = settings.get? "on_error"
  verbose : o.verbose = none → others.get? "verbose" = settings.get? "verbose"

theorem Options.over_eq_of_agree (agree : o.Agree settings others) :
    o.layer.above (.ofSettings others) = o.layer.above (.ofSettings settings) := by
  obtain ⟨mode, language, folders, format, timeout, onError, verbose⟩ := agree
  simp only [Layer.above, Options.layer, Layer.ofSettings, Layer.mk.injEq]
  refine ⟨?_, ?_, ?_, ?_, ?_, ?_, ?_⟩
  · cases given : o.jump <;> simp [mode, given]
  · cases given : o.language <;> simp [language, given]
  · cases given : o.workspace <;> simp [folders, given]
  · cases given : o.format <;> simp [format, given]
  · cases given : o.timeout <;> simp [timeout, given]
  · cases given : o.onError <;> simp [onError, given]
  · cases given : o.verbose <;> simp [verbose, given]

theorem said?_given {α : Type} (setting : α → Setting) (speaks : ∀ x, (setting x).isNull = false)
    (value : Option α) : (given setting value).said? = value.map setting := by
  cases value with
  | none => rfl
  | some x => simp [Setting.said?, given, speaks]

theorem said?_folders (paths : List Path) :
    (if paths = [] then Setting.null else pathList paths).said? =
      if paths = [] then none else some (pathList paths) := by
  cases paths <;> rfl

/-- What the options and the command say, put over the settings of a layer, is the table of both
layers. -/
theorem Options.alike_merge {lower : Layer} {d : Table} (alike : lower.settings.Alike d)
    (command : List String) :
    ((o.layer.above lower).table o.files command).Alike (merge (o.values command) d) := by
  have keys : (o.values command).map (·.1) =
      ["files", "command", "language", "workspace_folders", "mode", "format", "request_timeout",
        "on_error", "verbose"] := rfl
  have known : ∀ e ∈ o.values command, e.1 ∈ fieldNames := by
    intro e there
    have listed : e.1 ∈ (o.values command).map (·.1) := List.mem_map.mpr ⟨e, there, rfl⟩
    rw [keys] at listed
    exact (by decide : ∀ key ∈ _, key ∈ fieldNames) e.1 listed
  have files : (pathList o.files).said? = some (pathList o.files) := rfl
  have words : (Setting.list (command.map .text)).said? = some (.list (command.map .text)) := rfl
  constructor
  · intro field there
    rw [Table.get?_merge (by rw [keys]; decide), alike.fields field there]
    simp only [fieldNames, List.mem_cons, List.not_mem_nil, or_false] at there
    rcases there with rfl | rfl | rfl | rfl | rfl | rfl | rfl | rfl | rfl
    all_goals
      simp [Options.values, Layer.table, Layer.settings, Table.get?_cons, Table.get?_append,
        get?_offer, Layer.above, Options.layer, said?_folders, files, words,
        said?_given .text fun _ => rfl, said?_given .float fun _ => rfl,
        said?_given .bool fun _ => rfl, said?_given modeOfJump fun _ => rfl]
  · rw [unknownNames_merge known, alike.names, Layer.unknownNames_settings,
      Layer.unknownNames_table]

/-- **The configuration of an invocation is the check of its layers, one over the other.** -/
theorem Options.resolve_eq_check {settings : Table}
    (loaded : loadSettings tree cwd (o.source cwd) = .ok settings) (plain : JumpPlain settings)
    (command : List String) :
    o.resolve tree cwd command =
      check tree cwd ((o.layer.above (.ofSettings settings)).table o.files command) := by
  obtain ⟨d, read, alike⟩ := Layer.defaults_alike plain
  have merged := o.alike_merge alike command
  unfold Options.resolve
  simp only [loaded, read, Bind.bind, Except.bind]
  exact check_congr merged (filesOf_congr (merged.fields "files" (by decide)))

/-- **Three layers, and the command line wins.** Each field of a configuration is what the command
line gives, else what the configuration file gives, else what nobody sets; files and command are
those of the command line. So of two configuration files that agree on what the command line does
not give, whatever else they hold, one leads to what the other leads to. -/
theorem Options.command_line_wins (tidy : ∀ p ∈ o.files, p.Tidy)
    (loaded : loadSettings tree cwd (o.source cwd) = .ok settings) (plain : JumpPlain settings)
    (command : List String) :
    o.resolve tree cwd command =
        check tree cwd ((o.layer.above (.ofSettings settings)).table o.files command) ∧
      (∀ c, o.resolve tree cwd command = .ok c → c.files = o.files ∧ c.command = command ∧
        (o.layer.above (.ofSettings settings)).Decides cwd c) ∧
      ∀ other tree' others,
        loadSettings tree' cwd ({ o with config := other }.source cwd) = .ok others →
        JumpPlain others → o.Agree settings others →
        (∀ p ∈ o.files, tree'.find cwd p = tree.find cwd p) →
        { o with config := other }.resolve tree' cwd command = o.resolve tree cwd command := by
  have resolved := Options.resolve_eq_check loaded plain command
  refine ⟨resolved, ?_, ?_⟩
  · intro c accepted
    rw [resolved, check_eq_ok_iff] at accepted
    have found := accepted.files
    rw [filesOf_table] at found
    exact ⟨checkFiles_eq_ok tidy found, command_of_accepts accepted,
      Layer.decides_of_accepts accepted⟩
  · intro other tree' others loaded' plain' agree same
    have layers : { o with config := other }.layer.above (.ofSettings others) =
        o.layer.above (.ofSettings settings) := Options.over_eq_of_agree (o := o) agree
    rw [Options.resolve_eq_check loaded' plain' command, layers, resolved]
    refine check_congr ⟨fun _ _ => rfl, rfl⟩ ?_
    rw [filesOf_table, filesOf_table, checkFiles_congr tidy same]

/-- The entries of a table of texts. -/
def texts? : Table → Option (List (String × String))
  | [] => some []
  | (key, .text s) :: rest => (texts? rest).map ((key, s) :: ·)
  | _ => none

theorem eq_of_texts? {t : Table} {entries : List (String × String)}
    (all : texts? t = some entries) : t = entries.map fun e => (e.1, .text e.2) := by
  induction t generalizing entries with
  | nil =>
    cases all
    rfl
  | cons e rest ih =>
    unfold texts? at all
    split at all
    · simp_all
    · rename_i same
      cases same
      obtain ⟨more, read, rfl⟩ := Option.map_eq_some_iff.mp all
      rw [ih read]
      rfl
    · cases all

theorem eq_ok_of_texts? {r : Except Failure Table} (entries : List (String × String))
    (all : r.toOption.bind texts? = some entries) :
    r = .ok (entries.map fun e => (e.1, .text e.2)) := by
  cases r with
  | error f => cases all
  | ok t => rw [eq_of_texts? all]

/-- A directory with an input file and a configuration file. -/
def folderWith (settings : String) : FileTree :=
  [(["lsp-bench.toml"], .file (Text.Utf8.encode settings.toList) false 0),
    (["a.ql"], .file [] false 0)]

theorem find_folderWith (settings : String) :
    (folderWith settings).find ⟨"/", []⟩ ⟨"", ["a.ql"]⟩ = .ok (.file [] false 0) := by
  generalize octets : Text.Utf8.encode settings.toList = os
  rw [folderWith, octets]
  rfl

/-- Two configuration files that agree on the language, but hold different time limits, neither of
which is one: with a limit from the command line they lead to the same. -/
theorem Options.command_line_wins_limit :
    let o : Options := { files := [⟨"", ["a.ql"]⟩], timeout := some 5.0 }
    let soon := folderWith "[bench]\nlanguage = \"ql\"\ntimeout = \"soon\"\n"
    let later := folderWith "[bench]\nlanguage = \"ql\"\ntimeout = \"later\"\nindent = \"2\"\n"
    o.resolve later ⟨"/", []⟩ ["srv"] = o.resolve soon ⟨"/", []⟩ ["srv"] := by
  intro o soon later
  have tidy : ∀ p ∈ o.files, p.Tidy := by
    intro p there
    have name : Path.ofText "a.ql" = ⟨"", ["a.ql"]⟩ := by decide
    rw [List.mem_singleton.mp there, ← name]
    exact Path.ofText_tidy "a.ql"
  have loaded : loadSettings soon ⟨"/", []⟩ (o.source ⟨"/", []⟩) =
      .ok [("language", .text "ql"), ("timeout", .text "soon")] :=
    eq_ok_of_texts? [("language", "ql"), ("timeout", "soon")] (by decide +kernel)
  have loaded' : loadSettings later ⟨"/", []⟩ (o.source ⟨"/", []⟩) =
      .ok [("language", .text "ql"), ("timeout", .text "later"), ("indent", .text "2")] :=
    eq_ok_of_texts? [("language", "ql"), ("timeout", "later"), ("indent", "2")] (by decide +kernel)
  refine (o.command_line_wins tidy loaded (by simp [JumpPlain, Table.get?]) ["srv"]).2.2 none later
    _ loaded' (by simp [JumpPlain, Table.get?]) ?_ ?_
  · constructor <;> simp [o, Table.get?]
  · intro p there
    rw [List.mem_singleton.mp there, find_folderWith, find_folderWith]

end ProbeBench.CommandLine
