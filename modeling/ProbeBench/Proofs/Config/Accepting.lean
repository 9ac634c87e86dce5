import ProbeBench.Config.Check

/-!
# What the check of a configuration accepts

The check of a configuration is the check of its fields, one by one, and of the names that are no
field. It looks a table up only at the names of the fields, and the file tree only at the paths of
the input files.

* `check_eq_ok_iff`: a configuration is accepted exactly if each of its fields is what the check of
  that field gives, and no name is left over.
* `check_fails`: a refusal lists issues, except where a path is too long to be looked up.
* `check_congr`: two tables that say the same of every field get the same answer.
-/

namespace ProbeBench.Config

variable {α : Type} {tree tree' : FileTree} {cwd : Path} {t t' : Table} {c : Config}

/-- Each field of a configuration is what the check of that field gives. -/
structure Accepts (tree : FileTree) (cwd : Path) (t : Table) (c : Config) : Prop where
  files : filesOf tree cwd t = .ok (.ok c.files)
  command : needed t "command" checkCommand = .ok c.command
  mode : optional t "mode" .completion checkMode = .ok c.mode
  language : optional t "language" defaultLanguage (checkText "language") = .ok c.language
  folders : optional t "workspace_folders" [cwd] (checkFolders cwd) = .ok c.workspaceFolders
  format : optional t "format" .human checkFormat = .ok c.format
  timeout : optional t "request_timeout" (some defaultTimeout) checkTimeout = .ok c.timeout
  onError : optional t "on_error" .skip checkPolicy = .ok c.onError
  verbose : optional t "verbose" false (checkTruth "verbose") = .ok c.verbose
  /-- No name is left over. -/
  names : unknownNames t = []

theorem check_eq_ok_iff : check tree cwd t = .ok c ↔ Accepts tree cwd t c := by
  constructor
  · intro accepted
    unfold check at accepted
    cases found : filesOf tree cwd t with
    | error f => simp [found, Bind.bind, Except.bind] at accepted
    | ok files =>
      simp only [found, Bind.bind, Except.bind, checkWith] at accepted
      split at accepted
      · split at accepted
        · rename_i clean
          cases accepted
          simp only [List.isEmpty_iff, List.append_eq_nil_iff] at clean
          exact ⟨found, ‹_›, ‹_›, ‹_›, ‹_›, ‹_›, ‹_›, ‹_›, ‹_›, clean.2⟩
        · cases accepted
      · cases accepted
  · rintro ⟨files, command, mode, language, folders, format, timeout, onError, verbose, names⟩
    simp [check, checkWith, Bind.bind, Except.bind, files, command, mode, language, folders, format,
      timeout, onError, verbose, names, issues]

theorem fileIssue?_fails {paths : List Path} {f : Failure}
    (stops : fileIssue? tree cwd paths = .error f) : f = .undecided .nameTooLong := by
  induction paths with
  | nil => cases stops
  | cons p rest ih =>
    unfold fileIssue? at stops
    split at stops
    · exact ih stops
    · exact ih stops
    · cases stops
    · cases stops
      rfl
    · cases stops

theorem checkFiles_fails {v : Setting} {f : Failure} (stops : checkFiles tree cwd v = .error f) :
    f = .undecided .nameTooLong := by
  unfold checkFiles at stops
  split at stops
  · cases stops
  · rename_i paths _
    cases looked : fileIssue? tree cwd paths with
    | error f' =>
      simp only [looked, Except.map, Except.error.injEq] at stops
      exact stops ▸ fileIssue?_fails looked
    | ok issue => simp [looked, Except.map] at stops

/-- The only thing that stops a check is a path that is too long to be looked up. -/
theorem filesOf_fails {f : Failure} (stops : filesOf tree cwd t = .error f) :
    f = .undecided .nameTooLong := by
  unfold filesOf at stops
  split at stops
  · exact checkFiles_fails stops
  · cases stops

theorem check_fails {f : Failure} (refused : check tree cwd t = .error f) :
    (f = .undecided .nameTooLong ∧ filesOf tree cwd t = .error f) ∨
      ∃ issues, f = .config (.invalid issues) := by
  unfold check at refused
  cases found : filesOf tree cwd t with
  | error f' =>
    have same : f' = f := by simpa [found, Bind.bind, Except.bind] using refused
    subst same
    exact .inl ⟨filesOf_fails found, rfl⟩
  | ok files =>
    simp only [found, Bind.bind, Except.bind, checkWith] at refused
    right
    split at refused
    · split at refused
      · cases refused
      · cases refused
        exact ⟨_, rfl⟩
    · cases refused
      exact ⟨_, rfl⟩

/-- What passes the check of the input files has a name that the system takes. -/
theorem named_of_fileIssue? {paths : List Path} (found : fileIssue? tree cwd paths = .ok none) :
    ∀ p ∈ paths, p.holdsNull = false := by
  induction paths with
  | nil => exact fun p there => absurd there List.not_mem_nil
  | cons p rest ih =>
    have named {e : FileEntry} (stands : tree.find cwd p = .ok e) : p.holdsNull = false := by
      cases null : p.holdsNull with
      | false => rfl
      | true => simp [FileTree.find, null] at stands
    unfold fileIssue? at found
    split at found
    · rename_i stands
      exact List.forall_mem_cons.mpr ⟨named stands, ih found⟩
    · rename_i stands
      exact List.forall_mem_cons.mpr ⟨named stands, ih found⟩
    · cases found
    · cases found
    · cases found

/-- Files are accepted if they are a list of paths, about none of which there is a complaint. -/
theorem checkFiles_eq_ok_iff {v : Setting} {found : List Path} :
    checkFiles tree cwd v = .ok (.ok found) ↔
      checkList checkPath "files" v = .ok found ∧ fileIssue? tree cwd found = .ok none := by
  unfold checkFiles
  cases read : checkList checkPath "files" v with
  | error issues => simp
  | ok paths =>
    constructor
    · intro accepted
      cases looked : fileIssue? tree cwd paths with
      | error f => simp [looked, Except.map] at accepted
      | ok issue =>
        cases issue with
        | some issue => simp [looked, Except.map] at accepted
        | none =>
          have same : paths = found := by simpa [looked, Except.map] using accepted
          exact ⟨congrArg _ same, same ▸ looked⟩
    · rintro ⟨⟨⟩, looked⟩
      simp [looked, Except.map]

theorem Accepts.named (h : Accepts tree cwd t c) : ∀ p ∈ c.files, p.holdsNull = false := by
  have found := h.files
  unfold filesOf at found
  split at found
  · exact named_of_fileIssue? (checkFiles_eq_ok_iff.mp found).2
  · cases found

/-- The format is the one of the name that was given, or the default. -/
theorem Accepts.formatNamed (h : Accepts tree cwd t c) :
    (t.get? "format" = none ∧ c.format = .human) ∨
      ∃ name, t.get? "format" = some (.text name) ∧ Format.ofName? name = some c.format := by
  have passed := h.format
  unfold optional at passed
  cases given : t.get? "format" with
  | none =>
    rw [given] at passed
    exact .inl ⟨rfl, (Except.ok.inj passed).symm⟩
  | some v =>
    rw [given] at passed
    cases v with
    | text name =>
      simp only [checkFormat, checkText, Bind.bind, Except.bind] at passed
      split at passed
      · rename_i found
        exact .inr ⟨name, rfl, Except.ok.inj passed ▸ found⟩
      · cases passed
    | _ => cases passed

/-! ### What a check looks at -/

theorem fileIssue?_congr {paths : List Path}
    (alike : ∀ p ∈ paths, tree'.find cwd p = tree.find cwd p) :
    fileIssue? tree' cwd paths = fileIssue? tree cwd paths := by
  induction paths with
  | nil => rfl
  | cons p rest ih =>
    unfold fileIssue?
    rw [alike p (by simp), ih fun q there => alike q (by simp [there])]

/-- Two tables say the same of a configuration: the same of every field, and both hold the same
names that are no field. -/
structure Table.Alike (t t' : Table) : Prop where
  fields : ∀ field ∈ fieldNames, t'.get? field = t.get? field
  names : unknownNames t' = unknownNames t

theorem needed_congr {field : String} (same : t'.get? field = t.get? field)
    (check : Setting → Checked α) : needed t' field check = needed t field check := by
  unfold needed
  rw [same]

theorem optional_congr {field : String} (same : t'.get? field = t.get? field) (otherwise : α)
    (check : Setting → Checked α) :
    optional t' field otherwise check = optional t field otherwise check := by
  unfold optional
  rw [same]

theorem checkWith_congr (alike : t.Alike t') (files : Checked (List Path)) :
    checkWith cwd files t' = checkWith cwd files t := by
  have same := alike.fields
  simp only [fieldNames, List.mem_cons, List.not_mem_nil, or_false, forall_eq_or_imp,
    forall_eq] at same
  obtain ⟨-, command, mode, language, folders, format, timeout, onError, verbose⟩ := same
  unfold checkWith
  rw [needed_congr command, optional_congr mode, optional_congr language, optional_congr folders,
    optional_congr format, optional_congr timeout, optional_congr onError, optional_congr verbose,
    alike.names]

theorem filesOf_congr (same : t'.get? "files" = t.get? "files") :
    filesOf tree cwd t' = filesOf tree cwd t := by
  unfold filesOf
  rw [same]

theorem check_congr (alike : t.Alike t') (found : filesOf tree' cwd t' = filesOf tree cwd t) :
    check tree' cwd t' = check tree cwd t := by
  unfold check
  rw [found]
  cases filesOf tree cwd t with
  | error f => rfl
  | ok files => exact checkWith_congr alike files

end ProbeBench.Config
