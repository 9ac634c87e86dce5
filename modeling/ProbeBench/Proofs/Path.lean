import ProbeBench.Path

/-!
# Paths read back

The text of a path that was read from a text is read as the same path. Reading a path loses empty
names and single dots, so this is not so of the text that was read first.

* `ofText_tidy`: a path that was read is tidy: its root is one of three, and none of its names is
  empty, is a dot alone or holds a slash.
* `ofText_text`: a tidy path is what its text says.
-/

namespace ProbeBench.Path

/-- A name that reading a path keeps. -/
def IsName (cs : List Char) : Prop := cs ≠ [] ∧ cs ≠ ['.'] ∧ '/' ∉ cs

/-- A path as reading gives it. -/
structure Tidy (p : Path) : Prop where
  root : p.root = "" ∨ p.root = "/" ∨ p.root = "//"
  names : ∀ n ∈ p.names, IsName n.toList

theorem splitSlash_eq_splitOn (cs : List Char) : splitSlash cs = cs.splitOn '/' := by
  induction cs with
  | nil => rfl
  | cons c rest ih =>
    unfold splitSlash
    rw [ih, List.splitOn_cons_eq_if_modifyHead]
    by_cases slash : c = '/'
    · simp [slash]
    · cases pieces : rest.splitOn '/' with
      | nil => exact absurd pieces (List.splitOn_ne_nil _ _)
      | cons piece more => simp [slash]

theorem not_mem_of_mem_splitSlash {cs piece : List Char} (there : piece ∈ splitSlash cs) :
    '/' ∉ piece := by
  induction cs generalizing piece with
  | nil =>
    simp only [splitSlash, List.mem_singleton] at there
    simp [there]
  | cons c rest ih =>
    unfold splitSlash at there
    by_cases slash : c = '/'
    · simp only [slash, if_true, List.mem_cons] at there
      rcases there with rfl | there
      · simp
      · exact ih there
    · simp only [slash, if_false] at there
      cases pieces : splitSlash rest with
      | nil =>
        simp only [pieces, List.mem_singleton] at there
        simp [there, Ne.symm slash]
      | cons first more =>
        simp only [pieces, List.mem_cons] at there
        rcases there with rfl | there
        · have noSlash : '/' ∉ first := ih (by simp [pieces])
          simp [Ne.symm slash, noSlash]
        · exact ih (by simp [pieces, there])

theorem rootOf_mem (cs : List Char) : rootOf cs = "" ∨ rootOf cs = "/" ∨ rootOf cs = "//" := by
  unfold rootOf
  split <;> simp

theorem ofText_tidy (s : String) : (ofText s).Tidy := by
  refine ⟨rootOf_mem _, ?_⟩
  intro n there
  simp only [ofText, List.mem_map, List.mem_filter, decide_eq_true_eq] at there
  obtain ⟨piece, ⟨there, filled, noDot⟩, rfl⟩ := there
  exact ⟨by simpa using filled, by simpa using noDot,
    by simpa using not_mem_of_mem_splitSlash there⟩

/-- The names that a text keeps. -/
def namesOf (cs : List Char) : List (List Char) :=
  (splitSlash cs).filter fun p => p ≠ [] ∧ p ≠ ['.']

theorem ofText_eq (s : String) : ofText s = ⟨rootOf s.toList, (namesOf s.toList).map .ofList⟩ := rfl

@[simp]
theorem namesOf_slash (cs : List Char) : namesOf ('/' :: cs) = namesOf cs := by
  simp [namesOf, splitSlash]

theorem namesOf_intercalate {names : List (List Char)} (tidy : ∀ n ∈ names, IsName n) :
    namesOf (['/'].intercalate names) = names := by
  unfold namesOf
  cases names with
  | nil => rfl
  | cons n rest =>
    rw [splitSlash_eq_splitOn, List.splitOn_intercalate '/' (fun n there => (tidy n there).2.2)
      (by simp)]
    exact List.filter_eq_self.mpr fun m there => by
      simp [(tidy m there).1, (tidy m there).2.1]

/-- What stands between the slashes does not begin with one. -/
theorem head?_intercalate {names : List (List Char)} (tidy : ∀ n ∈ names, IsName n) :
    (['/'].intercalate names).head? ≠ some '/' := by
  cases names with
  | nil => simp
  | cons n rest =>
    obtain ⟨filled, -, noSlash⟩ := tidy n (by simp)
    cases n with
    | nil => exact absurd rfl filled
    | cons c more =>
      have other : c ≠ '/' := fun slash => noSlash (by simp [slash])
      cases rest with
      | nil => simpa [List.intercalate_singleton] using other
      | cons m rest => simpa [List.intercalate_cons_cons] using other

theorem rootOf_of_head {cs : List Char} (noSlash : cs.head? ≠ some '/') :
    rootOf cs = "" ∧ rootOf ('/' :: cs) = "/" ∧ rootOf ('/' :: '/' :: cs) = "//" := by
  cases cs with
  | nil => exact ⟨rfl, rfl, rfl⟩
  | cons c rest =>
    have other : c ≠ '/' := fun slash => noSlash (by simp [slash])
    unfold rootOf
    split <;> simp_all

/-- **A path that was read is what its text says.** -/
theorem ofText_text {p : Path} (tidy : p.Tidy) : ofText p.text = p := by
  obtain ⟨root, names⟩ := p
  have named : ∀ n ∈ names.map String.toList, IsName n := by
    intro n there
    obtain ⟨m, listed, rfl⟩ := List.mem_map.mp there
    exact tidy.names m listed
  have back :
      (namesOf (['/'].intercalate (names.map String.toList))).map String.ofList = names := by
    rw [namesOf_intercalate named, List.map_map]
    simp [Function.comp_def]
  obtain ⟨bare, one, two⟩ := rootOf_of_head (head?_intercalate named)
  by_cases empty : root = "" ∧ names = []
  · obtain ⟨rfl, rfl⟩ := empty
    decide
  · have text : (Path.mk root names).text = root ++ "/".intercalate names := by
      simp [Path.text, empty]
    rw [text, ofText_eq, String.toList_append, String.toList_intercalate]
    rcases tidy.root with h | h | h
    all_goals
      simp only at h
      subst h
      simp [bare, one, two, back]

end ProbeBench.Path
