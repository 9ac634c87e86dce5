import ProbeBench.Config.File
import ProbeBench.Proofs.Text.Utf8
import ProbeBench.Proofs.Toml.Document

/-!
# What a configuration file can do

A configuration file may hold any octets. They are decoded, their line ends are unified, the text is
read as a document, and a table is taken out of it; each of these can fail, and nearly all of the
failures are faults of the configuration, which are reported as such. Two are not: octets that are
no text, and a whole number of too many digits.

* `config_file_answers`: a file that is text, and in which no run of digits is too long, gives a
  table or a fault of the configuration.
* `undecodable_escapes`, `digits_escape`: the two failures that are none.
-/

namespace ProbeBench.Config

variable {α β : Type} {tree : FileTree} {cwd : Path} {source : Source} {octets : List UInt8}
  {text : List Char}

/-! ### Runs of digits while line ends are unified -/

theorem prefix_of_unifyLineEnds {run : List Char} (digits : ∀ c ∈ run, Decimal.isGroupChar c = true)
    (begins : run <+: Text.unifyLineEnds text) : run <+: text := by
  induction run generalizing text with
  | nil => exact List.nil_prefix
  | cons d run ih =>
    have digit : d ≠ '\n' := by
      rintro rfl
      exact absurd (digits '\n' (by simp)) (by decide)
    unfold Text.unifyLineEnds at begins
    split at begins
    · exact begins
    · exact absurd (List.cons_prefix_cons.mp begins).1 digit
    · rename_i c rest _
      obtain ⟨same, more⟩ := List.cons_prefix_cons.mp begins
      split at same
      · exact absurd same digit
      · exact List.cons_prefix_cons.mpr ⟨same, ih (fun c there => digits c (by simp [there])) more⟩

theorem infix_of_unifyLineEnds {run : List Char} (digits : ∀ c ∈ run, Decimal.isGroupChar c = true)
    (inside : run <:+: Text.unifyLineEnds text) : run <:+: text := by
  induction text using Text.unifyLineEnds.induct with
  | case1 => exact inside
  | case2 rest ih =>
    rcases List.infix_cons_iff.mp inside with begins | later
    · have begins : run <+: Text.unifyLineEnds ('\r' :: '\n' :: rest) := begins
      exact (prefix_of_unifyLineEnds digits begins).isInfix
    · exact (ih later).trans (List.suffix_append ['\r', '\n'] rest).isInfix
  | case3 c rest other ih =>
    rw [Text.unifyLineEnds.eq_3 _ _ other] at inside
    rcases List.infix_cons_iff.mp inside with begins | later
    · rw [← Text.unifyLineEnds.eq_3 _ _ other] at begins
      exact (prefix_of_unifyLineEnds digits begins).isInfix
    · exact (ih later).trans (List.suffix_cons c rest).isInfix

/-- Unifying line ends makes no run of digits longer. -/
theorem holdsLong_of_unifyLineEnds (long : Toml.HoldsLong (Text.unifyLineEnds text)) :
    Toml.HoldsLong text := by
  obtain ⟨run, inside, digits, count⟩ := long
  exact ⟨run, infix_of_unifyLineEnds digits inside, digits, count⟩

/-! ### What is reported -/

/-- A result, or a fault of the configuration. -/
inductive Answers : Except Failure α → Prop where
  | ok {a : α} : Answers (.ok a)
  | config {fault : Fault} : Answers (.error (.config fault))

theorem Answers.bind {r : Except Failure α} {f : α → Except Failure β} (first : Answers r)
    (next : ∀ a, Answers (f a)) : Answers (r >>= f) := by
  cases first with
  | ok => exact next _
  | config => exact .config

/-- Where the file of a source is. -/
def Source.path : Source → Path
  | .named path => path
  | .directory path => path.under (Path.ofText defaultFile)

theorem readOctets_answers {path : Path} (decoded : Text.Utf8.decode octets = .ok text)
    (short : ¬ Toml.HoldsLong text) : Answers (readOctets path octets) := by
  unfold readOctets
  rw [decoded]
  dsimp only
  cases parsed : Toml.parse (Text.unifyLineEnds text) with
  | ok t => exact .ok
  | error fault =>
    cases fault with
    | «at» => exact .config
    | atEnd => exact .config
    | digits count =>
      exact absurd (holdsLong_of_unifyLineEnds (Toml.holdsLong_of_parse parsed)) short

theorem load_eq_readOctets (found : tree.read cwd source.path = .ok octets) :
    load tree cwd source = readOctets source.path octets := by
  cases source with
  | named path =>
    have found : tree.read cwd path = .ok octets := found
    simp [load, readFile, found, Source.path]
  | directory path =>
    have found : tree.read cwd (path.under (Path.ofText defaultFile)) = .ok octets := found
    simp [load, readFile, found, Source.path]

theorem settingsOf_answers (document : Table) : Answers (settingsOf document) := by
  unfold settingsOf
  split
  · exact .ok
  · exact .ok
  · exact .config

/-- **A configuration file gives a table or a fault of the configuration,** and so do the settings
in it, as long as it is text and no run of digits in it is too long for a number. -/
theorem config_file_answers (found : tree.read cwd source.path = .ok octets)
    (decoded : Text.Utf8.decode octets = .ok text) (short : ¬ Toml.HoldsLong text) :
    Answers (load tree cwd source) ∧ Answers (loadSettings tree cwd source) := by
  have loaded : Answers (load tree cwd source) := by
    rw [load_eq_readOctets found]
    exact readOctets_answers decoded short
  exact ⟨loaded, loaded.bind settingsOf_answers⟩

/-- A text of no more characters than a number may have digits holds no run that is too long. -/
theorem not_holdsLong_of_length (few : text.length ≤ Decimal.maxDigits) :
    ¬ Toml.HoldsLong text := by
  rintro ⟨run, inside, -, long⟩
  have count : run.countP Decimal.isDigit ≤ run.length := List.countP_le_length
  have length := inside.length_le
  omega

/-- A directory at the root with a configuration file. -/
def fileOf (octets : List UInt8) : FileTree := [(["lsp-bench.toml"], .file octets false 0)]

theorem read_fileOf (octets : List UInt8) :
    (fileOf octets).read ⟨"/", []⟩ (Source.directory ⟨"/", []⟩).path = .ok octets := rfl

/-- A bracket that is not closed is a fault of the configuration. -/
theorem config_file_answers_open :
    Answers (load (fileOf [0x5b, 0x61]) ⟨"/", []⟩ (.directory ⟨"/", []⟩)) ∧
      Answers (loadSettings (fileOf [0x5b, 0x61]) ⟨"/", []⟩ (.directory ⟨"/", []⟩)) :=
  have decoded : Text.Utf8.decode [0x5b, 0x61] = .ok ['[', 'a'] := rfl
  config_file_answers (read_fileOf [0x5b, 0x61]) decoded (not_holdsLong_of_length (by decide))

/-! ### What is not -/

/-- An octet that no text has is not reported as a fault of the configuration. -/
theorem undecodable_escapes :
    load (fileOf [0xff]) ⟨"/", []⟩ (.directory ⟨"/", []⟩) =
      .error (.undecodable ⟨0, 1, 0xff, .invalidStart⟩) := rfl

theorem unifyLineEnds_of_not_mem (noReturn : '\r' ∉ text) : Text.unifyLineEnds text = text := by
  induction text using Text.unifyLineEnds.induct with
  | case1 => rfl
  | case2 rest ih => simp at noReturn
  | case3 c rest other ih =>
    simp only [List.mem_cons, not_or] at noReturn
    rw [Text.unifyLineEnds.eq_3 _ _ other, ih noReturn.2, if_neg (Ne.symm noReturn.1)]

/-- Nor is a number of too many digits. -/
theorem digits_escape {n : Nat} (long : Decimal.maxDigits < n + 5) :
    load (fileOf (Text.Utf8.encode ('n' :: '=' :: Toml.ones n))) ⟨"/", []⟩ (.directory ⟨"/", []⟩) =
      .error (.digits (n + 5)) := by
  have noReturn : '\r' ∉ 'n' :: '=' :: Toml.ones n := by simp [Toml.ones]
  rw [load_eq_readOctets (read_fileOf _), readOctets, Text.Utf8.decode_encode]
  dsimp only
  rw [unifyLineEnds_of_not_mem noReturn, Toml.parse_ones long]
  rfl

end ProbeBench.Config
