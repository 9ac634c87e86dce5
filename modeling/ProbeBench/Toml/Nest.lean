import ProbeBench.Config.Setting
import ProbeBench.Toml.Fault

/-!
# Tables within tables

A key of several names leads through tables, which are made where they are missing, and through the
last table of a list of tables. `Marks` remember what a document has said about its keys:

* a key is **frozen** when a list or a table was written in place behind it; nothing at or below it
  can be added to;
* a key is **declared** when a header, or a dotted key under an earlier header, opened a table
  there; another header cannot open it again.
-/

namespace ProbeBench.Toml

open ProbeBench.Config

/-- What a document has said about a key. -/
inductive Mark where
  | frozen (key : Key)
  | declared (key : Key)
  deriving DecidableEq, Repr

/-- The key of a mark. -/
def Mark.key : Mark → Key
  | .frozen key => key
  | .declared key => key

/-- What a document has said about its keys. -/
abbrev Marks := List Mark

namespace Marks

/-- Whether nothing can be added at a key. -/
def isFrozen (marks : Marks) (key : Key) : Bool :=
  marks.any fun
    | .frozen other => other.isPrefixOf key
    | .declared _ => false

/-- Whether a table was opened at a key. -/
def isDeclared (marks : Marks) (key : Key) : Bool :=
  marks.contains (.declared key)

/-- Takes away what was said about a key and all below it. -/
def release (marks : Marks) (key : Key) : Marks :=
  marks.filter fun m => !key.isPrefixOf m.key

theorem isDeclared_cons_self (marks : Marks) (key : Key) :
    Marks.isDeclared (.declared key :: marks) key = true := by
  simp [isDeclared]

theorem isFrozen_of_release {marks : Marks} {key other : Key}
    (h : (marks.release key).isFrozen other = true) : marks.isFrozen other = true := by
  unfold isFrozen release at *
  rw [List.any_filter, List.any_eq_true] at h
  rw [List.any_eq_true]
  obtain ⟨m, hm, hp⟩ := h
  exact ⟨m, hm, by cases m <;> simp_all⟩

end Marks

/-- Changes the table that a key leads to, making tables on the way. Lists of tables are passed
through by their last table if `lists` says so. -/
def change (lists : Bool) (f : Table → Except Reason Table) :
    Key → Table → Except Reason Table
  | [], t => f t
  | name :: rest, t =>
    match t.get? name with
    | none => (change lists f rest []).map fun s => t.put name (.table s)
    | some (.table inner) => (change lists f rest inner).map fun s => t.put name (.table s)
    | some (.list items) =>
      match lists, items.getLast? with
      | true, some (.table inner) =>
        (change lists f rest inner).map fun s => t.put name (.list (items.dropLast ++ [.table s]))
      | _, _ => .error .overwritten
    | some _ => .error .overwritten

/-- Gives a key its value; `taken` is the complaint if it has one. -/
def insert (name : String) (value : Setting) (taken : Reason) (t : Table) : Except Reason Table :=
  if t.has name then .error taken else .ok (t.put name value)

/-- Adds an empty table to the list of tables at a key. -/
def extend (name : String) (t : Table) : Except Reason Table :=
  match t.get? name with
  | none => .ok (t.put name (.list [.table []]))
  | some (.list items) => .ok (t.put name (.list (items ++ [.table []])))
  | some _ => .error .overwritten

/-- Whether a value was written in place. -/
def isInPlace : Setting → Bool
  | .list _ => true
  | .table _ => true
  | _ => false

end ProbeBench.Toml
