import ProbeBench.Config.Calendar
import ProbeBench.Decimal.Reading
import ProbeBench.Json.Printer

/-!
# Settings

A value that a configuration holds before it is checked: what a configuration file can say, what the
command line gives, or nothing. Tables keep the order of their keys; `put` sets a key where it
stands and adds a new one at the end. `literal` writes a value the way messages show it.
-/

namespace ProbeBench.Config

/-- A value of a configuration. -/
inductive Setting where
  | null
  | bool (b : Bool)
  | int (n : Int)
  | float (x : Float)
  | text (s : String)
  | date (d : Date)
  | clock (c : Clock)
  | moment (m : Moment)
  | list (items : List Setting)
  | table (entries : List (String × Setting))
  deriving Inhabited

/-- Settings by their keys. -/
abbrev Table := List (String × Setting)

namespace Table

/-- The setting of a key. -/
def get? (t : Table) (key : String) : Option Setting :=
  (t.find? fun e => e.1 = key).map (·.2)

/-- Sets a key: in its place if it is there, else at the end. -/
def put (t : Table) (key : String) (value : Setting) : Table :=
  match t with
  | [] => [(key, value)]
  | e :: rest => if e.1 = key then (key, value) :: rest else e :: put rest key value

/-- Whether a key is set. -/
def has (t : Table) (key : String) : Bool :=
  t.any fun e => e.1 = key

theorem get?_put_self (t : Table) (key : String) (value : Setting) :
    (t.put key value).get? key = some value := by
  induction t with
  | nil => simp [put, get?]
  | cons e rest ih =>
    unfold put
    by_cases h : e.1 = key
    · simp [h, get?]
    · simpa [h, get?, List.find?] using ih

theorem get?_put_of_ne (t : Table) {key other : String} (value : Setting) (h : other ≠ key) :
    (t.put key value).get? other = t.get? other := by
  have h' : ¬ key = other := fun e => h e.symm
  induction t with
  | nil => simp [put, get?, h']
  | cons e rest ih =>
    unfold put
    by_cases hk : e.1 = key
    · have : ¬ e.1 = other := by rw [hk]; exact h'
      simp [hk, get?, h']
    · by_cases ho : e.1 = other
      · simp [get?, ho, h]
      · simp only [get?, hk, if_false, List.find?, ho, decide_false] at *
        exact ih

end Table

namespace Setting

mutual

/-- A value as messages show it. -/
def literal : Setting → String
  | .null => Text.Literal.absent
  | .bool b => Text.Literal.bool b
  | .int n => String.ofList (Json.intText n)
  | .float x => Decimal.message x
  | .text s => Text.Literal.text s
  | .date d => d.literal
  | .clock c => c.literal
  | .moment m => m.literal
  | .list items => Text.Literal.list (itemLiterals items)
  | .table entries => Text.Literal.table (entryLiterals entries)

/-- The literals of the items of a list. -/
def itemLiterals : List Setting → List String
  | [] => []
  | v :: rest => literal v :: itemLiterals rest

/-- The literals of the entries of a table. -/
def entryLiterals : List (String × Setting) → List (String × String)
  | [] => []
  | (k, v) :: rest => (Text.Literal.text k, literal v) :: entryLiterals rest

end

mutual

/-- Whether messages can show a value: no whole number in it has too many digits. -/
def isWritable : Setting → Bool
  | .int n => Decimal.isWritable n
  | .list items => areWritable items
  | .table entries => entriesWritable entries
  | _ => true

/-- Whether messages can show all values of a list. -/
def areWritable : List Setting → Bool
  | [] => true
  | v :: rest => isWritable v && areWritable rest

/-- Whether messages can show all values of a table. -/
def entriesWritable : List (String × Setting) → Bool
  | [] => true
  | (_, v) :: rest => isWritable v && entriesWritable rest

end

/-- Whether there is no value. -/
def isNull : Setting → Bool
  | .null => true
  | _ => false

end Setting

end ProbeBench.Config
