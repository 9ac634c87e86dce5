/-!
# JSON values

A value of the data that frames carry. Members of an object keep their order; `put` sets a member
where it stands and adds a new one at the end. Whole numbers and floating ones are told apart.
-/

namespace ProbeBench

/-- A JSON value. -/
inductive Json where
  | null
  | bool (b : Bool)
  | int (n : Int)
  | float (x : Float)
  | str (s : String)
  | arr (items : List Json)
  | obj (members : List (String × Json))
  deriving Inhabited

/-- The members of an object, in order. -/
abbrev Members := List (String × Json)

namespace Members

/-- The member called `key`. -/
def get? (ms : Members) (key : String) : Option Json :=
  (ms.find? fun m => m.1 = key).map (·.2)

/-- Sets the member called `key`: in its place if there is one, else at the end. -/
def put (ms : Members) (key : String) (value : Json) : Members :=
  match ms with
  | [] => [(key, value)]
  | m :: rest => if m.1 = key then (key, value) :: rest else m :: put rest key value

/-- The members of a list of pairs in which a later pair overrides an earlier one of its key. -/
def ofPairs (pairs : List (String × Json)) : Members :=
  pairs.foldl (fun ms p => ms.put p.1 p.2) []

/-- Whether there is a member called `key`. -/
def has (ms : Members) (key : String) : Bool :=
  ms.any fun m => m.1 = key

theorem get?_put_self (ms : Members) (key : String) (value : Json) :
    (ms.put key value).get? key = some value := by
  induction ms with
  | nil => simp [put, get?]
  | cons m rest ih =>
    unfold put
    by_cases h : m.1 = key
    · simp [h, get?]
    · simpa [h, get?, List.find?] using ih

theorem get?_put_of_ne (ms : Members) {key other : String} (value : Json) (h : other ≠ key) :
    (ms.put key value).get? other = ms.get? other := by
  have h' : ¬ key = other := fun e => h e.symm
  induction ms with
  | nil => simp [put, get?, h']
  | cons m rest ih =>
    unfold put
    by_cases hm : m.1 = key
    · have : ¬ m.1 = other := by rw [hm]; exact h'
      simp [hm, get?, h']
    · by_cases ho : m.1 = other
      · simp [get?, ho, h]
      · simp only [get?, hm, if_false, List.find?, ho, decide_false] at *
        exact ih

end Members

namespace Json

/-- The members of an object; other values have none. -/
def members : Json → Members
  | .obj ms => ms
  | _ => []

/-- The member of an object called `key`. -/
def get? (v : Json) (key : String) : Option Json :=
  v.members.get? key

/-- The text of a string. -/
def str? : Json → Option String
  | .str s => some s
  | _ => none

/-- Whether the value is `null`. -/
def isNull : Json → Bool
  | .null => true
  | _ => false

end Json

end ProbeBench
