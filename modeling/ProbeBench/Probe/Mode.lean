/-!
# Choices for a probe

What the server is asked for at each word, and what becomes of the run when it fails to answer.
-/

namespace ProbeBench.Probe

/-- What the server is asked for. -/
inductive Mode where
  | completion
  | definition
  deriving DecidableEq, Repr, Inhabited

/-- The name of a mode. -/
def Mode.name : Mode → String
  | .completion => "completion"
  | .definition => "definition"

/-- The mode of a name. -/
def Mode.ofName? (name : String) : Option Mode :=
  [Mode.completion, .definition].find? (·.name = name)

/-- What a failed request does to the run. -/
inductive Policy where
  /-- The run goes on; the failure is reported with the measurement. -/
  | skip
  /-- The run ends with the failure. -/
  | abort
  deriving DecidableEq, Repr, Inhabited

/-- The name of a policy. -/
def Policy.name : Policy → String
  | .skip => "skip"
  | .abort => "abort"

/-- The policy of a name. -/
def Policy.ofName? (name : String) : Option Policy :=
  [Policy.skip, .abort].find? (·.name = name)

theorem Mode.ofName?_name (m : Mode) : Mode.ofName? m.name = some m := by
  cases m <;> decide

theorem Policy.ofName?_name (p : Policy) : Policy.ofName? p.name = some p := by
  cases p <;> decide

end ProbeBench.Probe
