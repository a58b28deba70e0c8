import Questionnaire.Schema.Issue

/-!
The outcome of checking data against a schema.  The parts of a record are all checked, and their
issues are listed in the order of the parts; a value that a check cannot even look at ends the whole
check with a fault.
-/

namespace Questionnaire

/-- Data that agrees with a schema, or what is wrong with it. -/
inductive Validated (α : Type) where
  | valid (value : α)
  | issues (found : List Issue)
  | fault (cause : Fault)

namespace Validated

variable {α β : Type}

instance [Inhabited α] : Inhabited (Validated α) := ⟨.valid default⟩

def map (f : α → β) : Validated α → Validated β
  | .valid value => .valid (f value)
  | .issues found => .issues found
  | .fault cause => .fault cause

/-- Checks both parts: a fault of either ends the check, and issues add up. -/
def ap (f : Validated (α → β)) (x : Unit → Validated α) : Validated β :=
  match f, x () with
  | .fault cause, _ => .fault cause
  | _, .fault cause => .fault cause
  | .valid f, .valid value => .valid (f value)
  | .valid _, .issues found => .issues found
  | .issues found, .valid _ => .issues found
  | .issues found, .issues more => .issues (found ++ more)

instance : Functor Validated where
  map := map

instance : Applicative Validated where
  pure := .valid
  seq := ap

/-- A further check of data that agreed so far. -/
def andThen (x : Validated α) (check : α → Validated β) : Validated β :=
  match x with
  | .valid value => check value
  | .issues found => .issues found
  | .fault cause => .fault cause

/-- One issue at the place itself. -/
def issue (kind : IssueKind) : Validated α := .issues [⟨[], kind⟩]

/-- The same outcome seen from one step further out. -/
def under (step : PathStep) : Validated α → Validated α
  | .issues found => .issues (found.map (·.under step))
  | other => other

def toOption : Validated α → Option α
  | .valid value => some value
  | _ => none

/-- The outcomes of a list of checks, all of them made. -/
def all : List (Validated α) → Validated (List α)
  | [] => .valid []
  | x :: rest => List.cons <$> x <*> all rest

@[simp] theorem map_valid (f : α → β) (a : α) : f <$> Validated.valid a = .valid (f a) := rfl

@[simp] theorem ap_valid (f : α → β) (a : α) :
    (Validated.valid f) <*> (Validated.valid a) = .valid (f a) := rfl

/-- Issues of both parts are kept, those of the first part first. -/
theorem ap_issues (found more : List Issue) :
    (Validated.issues found : Validated (α → β)) <*> (Validated.issues more : Validated α)
      = .issues (found ++ more) := rfl

end Validated

end Questionnaire
