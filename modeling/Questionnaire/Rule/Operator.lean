/-!
The operators that a condition compares an answer with.
-/

namespace Questionnaire

/-- The four orderings of an answer against a value. -/
inductive Direction where
  | gt
  | lt
  | gte
  | lte
deriving DecidableEq, Repr

inductive Operator where
  | answered
  | notAnswered
  | equals
  | notEquals
  | order (direction : Direction)
  | between
  | contains
  | includesAny
  | includesAll
  | isTrue
  | isFalse
deriving DecidableEq, Repr

namespace Operator

/-- Every operator, in the order in which they are listed. -/
def all : List Operator :=
  [.answered, .notAnswered, .equals, .notEquals, .order .gt, .order .lt, .order .gte, .order .lte,
    .between, .contains, .includesAny, .includesAll, .isTrue, .isFalse]

def name : Operator → String
  | .answered => "answered"
  | .notAnswered => "not_answered"
  | .equals => "equals"
  | .notEquals => "not_equals"
  | .order .gt => "gt"
  | .order .lt => "lt"
  | .order .gte => "gte"
  | .order .lte => "lte"
  | .between => "between"
  | .contains => "contains"
  | .includesAny => "includes_any"
  | .includesAll => "includes_all"
  | .isTrue => "is_true"
  | .isFalse => "is_false"

/-- The words with the operators they stand for. -/
def words : List (String × Operator) := all.map fun operator => (operator.name, operator)

theorem mem_all (operator : Operator) : operator ∈ all := by
  cases operator with
  | order direction => cases direction <;> decide
  | _ => decide

end Operator

end Questionnaire
