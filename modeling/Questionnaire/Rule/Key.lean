import Questionnaire.Order
import Questionnaire.Rule.Document

/-!
Keys by which rules with the same conditions are found.  The key of a condition is text throughout,
its value as it is shown; the keys of a rule stand in order, wherever its conditions stand.
-/

namespace Questionnaire

/-- A value as it is shown inside a collection. -/
def Operand.shown : Operand → String
  | .none => Json.null.shown
  | .scalar value => value.toJson.shown
  | .list values => (Json.ofList Scalar.toJson values).shown
  | .range bounds => "RangeValue(min=" ++ bounds.low.text ++ ", max=" ++ bounds.high.text ++ ")"

/-- What a condition says, as text. -/
structure ConditionKey where
  questionId : String
  operator : String
  value : String
deriving DecidableEq

/-- The order of keys: by question, then by operator, then by value. -/
def ConditionKey.below (a b : ConditionKey) : Bool :=
  textBelow a.questionId b.questionId || a.questionId = b.questionId
    && (textBelow a.operator b.operator || a.operator = b.operator && textBelow a.value b.value)

def Condition.key (condition : Condition) : ConditionKey :=
  ⟨condition.questionId, condition.operator.name, condition.test.operand.shown⟩

/-- The junction with the keys of the conditions in order. -/
def Rule.conditionKey (rule : Rule) : String × List ConditionKey :=
  (rule.junction.name, sortBy ConditionKey.below (rule.conditions.map Condition.key))

end Questionnaire
