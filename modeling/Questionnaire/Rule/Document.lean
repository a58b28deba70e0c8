import Questionnaire.Rule.Basic
import Questionnaire.Schema.Fields
import Questionnaire.Text.Case

/-!
Rules read from data and written back.  Reading takes a few liberties: a single value for an
operator that takes a list stands for the list of it, and the junction may be in any case.
-/

namespace Questionnaire

/-- A truth value, number or text as such. -/
def Scalar.ofJson : Schema.Check Scalar
  | .bool value => .valid (.truth value)
  | .num value => .valid (.number value)
  | .str value => .valid (.text value)
  | _ => .issues
    [⟨[.name "bool"], .truth⟩, ⟨[.name "int"], .integer⟩, ⟨[.name "float"], .number⟩,
      ⟨[.name "str"], .text⟩]

namespace NumberRange

def ofBounds (low high : Number) : Validated NumberRange :=
  if h : high.lt low = false then .valid ⟨low, high, h⟩
  else .issue (.rule ("between range min (" ++ low.text ++ ") > max (" ++ high.text ++ ")"))

def ofJson : Schema.Check NumberRange :=
  Schema.record "RangeValue" fun entries =>
    (Prod.mk <$> Schema.required entries "min" Schema.number
      <*> Schema.required entries "max" Schema.number).andThen fun (low, high) => ofBounds low high

def toJson (range : NumberRange) : Json := .obj [("min", .num range.low), ("max", .num range.high)]

end NumberRange

/-- The value written beside an operator, before it is known to fit. -/
inductive Operand where
  | none
  | scalar (value : Scalar)
  | list (values : List Scalar)
  | range (bounds : NumberRange)
deriving DecidableEq

namespace Operand

private def rangeMember : PathStep := .name "function-after[_ordered(), RangeValue]"
private def listMember : PathStep := .name "list[union[bool,int,float,str]]"

/-- The issues of a value that is neither a range, nor a list of scalars, nor a scalar. -/
private def mismatch (found more : List Issue) (v : Json) : Validated Operand :=
  match Scalar.ofJson v with
  | .issues last =>
    .issues (found.map (·.under rangeMember) ++ more.map (·.under listMember) ++ last)
  | .valid value => .valid (.scalar value)
  | .fault cause => .fault cause

def ofJson : Schema.Check Operand
  | .null => .valid .none
  | v => match NumberRange.ofJson v with
    | .valid bounds => .valid (.range bounds)
    | .fault cause => .fault cause
    | .issues found => match Schema.list Scalar.ofJson v with
      | .valid values => .valid (.list values)
      | .fault cause => .fault cause
      | .issues more => mismatch found more v

def toJson? : Operand → Option Json
  | .none => Option.none
  | .scalar value => some value.toJson
  | .list values => some (.arr (values.map (·.toJson)))
  | .range bounds => some bounds.toJson

end Operand

namespace AnswerTest

private def takesNone (operator : Operator) (test : AnswerTest) : Operand → Validated AnswerTest
  | .none => .valid test
  | _ => .issue (.rule ("operator '" ++ operator.name ++ "' takes no value"))

private def takesScalar (operator : Operator) (test : Scalar → AnswerTest) :
    Operand → Validated AnswerTest
  | .scalar value => .valid (test value)
  | _ => .issue (.rule ("operator '" ++ operator.name ++ "' requires a scalar value"))

private def takesList (operator : Operator)
    (test : (values : List Scalar) → values ≠ [] → AnswerTest) :
    Operand → Validated AnswerTest
  | .list (value :: values) => .valid (test (value :: values) (by simp))
  | _ => .issue (.rule ("operator '" ++ operator.name ++ "' requires a non-empty list value"))

/-- Joins an operator with its value, if the value has the shape that the operator takes. -/
def ofOperand (operator : Operator) (operand : Operand) : Validated AnswerTest :=
  match operator with
  | .answered => takesNone operator .answered operand
  | .notAnswered => takesNone operator .notAnswered operand
  | .isTrue => takesNone operator .isTrue operand
  | .isFalse => takesNone operator .isFalse operand
  | .equals => takesScalar operator .equals operand
  | .notEquals => takesScalar operator .notEquals operand
  | .contains => takesScalar operator .contains operand
  | .order direction => takesScalar operator (.order direction) operand
  | .includesAny => takesList operator .includesAny operand
  | .includesAll => takesList operator .includesAll operand
  | .between => match operand with
    | .range range => .valid (.between range)
    | _ => .issue (.rule "operator 'between' requires a \x7bmin, max\x7d value")

def operand : AnswerTest → Operand
  | .equals value => .scalar value
  | .notEquals value => .scalar value
  | .contains value => .scalar value
  | .order _ value => .scalar value
  | .between range => .range range
  | .includesAny values _ => .list values
  | .includesAll values _ => .list values
  | _ => .none

end AnswerTest

namespace Condition

/-- A single value beside an operator that takes a list becomes the list of it.  The operator is
looked up in a set, which a list or an object cannot be. -/
def wrapSingle (entries : Entries Json) : Validated (Entries Json) :=
  match entries.get? "operator" with
  | some (.arr _) => .fault .wrongKind
  | some (.obj _) => .fault .wrongKind
  | some (.str word) =>
    if word = Operator.includesAny.name ∨ word = Operator.includesAll.name then
      match entries.get? "value" with
      | none => .valid entries
      | some .null => .valid entries
      | some (.arr _) => .valid entries
      | some v => .valid (entries.put "value" (.arr [v]))
    else .valid entries
  | _ => .valid entries

def ofJson : Schema.Check Condition :=
  Schema.record "LogicCondition" fun entries =>
    (wrapSingle entries).andThen fun entries =>
      ((fun id operator operand => (id, operator, operand))
        <$> Schema.required entries "questionId" Schema.text
        <*> Schema.required entries "operator" (Schema.choice Operator.words)
        <*> Schema.withDefault entries "value" .none Operand.ofJson).andThen
          fun (id, operator, operand) =>
            (AnswerTest.ofOperand operator operand).map fun test => ⟨id, test⟩

def toJson (condition : Condition) : Json :=
  Json.ofFields
    [("questionId", some (.str condition.questionId)),
      ("operator", some (.str condition.operator.name)),
      ("value", condition.test.operand.toJson?)]

end Condition

namespace Action

def withTarget (kind : ActionKind) (action : String → Action) :
    Option String → Validated Action
  | some target =>
    if target = "" then missing else .valid (action target)
  | none => missing
where
  missing : Validated Action :=
    .issue (.rule ("'" ++ kind.name ++ "' rules require a targetQuestionId"))

/-- Joins a kind of action with the target written beside it. -/
def ofTarget (kind : ActionKind) (target : Option String) : Validated Action :=
  match kind with
  | .skip => withTarget kind .skip target
  | .reveal => withTarget kind .reveal target
  | .jump => withTarget kind .jump target
  | .finish => match target with
    | none => .valid (.finish false)
    | some target =>
      if target = "" then .valid (.finish true)
      else .issue (.rule "'end' rules take no targetQuestionId")

end Action

namespace Rule

private def junctionOfJson : Schema.Check Junction
  | .str word => Schema.choice Junction.words (.str (Text.lower word))
  | v => Schema.choice Junction.words v

private def ofParts (id : String) (conditions : List Condition) (junction : Junction)
    (action : Action) : Validated Rule :=
  if h : conditions ≠ [] then .valid ⟨id, conditions, h, junction, action⟩
  else .issue (.tooShort 1 0)

def ofJson : Schema.Check Rule :=
  Schema.record "LogicRule" fun entries =>
    ((fun id conditions junction kind target => (id, conditions, junction, kind, target))
      <$> Schema.required entries "id" Schema.text
      <*> Schema.required entries "conditions" (Schema.boundedList Condition.ofJson (some 1) none)
      <*> Schema.withDefault entries "conditionLogic" .all junctionOfJson
      <*> Schema.required entries "action" (Schema.choice ActionKind.words)
      <*> Schema.optionalField entries "targetQuestionId" Schema.text).andThen
        fun (id, conditions, junction, kind, target) =>
          (Action.ofTarget kind target).andThen fun action => ofParts id conditions junction action

def toJson (rule : Rule) : Json :=
  Json.ofFields
    [("id", some (.str rule.id)),
      ("conditions", some (Json.ofList Condition.toJson rule.conditions)),
      ("conditionLogic", some (.str rule.junction.name)),
      ("action", some (.str rule.action.kind.name)),
      ("targetQuestionId", rule.action.writtenTarget?.map .str)]

end Rule

namespace LegacySkip

def ofJson : Schema.Check LegacySkip :=
  Schema.record "LegacySkipCondition" fun entries =>
    LegacySkip.mk <$> Schema.required entries "questionId" Schema.text
      <*> Schema.required entries "answer" Scalar.ofJson

def toJson (skip : LegacySkip) : Json :=
  .obj [("questionId", .str skip.questionId), ("answer", skip.answer.toJson)]

end LegacySkip

namespace RuleOutcome

def ofJson : Schema.Check RuleOutcome :=
  Schema.record "LogicResult" fun entries =>
    RuleOutcome.mk <$> Schema.optionalField entries "action" (Schema.choice ActionKind.words)
      <*> Schema.optionalField entries "targetQuestionId" Schema.text
      <*> Schema.optionalField entries "matchedRule" Rule.ofJson

def toJson (outcome : RuleOutcome) : Json :=
  Json.ofFields
    [("action", outcome.action.map (.str ·.name)),
      ("targetQuestionId", outcome.target.map .str),
      ("matchedRule", outcome.rule.map Rule.toJson)]

/-- The outcome for a rule that matched, or for none. -/
def ofRule? : Option Rule → RuleOutcome
  | some rule => ⟨some rule.action.kind, rule.action.writtenTarget?, some rule⟩
  | none => ⟨none, none, none⟩

end RuleOutcome

namespace Decision

def ofJson : Schema.Check Decision :=
  Schema.record "NavigationDecision" fun entries =>
    Decision.mk <$> Schema.optionalField entries "currentQuestionId" Schema.text
      <*> Schema.optionalField entries "nextQuestionId" Schema.text
      <*> Schema.withDefault entries "ended" false Schema.truth
      <*> Schema.optionalField entries "matchedRuleId" Schema.text

def toJson (decision : Decision) : Json :=
  Json.ofFields
    [("currentQuestionId", decision.current.map .str),
      ("nextQuestionId", decision.next.map .str),
      ("ended", some (.bool decision.ended)),
      ("matchedRuleId", decision.ruleId.map .str)]

end Decision

end Questionnaire
