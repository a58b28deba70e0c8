import Questionnaire.Audit.Finding
import Questionnaire.Rule.Key
import Questionnaire.Survey.Basic

/-!
Checks of the rules of a survey: rules that cannot be resolved, rules that point at questions that
have been passed already, questions that no rule reveals in time, and rules of which only the first
can ever match.
-/

namespace Questionnaire.Audit

/-- A rule that is declared in a survey. -/
abbrev DeclaredRule := String × Rule

namespace DeclaredRule

def owner (declared : DeclaredRule) : String := declared.1

def rule (declared : DeclaredRule) : Rule := declared.2

def trigger (declared : DeclaredRule) (survey : Survey) : String :=
  declared.rule.trigger declared.owner survey.questions

end DeclaredRule

/-- A target that does not exist. -/
def missingTarget (survey : Survey) (declared : DeclaredRule) : List Finding :=
  match declared.rule.action.writtenTarget? with
  | none => []
  | some target =>
    if (findQuestion? survey.questions target).isSome then []
    else [{
      code := "MISSING_TARGET"
      severity := .error
      message := "Rule targets non-existent question \"" ++ target ++ "\""
      questionId := declared.owner
      ruleId := declared.rule.id
      details := [("targetId", .str target)] }]

/-- A condition that reads a question which does not exist, or with an operator that does not suit
the kind of the question. -/
def badCondition (survey : Survey) (declared : DeclaredRule) (condition : Condition) :
    List Finding :=
  match findQuestion? survey.questions condition.questionId with
  | none => [{
      code := "UNKNOWN_CONDITION_QUESTION"
      severity := .error
      message := "Rule condition reads non-existent question \"" ++ condition.questionId ++ "\""
      questionId := declared.owner
      ruleId := declared.rule.id
      details := [("conditionQuestionId", .str condition.questionId)] }]
  | some source =>
    if condition.operator ∈ source.kind.operators then []
    else [{
      code := "INVALID_OPERATOR"
      severity := .error
      message := "Operator \"" ++ condition.operator.name ++ "\" cannot be used on "
        ++ source.kind.name ++ " question \"" ++ source.id ++ "\""
      questionId := declared.owner
      ruleId := declared.rule.id
      details := [("operator", .str condition.operator.name),
        ("questionType", .str source.kind.name)] }]

/-- What a rule refers to in vain. -/
def references (survey : Survey) (declared : DeclaredRule) : List Finding :=
  missingTarget survey declared
    ++ declared.rule.conditions.flatMap (badCondition survey declared)

def selfTarget (declared : DeclaredRule) (trigger target : String) : Finding where
  code := "SELF_TARGET"
  severity := .warning
  message := "Rule on \"" ++ trigger ++ "\" targets the question that triggers it and has no effect"
  questionId := declared.owner
  ruleId := declared.rule.id
  details := [("targetId", .str target)]

def backwards (declared : DeclaredRule) (trigger target : String) : Finding where
  code := "BACKWARDS_JUMP"
  severity := .warning
  message := "Rule points back from \"" ++ trigger ++ "\" to \"" ++ target
    ++ "\", which has already been passed"
  questionId := declared.owner
  ruleId := declared.rule.id
  details := [("targetId", .str target), ("triggerId", .str trigger)]

/-- A target that is the trigger itself or comes before it. -/
def direction (survey : Survey) (declared : DeclaredRule) : List Finding :=
  let trigger := declared.trigger survey
  match declared.rule.action.writtenTarget? with
  | none => []
  | some target =>
    match survey.position? target, survey.position? trigger with
    | some there, some here =>
      if target = trigger then [selfTarget declared trigger target]
      else if there < here then [backwards declared trigger target]
      else []
    | _, _ => []

/-- The positions after which rules may reveal a question. -/
def revealedFrom (survey : Survey) (id : String) : List Nat :=
  (survey.declaredRules.filter fun (_, rule) => rule.action = .reveal id).filterMap fun declared =>
    survey.position? (DeclaredRule.trigger declared survey)

/-- The questions that rules reveal, in the order of these rules. -/
def revealTargets (survey : Survey) : List String :=
  (survey.declaredRules.filterMap fun (_, rule) => match rule.action with
    | .reveal target => if (survey.position? target).isSome then some target else none
    | _ => none).eraseDups

/-- A question that every rule reveals too late. -/
def unreachable (survey : Survey) (id : String) : List Finding :=
  match survey.position? id with
  | none => []
  | some position =>
    if (revealedFrom survey id).all fun trigger => position ≤ trigger then
      let prompt := ((survey.questions[position]?).map (·.prompt)).getD ""
      [{
        code := "UNREACHABLE_QUESTION"
        severity := .warning
        message := "Question \"" ++ String.ofList (prompt.toList.take 50)
          ++ "\" may never be shown due to logic rules"
        questionId := id
        details := [("questionOrder", .ofNat position)] }]
    else []

/-- The elements that do not belong with another one. -/
def apart {α : Type} (together : α → α → Bool) (x : α) (xs : List α) : List α :=
  xs.filter fun y => !together x y

/-- The elements in classes of those that belong together, in the order of their first elements. -/
def classes {α : Type} (together : α → α → Bool) : List α → List (List α)
  | [] => []
  | x :: rest =>
    (x :: rest.filter (together x)) :: classes together (apart together x rest)
termination_by xs => xs.length
decreasing_by
  simp only [List.length_cons]
  exact Nat.lt_succ_of_le (List.length_filter_le _ _)

/-- Whether two rules are evaluated together on the same conditions, in whatever order these are
written down. -/
def sameConditions (survey : Survey) (a b : DeclaredRule) : Bool :=
  a.trigger survey = b.trigger survey && a.owner = b.owner
    && a.rule.conditionKey = b.rule.conditionKey

/-- Rules with the same conditions and different outcomes. -/
def conflict (survey : Survey) : List DeclaredRule → List Finding
  | [] => []
  | first :: rest =>
    if rest.all fun other => other.rule.action = first.rule.action then []
    else
      let ids := (first :: rest).map (·.rule.id)
      [{
        code := "CONFLICTING_RULES"
        severity := .warning
        message := "Rules " ++ ", ".intercalate ids
          ++ " share the same conditions but lead to different outcomes; only \"" ++ first.rule.id
          ++ "\" can fire"
        questionId := first.trigger survey
        ruleId := first.rule.id
        details := [("ruleIds", .arr (ids.map .str))] }]

/-- Everything that is wrong with the rules of a survey. -/
def routing (survey : Survey) : List Finding :=
  let declared : List DeclaredRule := survey.declaredRules
  declared.flatMap (references survey)
    ++ declared.flatMap (direction survey)
    ++ (revealTargets survey).flatMap (unreachable survey)
    ++ (classes (sameConditions survey) declared).flatMap (conflict survey)

/-- Sorting into classes loses and repeats nothing. -/
theorem flatten_classes_perm {α : Type} (together : α → α → Bool) (xs : List α) :
    (classes together xs).flatten.Perm xs := by
  fun_induction classes together xs with
  | case1 => exact List.Perm.refl _
  | case2 x rest ih =>
    simp only [List.flatten_cons, List.cons_append]
    exact ((ih.append_left _).trans (List.filter_append_perm (together x) rest)).cons x

end Questionnaire.Audit
