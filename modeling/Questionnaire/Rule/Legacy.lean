import Questionnaire.Question.Basic
import Questionnaire.Rule.Document

/-!
The older form of a skip as a rule: it skips the question that declares it when the question it
reads has exactly the given answer.
-/

namespace Questionnaire

namespace LegacySkip

def toCondition (skip : LegacySkip) : Condition := ⟨skip.questionId, .equals skip.answer⟩

/-- The name of the rule that stands for the older skip of a question. -/
def ruleId (owner : String) : String := "legacy-skip-" ++ owner

/-- The rule that stands for the older skip of a question, which needs a name to be skipped. -/
def toRule (skip : LegacySkip) (owner : String) : Validated Rule :=
  (Action.ofTarget .skip (some owner)).map fun action =>
    ⟨ruleId owner, [skip.toCondition], by simp, .all, action⟩

theorem toRule_eq_valid_iff (skip : LegacySkip) (owner : String) (rule : Rule) :
    skip.toRule owner = .valid rule ↔
      owner ≠ "" ∧ rule = ⟨ruleId owner, [skip.toCondition], by simp, .all, .skip owner⟩ := by
  unfold toRule Action.ofTarget Action.withTarget
  by_cases h : owner = ""
  · simp [h, Action.withTarget.missing, Validated.issue, Validated.map]
  · simp [h, Validated.map, eq_comm]

end LegacySkip

namespace Question

/-- All rules that a question declares, the older skip last. -/
def declaredRules (question : Question) : Validated (List Rule) :=
  match question.legacySkip with
  | none => .valid question.rules
  | some skip => (skip.toRule question.id).map fun rule => question.rules ++ [rule]

end Question

end Questionnaire
