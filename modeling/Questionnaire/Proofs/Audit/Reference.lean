import Questionnaire.Proofs.Audit.Report
import Questionnaire.Proofs.Rule.Resolution
import Questionnaire.Proofs.Walk.Replay

/-!
What the check of references reports for a rule, beside what the evaluation of the rule makes of it.
The two resolve rules on their own; they differ on the end of the survey with an empty target, which
only the check takes for a reference.
-/

namespace Questionnaire

theorem Action.forall_writtenTarget? {action : Action} {known : String → Prop} :
    (∀ target, action.writtenTarget? = some target → known target) ↔
      (∀ target, action.target? = some target → known target) ∧
        (action = .finish true → known "") := by
  cases action with
  | skip target => simp [writtenTarget?, target?]
  | reveal target => simp [writtenTarget?, target?]
  | jump target => simp [writtenTarget?, target?]
  | finish emptyTarget => cases emptyTarget <;> simp [writtenTarget?, target?]

namespace Audit

variable {survey : Survey} {declared : DeclaredRule} {finding : Finding}

/-- The codes of findings about what a rule refers to in vain. -/
def referenceCodes : List String :=
  ["MISSING_TARGET", "UNKNOWN_CONDITION_QUESTION", "INVALID_OPERATOR"]

/-- A finding about what a rule refers to in vain is reported for it. -/
def ReportsReference (survey : Survey) (declared : DeclaredRule) : Prop :=
  ∃ finding ∈ routing survey, finding.code ∈ referenceCodes ∧
    finding.questionId = some declared.owner ∧ finding.ruleId = some declared.rule.id ∧
      finding ∈ references survey declared

/-- Every finding about a rule names the rule and the question that declares it. -/
theorem names_of_mem_references (h : finding ∈ references survey declared) :
    finding.questionId = some declared.owner ∧ finding.ruleId = some declared.rule.id := by
  rcases List.mem_append.mp h with htarget | hconditions
  · rw [missingTarget] at htarget
    split at htarget
    · cases htarget
    · split at htarget
      · cases htarget
      · rw [List.mem_singleton.mp htarget]
        exact ⟨rfl, rfl⟩
  · obtain ⟨condition, _, hcondition⟩ := List.mem_flatMap.mp hconditions
    rw [badCondition] at hcondition
    split at hcondition
    · rw [List.mem_singleton.mp hcondition]
      exact ⟨rfl, rfl⟩
    · split at hcondition
      · cases hcondition
      · rw [List.mem_singleton.mp hcondition]
        exact ⟨rfl, rfl⟩

/-- Everything that is found about the references of a declared rule is reported. -/
theorem mem_routing_of_mem_references (hdeclared : declared ∈ survey.declaredRules)
    (h : finding ∈ references survey declared) : finding ∈ routing survey :=
  mem_routing_iff.mpr (Or.inl ⟨declared, hdeclared, h⟩)

theorem reportsReference_iff_ne_nil (hdeclared : declared ∈ survey.declaredRules) :
    ReportsReference survey declared ↔ references survey declared ≠ [] := by
  constructor
  · rintro ⟨finding, _, _, _, _, hfinding⟩
    exact List.ne_nil_of_mem hfinding
  · intro hne
    obtain ⟨finding, hfinding⟩ := List.exists_mem_of_ne_nil _ hne
    obtain ⟨howner, hrule⟩ := names_of_mem_references hfinding
    exact ⟨finding, mem_routing_of_mem_references hdeclared hfinding,
      code_of_mem_references hfinding, howner, hrule, hfinding⟩

theorem missingTarget_eq_nil_iff : missingTarget survey declared = [] ↔
    ∀ target, declared.rule.action.writtenTarget? = some target →
      (findQuestion? survey.questions target).isSome := by
  unfold missingTarget
  cases declared.rule.action.writtenTarget? with
  | none => simp
  | some target => cases hfind : findQuestion? survey.questions target <;> simp [hfind]

/-- A condition is passed exactly if it can be resolved. -/
theorem badCondition_eq_nil_iff {condition : Condition} :
    badCondition survey declared condition = [] ↔
      ∃ kind, condition.resolve (some survey.questions) = .ok kind := by
  rw [Condition.exists_resolve_iff, badCondition]
  cases findQuestion? survey.questions condition.questionId with
  | none => simp
  | some source => by_cases hsuits : condition.operator ∈ source.kind.operators <;> simp [hsuits]

/-- A rule is passed exactly if it can be resolved and does not end the survey with an empty target
that is no question. -/
theorem references_eq_nil_iff : references survey declared = [] ↔
    (∃ typed, declared.rule.resolve (some survey.questions) = .ok typed) ∧
      (declared.rule.action = .finish true → (findQuestion? survey.questions "").isSome) := by
  have hconditions : declared.rule.conditions.flatMap (badCondition survey declared) = [] ↔
      ∀ condition ∈ declared.rule.conditions,
        ∃ kind, condition.resolve (some survey.questions) = .ok kind := by
    rw [List.flatMap_eq_nil_iff]
    exact forall₂_congr fun condition _ => badCondition_eq_nil_iff
  rw [references, List.append_eq_nil_iff, missingTarget_eq_nil_iff, hconditions,
    Action.forall_writtenTarget?, Rule.exists_resolve_iff]
  exact and_right_comm

/-- The check reports exactly the rules that cannot be evaluated, whatever the answers are, and
besides those that end the survey with an empty target where no question has the empty name. -/
theorem reportsReference_iff (survey : Survey) {declared : DeclaredRule}
    (hdeclared : declared ∈ survey.declaredRules) :
    (∀ answers, ReportsReference survey declared ↔
      (∃ invalid, declared.rule.evaluate (some survey.questions) answers = .error invalid) ∨
        declared.rule.action = .finish true ∧ findQuestion? survey.questions "" = none) ∧
    ∀ answers others invalid,
      declared.rule.evaluate (some survey.questions) answers = .error invalid ↔
        declared.rule.evaluate (some survey.questions) others = .error invalid := by
  have herror (answers : Answers) (invalid : InvalidRule) :=
    declared.rule.evaluate_eq_error_iff (some survey.questions) answers invalid
  constructor
  · intro answers
    rw [reportsReference_iff_ne_nil hdeclared, Ne, references_eq_nil_iff,
      Classical.not_and_iff_not_or_not]
    apply or_congr
    · simp only [herror]
      cases declared.rule.resolve (some survey.questions) <;> simp
    · simp
  · intro answers others invalid
    rw [herror, herror]

end Audit

namespace Survey.Sample

/-- The second question is skipped if the first one, which takes several options, equals a text; the
third one reveals a question that does not exist. -/
def oddReferences : Survey :=
  let first := { plain "q1" [] with kind := .checkbox }
  let second := { plain "q2" [] with legacySkip := some ⟨"q1", .text "A"⟩ }
  let third := plain "q3" [onAnswer "r3" "q2" (.reveal "missing")]
  ⟨[first, second, third],
    [⟨"q1", []⟩, ⟨"q2", [⟨"legacy-skip-q2", [⟨"q1", .equals (.text "A")⟩], by simp, .all,
      .skip "q2"⟩]⟩, ⟨"q3", third.rules⟩]⟩

/-- The only question ends the survey, and the empty text is written down as the target. -/
def emptyTarget : Survey :=
  let questions := [plain "q1" [onAnswer "r1" "q1" (.finish true)]]
  ⟨questions, questions.map fun question => ⟨question.id, question.rules⟩⟩

end Survey.Sample

namespace Audit

open Survey.Sample

/-- An older skip that compares a choice of several options with a text. -/
theorem reportsReference_iff_oddReferences :
    Survey.ofQuestions oddReferences.questions = .valid oddReferences ∧
    ∃ declared : DeclaredRule, declared ∈ oddReferences.declaredRules ∧
      declared.rule.id = "legacy-skip-q2" ∧ ReportsReference oddReferences declared := by
  have hmem : (("q2", ⟨"legacy-skip-q2", [⟨"q1", .equals (.text "A")⟩], by simp, .all,
      .skip "q2"⟩) : DeclaredRule) ∈ oddReferences.declaredRules := by decide
  exact ⟨rfl, _, hmem, rfl, ((reportsReference_iff oddReferences hmem).1 []).mpr (Or.inl ⟨_, rfl⟩)⟩

/-- An end of the survey with an empty target is reported, though it can be evaluated. -/
theorem reportsReference_emptyTarget :
    Survey.ofQuestions emptyTarget.questions = .valid emptyTarget ∧
    ∃ declared : DeclaredRule, declared ∈ emptyTarget.declaredRules ∧
      ReportsReference emptyTarget declared ∧ ∀ answers, ∃ held,
        declared.rule.evaluate (some emptyTarget.questions) answers = .ok held := by
  have hmem : (("q1", onAnswer "r1" "q1" (.finish true)) : DeclaredRule)
      ∈ emptyTarget.declaredRules := by decide
  refine ⟨rfl, _, hmem, (reportsReference_iff_ne_nil hmem).mpr (by decide), ?_⟩
  intro answers
  exact ⟨_, rfl⟩

end Audit

end Questionnaire
