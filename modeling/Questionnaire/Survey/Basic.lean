import Questionnaire.Rule.Evaluation
import Questionnaire.Rule.Legacy

/-!
Surveys: questions in order, with the rules that each of them declares.  A rule is evaluated after
its trigger, the last of the questions that it reads; the rules that one question declares for one
trigger form a group.
-/

namespace Questionnaire

/-- The position of the question with an id; of several the last. -/
def position? (id : String) : List Question → Option Nat
  | [] => none
  | question :: rest => match position? id rest with
    | some i => some (i + 1)
    | none => if question.id = id then some 0 else none

/-- The id with the greatest position; of equals the first. -/
def latest? : List (Nat × String) → Option String
  | [] => none
  | first :: rest =>
    some (rest.foldl (fun best next => if best.1 < next.1 then next else best) first).2

/-- The question after which a rule is evaluated: of those that it reads the last one in the survey.
A rule that reads a question which does not exist stays with the question that declares it. -/
def Rule.trigger (rule : Rule) (owner : String) (questions : List Question) : String :=
  let places := rule.conditions.mapM fun condition =>
    (position? condition.questionId questions).map fun position => (position, condition.questionId)
  (places.bind latest?).getD owner

/-- Rules that one question declares, in declared order. -/
structure RuleGroup where
  owner : String
  rules : List Rule
deriving DecidableEq

/-- The rules of each question, unless one of them cannot be had. -/
def declaredGroups : List Question → Validated (List RuleGroup)
  | [] => .valid []
  | question :: rest => question.declaredRules.andThen fun rules =>
    (declaredGroups rest).map fun groups => ⟨question.id, rules⟩ :: groups

/-- Questions in order with the rules that they declare. -/
structure Survey where
  questions : List Question
  declared : List RuleGroup
deriving DecidableEq

namespace Survey

def ofQuestions (questions : List Question) : Validated Survey :=
  (declaredGroups questions).map fun declared => ⟨questions, declared⟩

/-- All declared rules with the questions that declare them. -/
def declaredRules (survey : Survey) : List (String × Rule) :=
  survey.declared.flatMap fun group => group.rules.map fun rule => (group.owner, rule)

/-- The rules of a group with a certain trigger. -/
def triggeredBy (survey : Survey) (trigger : String) (group : RuleGroup) : List Rule :=
  group.rules.filter fun rule => rule.trigger group.owner survey.questions = trigger

/-- The groups of rules that are evaluated after a question, in survey order of the questions that
declare them. -/
def groupsAt (survey : Survey) (trigger : String) : List RuleGroup :=
  survey.declared.filterMap fun group =>
    match survey.triggeredBy trigger group with
    | [] => none
    | rules => some ⟨group.owner, rules⟩

/-- The ids of the questions, each once. -/
def ids (survey : Survey) : List String := (survey.questions.map (·.id)).eraseDups

/-- The groups of rules for every question. -/
def ruleTable (survey : Survey) : List (String × List RuleGroup) :=
  survey.ids.map fun id => (id, survey.groupsAt id)

def position? (survey : Survey) (id : String) : Option Nat :=
  Questionnaire.position? id survey.questions

/-- Whether a rule may reveal a question of the survey. -/
def isHidden (survey : Survey) (id : String) : Bool :=
  (survey.position? id).isSome
    && survey.declaredRules.any fun (_, rule) => rule.action = .reveal id

/-- The questions that stay hidden until a rule reveals them. -/
def hidden (survey : Survey) : List String := survey.ids.filter survey.isHidden

theorem declaredGroups_owner {questions : List Question} {groups : List RuleGroup}
    (h : declaredGroups questions = .valid groups) :
    groups.map (·.owner) = questions.map (·.id) := by
  induction questions generalizing groups with
  | nil => simp [declaredGroups] at h; simp [← h]
  | cons question rest ih =>
    simp only [declaredGroups] at h
    cases hq : question.declaredRules with
    | issues found => simp [hq, Validated.andThen] at h
    | fault cause => simp [hq, Validated.andThen] at h
    | valid rules =>
      cases hr : declaredGroups rest with
      | issues found => simp [hq, hr, Validated.andThen, Validated.map] at h
      | fault cause => simp [hq, hr, Validated.andThen, Validated.map] at h
      | valid more =>
        simp only [hq, hr, Validated.andThen, Validated.map, Validated.valid.injEq] at h
        simp [← h, ih hr]

/-- There is one group of declared rules for each question, in survey order. -/
theorem declared_map_owner {questions : List Question} {survey : Survey}
    (h : ofQuestions questions = .valid survey) :
    survey.declared.map (·.owner) = survey.questions.map (·.id) := by
  unfold ofQuestions at h
  cases hg : declaredGroups questions with
  | issues found => simp [hg, Validated.map] at h
  | fault cause => simp [hg, Validated.map] at h
  | valid groups =>
    simp only [hg, Validated.map, Validated.valid.injEq] at h
    simp [← h, declaredGroups_owner hg]

end Survey

end Questionnaire
