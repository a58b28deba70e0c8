import Questionnaire.Log.Warning
import Questionnaire.Rule.Test

/-!
Rules evaluated on answers.  A rule is first resolved against the questions of the survey: its
target and all questions it reads have to exist, and its operators have to suit their kinds.  Only
then are its conditions tested.
-/

namespace Questionnaire

/-- Why a rule cannot be resolved. -/
inductive Unresolvable where
  | unknownTarget (questionId : String)
  | unknownSource (questionId : String)
  | unsuitable (operator : Operator) (kind : QuestionKind) (questionId : String)
deriving DecidableEq, Repr

namespace Unresolvable

def message : Unresolvable → String
  | .unknownTarget questionId => "rule targets unknown question '" ++ questionId ++ "'"
  | .unknownSource questionId => "condition reads unknown question '" ++ questionId ++ "'"
  | .unsuitable operator kind questionId =>
    "operator '" ++ operator.name ++ "' is not valid for " ++ kind.name ++ " question '"
      ++ questionId ++ "'"

/-- The question that the reason is about. -/
def questionId : Unresolvable → String
  | .unknownTarget id => id
  | .unknownSource id => id
  | .unsuitable _ _ id => id

end Unresolvable

/-- A rule that cannot be resolved, or a condition on its own. -/
structure InvalidRule where
  ruleId : Option String
  reason : Unresolvable
deriving DecidableEq, Repr

/-- The question of a name; of several the last. -/
def findQuestion? (questions : List Question) (id : String) : Option Question :=
  questions.reverse.find? (·.id = id)

namespace Condition

/-- The kind of the question that a condition reads; without questions none is known. -/
def resolve (condition : Condition) (questions : Option (List Question)) :
    Except Unresolvable (Option QuestionKind) :=
  match questions with
  | none => .ok none
  | some questions => match findQuestion? questions condition.questionId with
    | none => .error (.unknownSource condition.questionId)
    | some question =>
      if condition.operator ∈ question.kind.operators then .ok (some question.kind)
      else .error (.unsuitable condition.operator question.kind question.id)

/-- Whether a condition holds on the answers. -/
def evaluate (condition : Condition) (questions : Option (List Question)) (answers : Answers) :
    Except InvalidRule Bool :=
  match condition.resolve questions with
  | .error reason => .error ⟨none, reason⟩
  | .ok kind => .ok (condition.holds kind (answers.answerTo condition.questionId))

end Condition

namespace Rule

/-- Whether the target exists; without questions it is not looked for. -/
def resolveTarget (rule : Rule) (questions : Option (List Question)) : Except Unresolvable Unit :=
  match questions, rule.action.target? with
  | some questions, some target =>
    if (findQuestion? questions target).isSome then .ok () else .error (.unknownTarget target)
  | _, _ => .ok ()

/-- The conditions with the kinds of the questions that they read. -/
def resolve (rule : Rule) (questions : Option (List Question)) :
    Except InvalidRule (List (Condition × Option QuestionKind)) :=
  match rule.resolveTarget questions with
  | .error reason => .error ⟨some rule.id, reason⟩
  | .ok () =>
    match rule.conditions.mapM (fun c => (c.resolve questions).map fun kind => (c, kind)) with
    | .error reason => .error ⟨some rule.id, reason⟩
    | .ok typed => .ok typed

/-- Whether resolved conditions hold together. -/
def joined (junction : Junction) (typed : List (Condition × Option QuestionKind))
    (answers : Answers) : Bool :=
  let test := fun (entry : Condition × Option QuestionKind) =>
    entry.1.holds entry.2 (answers.answerTo entry.1.questionId)
  match junction with
  | .all => typed.all test
  | .any => typed.any test

/-- The values whose texts resolved conditions take, up to the one that decides. -/
def textsJoined (junction : Junction) (typed : List (Condition × Option QuestionKind))
    (answers : Answers) : List Json :=
  let test := fun (entry : Condition × Option QuestionKind) =>
    entry.1.holds entry.2 (answers.answerTo entry.1.questionId)
  let tested := match junction with
    | .all => upToFirst (fun entry => !test entry) typed
    | .any => upToFirst test typed
  tested.flatMap fun entry => entry.1.texts entry.2 (answers.answerTo entry.1.questionId)

/-- Whether a rule matches the answers. -/
def evaluate (rule : Rule) (questions : Option (List Question)) (answers : Answers) :
    Except InvalidRule Bool :=
  (rule.resolve questions).map fun typed => joined rule.junction typed answers

/-- The values whose texts the evaluation of a rule takes. -/
def texts (rule : Rule) (questions : Option (List Question)) (answers : Answers) : List Json :=
  match rule.resolve questions with
  | .error _ => []
  | .ok typed => textsJoined rule.junction typed answers

/-- The values that a rule compares answers with. -/
def targets (rule : Rule) : List Scalar := rule.conditions.flatMap (·.test.targets)

/-- Whether a rule resolves does not depend on the answers. -/
theorem evaluate_eq_error_iff (rule : Rule) (questions : Option (List Question)) (answers : Answers)
    (invalid : InvalidRule) :
    rule.evaluate questions answers = .error invalid ↔ rule.resolve questions = .error invalid := by
  unfold evaluate
  cases rule.resolve questions <;> simp [Except.map]

end Rule

/-- The first rule that an attempt accepts.  A rule whose attempt fails is passed over with a
warning, or ends the search if that is strict. -/
def firstMatchBy (attempt : Rule → Except InvalidRule Bool) (strict : Bool) :
    List Rule → List Warning × Except InvalidRule (Option Rule)
  | [] => ([], .ok none)
  | rule :: rest =>
    match attempt rule with
    | .ok true => ([], .ok (some rule))
    | .ok false => firstMatchBy attempt strict rest
    | .error invalid =>
      if strict then ([], .error invalid)
      else
        let (warnings, outcome) := firstMatchBy attempt strict rest
        (.ruleSkipped rule.id invalid.reason.message :: warnings, outcome)

/-- The first rule that matches the answers. -/
def firstMatch (questions : Option (List Question)) (answers : Answers) (strict : Bool)
    (rules : List Rule) : List Warning × Except InvalidRule (Option Rule) :=
  firstMatchBy (·.evaluate questions answers) strict rules

/-- The values whose texts the search for the first matching rule takes. -/
def textsOfFirst (questions : Option (List Question)) (answers : Answers) (strict : Bool) :
    List Rule → List Json
  | [] => []
  | rule :: rest => rule.texts questions answers ++
    match rule.evaluate questions answers with
    | .ok true => []
    | .ok false => textsOfFirst questions answers strict rest
    | .error _ => if strict then [] else textsOfFirst questions answers strict rest

/-- A search that is not strict always has an outcome. -/
theorem firstMatch_lenient_ok (questions : Option (List Question)) (answers : Answers)
    (rules : List Rule) : ∃ found, (firstMatch questions answers false rules).2 = .ok found := by
  induction rules with
  | nil => exact ⟨none, rfl⟩
  | cons rule rest ih =>
    unfold firstMatch firstMatchBy
    split
    · exact ⟨some rule, rfl⟩
    · exact ih
    · exact ih

end Questionnaire
