import Questionnaire.Scoring.Bands
import Questionnaire.Scoring.Points
import Questionnaire.Survey.Path
import Questionnaire.Text.Quoted

/-!
The score of a survey: the points of its questions together, and the same for each category.
-/

namespace Questionnaire

/-- The category that a question counts towards; one without a name is none. -/
def QuestionScore.countsTowards (score : QuestionScore) : Option String :=
  score.category.filter (· ≠ "")

/-- Points and most points together, and the percentage that they make. -/
structure Total where
  score : Number
  most : Number
  percentage : Int
deriving DecidableEq

def Total.ofScores (scores : List QuestionScore) : Except Fault Total := do
  let score := (← Number.sum (scores.map (·.score))).tidy
  let most := (← Number.sum (scores.map (·.maxScore))).tidy
  return ⟨score, most, ← Questionnaire.percentage score most⟩

/-- The band of a percentage, where there are points to be had. -/
def Total.band? (total : Total) (bands : List ScoreBand) : Option ScoreBand :=
  if Number.lt 0 total.most then ScoreBand.resolve? bands (.int total.percentage) else none

/-- The configured categories, and after them the others that scores count towards, in the order in
which they come up. -/
def categoryIds (config : Option ScoreConfig) (scores : List QuestionScore) : List String :=
  (((config.map (·.categories)).getD []).map (·.id)
    ++ scores.filterMap (·.countsTowards)).eraseDups

/-- The configured name of a category, or its id with a capital. -/
def categoryName (config : Option ScoreConfig) (id : String) : String :=
  match ((config.map (·.categories)).getD []).find? (·.id = id) with
  | some category => category.name
  | none => Text.capitalizeFirst id

/-- The score of a category. -/
def categoryScore (config : Option ScoreConfig) (scores : List QuestionScore) (id : String) :
    Except Fault CategoryScore := do
  let total ← Total.ofScores (scores.filter (·.countsTowards = some id))
  let band := total.band? (bandsOfCategory config id)
  return {
    name := categoryName config id
    score := total.score
    maxScore := total.most
    percentage := total.percentage
    label := band.map (·.label)
    bandId := band.map (·.id) }

/-- The score of a survey with such scores of its questions. -/
def SurveyScore.ofScores (config : Option ScoreConfig) (scores : List QuestionScore) :
    Except Fault SurveyScore := do
  let total ← Total.ofScores scores
  let byCategory ← (categoryIds config scores).mapM fun id => do
    return (id, ← categoryScore config scores id)
  return {
    total := total.score
    maxScore := total.most
    percentage := total.percentage
    byCategory
    band := total.band? (bandsOf config .results)
    questionScores := scores }

/-- The scores of the questions that count, in survey order, where texts are taken in some way. -/
def questionScoresBy (text : Json → Except Fault String) (questions : List Question)
    (answers : Answers) : Except Fault (List QuestionScore) :=
  (questions.filter (·.isScorable)).mapM fun question =>
    question.scoreBy text (answers.answerTo question.id)

/-- The scores of the questions that count, for answers that have texts. -/
def questionScores (questions : List Question) (answers : Answers) :
    Except Fault (List QuestionScore) :=
  questionScoresBy Json.assumedText questions answers

/-- The score of all questions, whether a respondent sees them or not, for answers that have
texts. -/
def scoreQuestions (questions : List Question) (answers : Answers) (config : Option ScoreConfig) :
    Except Fault SurveyScore := do
  SurveyScore.ofScores config (← questionScores questions answers)

/-- The score of all questions where there is room for so many levels of a value. -/
def scoreQuestionsWithin (room : Nat) (questions : List Question) (answers : Answers)
    (config : Option ScoreConfig) : Except Fault SurveyScore := do
  SurveyScore.ofScores config (← questionScoresBy (Json.displayWithin room) questions answers)

/-- Why a survey cannot be scored. -/
inductive ScoringError where
  | fault (cause : Fault)
  | invalidRule (invalid : InvalidRule)
deriving DecidableEq, Repr

namespace Survey

/-- The questions of a path. -/
def onPath (survey : Survey) (path : List String) : List Question :=
  survey.questions.filter (·.id ∈ path)

/-- The score of the questions that a respondent with these answers sees. -/
def score (survey : Survey) (answers : Answers) (config : Option ScoreConfig) (strict : Bool) :
    List Warning × Except ScoringError SurveyScore :=
  let trail := survey.walk answers strict
  (trail.warnings, match trail.path with
    | .error invalid => .error (.invalidRule invalid)
    | .ok path => match scoreQuestions (survey.onPath path) answers config with
      | .error cause => .error (.fault cause)
      | .ok score => .ok score)

end Survey

/-- The one engine that there is. -/
def defaultEngine : String := "engagement_v1"

/-- The engine that is asked for: by name, else by the configuration, else by the setting.  An empty
name asks for none. -/
def chosenEngine (name : Option String) (config : Option ScoreConfig) (setting : String) : String :=
  ((name.filter (· ≠ "")).or ((config.bind (·.engineId)).filter (· ≠ ""))).getD setting

/-- Another engine is replaced by the default one, with a warning. -/
def engineWarnings (chosen : String) : List Warning :=
  if chosen = defaultEngine then [] else [.unknownEngine (Text.quoted chosen) defaultEngine]

theorem length_mapM_ok {α β ε : Type} {f : α → Except ε β} {xs : List α} {ys : List β}
    (h : xs.mapM f = .ok ys) : ys.length = xs.length := by
  induction xs generalizing ys with
  | nil =>
    simp only [List.mapM_nil, pure, Except.pure, Except.ok.injEq] at h
    simp [← h]
  | cons x rest ih =>
    cases hx : f x with
    | error e => simp [List.mapM_cons, hx, bind, Except.bind] at h
    | ok y =>
      cases hr : rest.mapM f with
      | error e => simp [List.mapM_cons, hx, hr, bind, Except.bind] at h
      | ok more =>
        simp only [List.mapM_cons, hx, hr, bind, Except.bind, pure, Except.pure,
          Except.ok.injEq] at h
        simp [← h, ih hr]

/-- There is one score for each question that is scored. -/
theorem length_questionScores {questions : List Question} {answers : Answers}
    {scores : List QuestionScore} (h : questionScores questions answers = .ok scores) :
    scores.length = (questions.filter (·.isScorable)).length := length_mapM_ok h

end Questionnaire
