import Questionnaire.Scoring.Config
import Questionnaire.Scoring.Mode

/-!
Scores: of one question, of a category, and of a whole survey, with their data forms.
-/

namespace Questionnaire

structure QuestionScore where
  questionId : String
  score : Number
  maxScore : Number
  mode : ScoringMode
  category : Option String
  answered : Bool
  npsGroup : Option NpsGroup
deriving DecidableEq

structure CategoryScore where
  name : String
  score : Number
  maxScore : Number
  percentage : Int
  label : Option String
  bandId : Option String
deriving DecidableEq

structure SurveyScore where
  total : Number
  maxScore : Number
  percentage : Int
  /-- The categories in the order in which they are reported. -/
  byCategory : Entries CategoryScore
  band : Option ScoreBand
  questionScores : List QuestionScore
deriving DecidableEq

namespace QuestionScore

def ofJson : Schema.Check QuestionScore :=
  Schema.record "QuestionScore" fun entries =>
    QuestionScore.mk <$> Schema.required entries "questionId" Schema.text
      <*> Schema.withDefault entries "score" 0 Schema.number
      <*> Schema.withDefault entries "maxScore" 0 Schema.number
      <*> Schema.required entries "mode" (Schema.choice ScoringMode.words)
      <*> Schema.optionalField entries "category" Schema.text
      <*> Schema.withDefault entries "answered" false Schema.truth
      <*> Schema.optionalField entries "npsGroup" (Schema.fixed NpsGroup.words)

def toJson (score : QuestionScore) : Json :=
  Json.ofFields
    [("questionId", some (.str score.questionId)), ("score", some (.num score.score)),
      ("maxScore", some (.num score.maxScore)), ("mode", some (.str score.mode.name)),
      ("category", score.category.map .str), ("answered", some (.bool score.answered)),
      ("npsGroup", score.npsGroup.map (.str ·.name))]

end QuestionScore

namespace CategoryScore

def ofJson : Schema.Check CategoryScore :=
  Schema.record "CategoryScore" fun entries =>
    CategoryScore.mk <$> Schema.required entries "name" Schema.text
      <*> Schema.withDefault entries "score" 0 Schema.number
      <*> Schema.withDefault entries "maxScore" 0 Schema.number
      <*> Schema.withDefault entries "percentage" 0 Schema.integer
      <*> Schema.optionalField entries "label" Schema.text
      <*> Schema.optionalField entries "bandId" Schema.text

def toJson (score : CategoryScore) : Json :=
  Json.ofFields
    [("name", some (.str score.name)), ("score", some (.num score.score)),
      ("maxScore", some (.num score.maxScore)), ("percentage", some (.ofInt score.percentage)),
      ("label", score.label.map .str), ("bandId", score.bandId.map .str)]

end CategoryScore

namespace SurveyScore

def ofJson : Schema.Check SurveyScore :=
  Schema.record "ScoreResult" fun entries =>
    SurveyScore.mk <$> Schema.withDefault entries "totalScore" 0 Schema.number
      <*> Schema.withDefault entries "maxScore" 0 Schema.number
      <*> Schema.withDefault entries "percentage" 0 Schema.integer
      <*> Schema.withDefault entries "byCategory" [] (Schema.dictionary CategoryScore.ofJson)
      <*> Schema.optionalField entries "band" ScoreBand.ofJson
      <*> Schema.withDefault entries "questionScores" [] (Schema.list QuestionScore.ofJson)

/-- The result without the scores of single questions. -/
def summaryFields (score : SurveyScore) : List (String × Option Json) :=
  [("totalScore", some (.num score.total)), ("maxScore", some (.num score.maxScore)),
    ("percentage", some (.ofInt score.percentage)),
    ("byCategory", some (.obj (score.byCategory.map fun (id, s) => (id, s.toJson)))),
    ("band", score.band.map ScoreBand.toJson)]

def summary (score : SurveyScore) : Json := Json.ofFields score.summaryFields

def toJson (score : SurveyScore) : Json :=
  Json.ofFields (score.summaryFields
    ++ [("questionScores", some (Json.ofList QuestionScore.toJson score.questionScores))])

end SurveyScore

end Questionnaire
