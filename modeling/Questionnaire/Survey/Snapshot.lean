import Questionnaire.Question.Builder
import Questionnaire.Scoring.Survey

/-!
Snapshots: everything that is needed to score one set of answers later.
-/

namespace Questionnaire

structure Snapshot where
  surveyId : Option String
  questions : List Question
  responses : Answers
  config : Option ScoreConfig
deriving DecidableEq

/-- Why data are no snapshot. -/
inductive SnapshotError where
  | notAnObject
  | question (error : QuestionError)
  | invalid (issues : List Issue)
deriving DecidableEq, Repr

namespace SnapshotError

def message : SnapshotError → String
  | .notAnObject => "snapshot must be a JSON object"
  | .question error => "invalid snapshot: " ++ error.message
  | .invalid issues =>
    "invalid snapshot: " ++ "; ".intercalate (issues.map QuestionError.placed)

end SnapshotError

namespace Snapshot

/-- A snapshot from its fields, the questions being checked in their own way. -/
def ofFields (entries : Entries Json) (questions : Validated (List Question)) :
    Validated Snapshot :=
  Snapshot.mk <$> Schema.optionalField entries "surveyId" Schema.text
    <*> questions
    <*> Schema.withDefault entries "responses" [] (Schema.dictionary Schema.any)
    <*> Schema.optionalField entries "scoreConfig" ScoreConfig.ofJson

def ofJson : Schema.Check Snapshot :=
  Schema.record "SurveySnapshot" fun entries =>
    ofFields entries (Schema.withDefault entries "questions" [] (Schema.list Question.ofJson))

def toJson (snapshot : Snapshot) : Json :=
  Json.ofFields
    [("surveyId", snapshot.surveyId.map .str),
      ("questions", some (Json.ofList Question.toJson snapshot.questions)),
      ("responses", some (Json.finiteOnly (.obj snapshot.responses))),
      ("scoreConfig", snapshot.config.map ScoreConfig.toJson)]

/-- Reads a snapshot whose questions may have gaps.  Data that cannot be checked are a fault of
their own. -/
def parse (v : Json) : Except Fault (Except SnapshotError Snapshot) :=
  match v with
  | .obj entries =>
    match Question.listOfRaw ((Entries.get? entries "questions").getD .null) with
    | .error (.fault cause) => .error cause
    | .error error => .ok (.error (.question error))
    | .ok questions => match ofFields entries (.valid questions) with
      | .valid snapshot => .ok (.ok snapshot)
      | .issues found => .ok (.error (.invalid found))
      | .fault cause => .error cause
  | _ => .ok (.error .notAnObject)

/-- Only objects are snapshots. -/
theorem parse_notAnObject {v : Json} (h : ∀ entries, v ≠ .obj entries) :
    parse v = .ok (.error .notAnObject) := by
  cases v with
  | obj entries => exact absurd rfl (h entries)
  | _ => rfl

/-- The score of a snapshot by the engine that it asks for, with the warning where there is no such
engine. -/
def score (snapshot : Snapshot) (engineSetting : String) :
    List Warning × Except Fault SurveyScore :=
  (engineWarnings (chosenEngine none snapshot.config engineSetting),
    scoreQuestions snapshot.questions snapshot.responses snapshot.config)

end Snapshot

end Questionnaire
