import Questionnaire.Json.Basic
import Questionnaire.Question.Basic
import Questionnaire.Rule.Document

/-!
Questions read from data and written back.  Entries that are no fields of a question are kept.
-/

namespace Questionnaire.Question

/-- The names of the fields. -/
def fieldNames : List String :=
  ["id", "type", "question", "description", "required", "options", "rowLabels", "colLabels",
    "matrixType", "allowOther", "selectionType", "yesLabel", "noLabel", "ratingScale", "scale",
    "points", "likertPoints", "min", "max", "step", "minSelections", "maxSelections",
    "totalPoints", "correctOption", "scorable", "scoreWeight", "scoringCategory", "optionScores",
    "logicRules", "skipCondition"]

def ofEntries (entries : Entries Json) : Validated Question :=
  let optional {α : Type} (name : String) (check : Schema.Check α) :=
    Schema.optionalField entries name check
  Question.mk
    <$> Schema.required entries "id" Schema.text
    <*> Schema.required entries "type" (Schema.choice QuestionKind.words)
    <*> Schema.withDefault entries "question" "" Schema.text
    <*> optional "description" Schema.text
    <*> Schema.withDefault entries "required" false Schema.truth
    <*> optional "options" (Schema.list Schema.text)
    <*> optional "rowLabels" (Schema.list Schema.text)
    <*> optional "colLabels" (Schema.list Schema.text)
    <*> Schema.withDefault entries "matrixType" .radio (Schema.fixed GridKind.words)
    <*> Schema.withDefault entries "allowOther" false Schema.truth
    <*> Schema.withDefault entries "selectionType" .single (Schema.fixed SelectionKind.words)
    <*> Schema.withDefault entries "yesLabel" "Yes" Schema.text
    <*> Schema.withDefault entries "noLabel" "No" Schema.text
    <*> optional "ratingScale" Schema.integer
    <*> optional "scale" Schema.integer
    <*> optional "points" Schema.integer
    <*> optional "likertPoints" Schema.integer
    <*> optional "min" Schema.number
    <*> optional "max" Schema.number
    <*> optional "step" Schema.number
    <*> optional "minSelections" Schema.integer
    <*> optional "maxSelections" Schema.integer
    <*> optional "totalPoints" Schema.number
    <*> optional "correctOption" Schema.text
    <*> optional "scorable" Schema.truth
    <*> optional "scoreWeight" Schema.number
    <*> optional "scoringCategory" Schema.text
    <*> optional "optionScores" (Schema.dictionary Schema.number)
    <*> Schema.withDefault entries "logicRules" [] (Schema.list Rule.ofJson)
    <*> optional "skipCondition" LegacySkip.ofJson
    <*> pure (Schema.extras fieldNames entries)

def ofJson : Schema.Check Question := Schema.record "Question" ofEntries

/-- The further settings as they are written: empty ones are left out. -/
def writtenExtras (question : Question) : Entries Json :=
  (question.extras.filter (·.2 ≠ .null)).map fun (name, v) => (name, v.finiteOnly)

def texts (values : List String) : Json := .arr (values.map .str)

/-- The declared fields as they are written. -/
def fields (question : Question) : List (String × Option Json) :=
  let number (value : Option Number) : Option Json := value.map .num
  let integer (value : Option Int) : Option Json := value.map .ofInt
  [("id", some (.str question.id)),
    ("type", some (.str question.kind.name)),
    ("question", some (.str question.prompt)),
    ("description", question.description.map .str),
    ("required", some (.bool question.required)),
    ("options", question.options.map texts),
    ("rowLabels", question.rowLabels.map texts),
    ("colLabels", question.colLabels.map texts),
    ("matrixType", some (.str question.gridKind.name)),
    ("allowOther", some (.bool question.allowOther)),
    ("selectionType", some (.str question.selection.name)),
    ("yesLabel", some (.str question.yesLabel)),
    ("noLabel", some (.str question.noLabel)),
    ("ratingScale", integer question.ratingScale),
    ("scale", integer question.scale),
    ("points", integer question.points),
    ("likertPoints", integer question.likertPoints),
    ("min", number question.min),
    ("max", number question.max),
    ("step", number question.step),
    ("minSelections", integer question.minSelections),
    ("maxSelections", integer question.maxSelections),
    ("totalPoints", number question.totalPoints),
    ("correctOption", question.correctOption.map .str),
    ("scorable", question.scorable.map .bool),
    ("scoreWeight", number question.scoreWeight),
    ("scoringCategory", question.category.map .str),
    ("optionScores", question.optionScores.map fun scores =>
      .obj (scores.map fun (label, score) => (label, .num score))),
    ("logicRules", some (Json.ofList Rule.toJson question.rules)),
    ("skipCondition", question.legacySkip.map LegacySkip.toJson)]

def toEntries (question : Question) : Entries Json :=
  (question.fields.filterMap fun (name, value) => value.map (name, ·)) ++ question.writtenExtras

def toJson (question : Question) : Json := .obj question.toEntries

end Questionnaire.Question
