import Questionnaire.Json.Basic
import Questionnaire.Schema.Fields

/-!
Findings: what a check of a survey's configuration reports, how severe it is, and counts over them.
-/

namespace Questionnaire

inductive Severity where
  | error
  | warning
  | info
deriving DecidableEq, Repr

namespace Severity

def name : Severity → String
  | .error => "error"
  | .warning => "warning"
  | .info => "info"

def words : List (String × Severity) :=
  [Severity.error, .warning, .info].map fun severity => (severity.name, severity)

end Severity

structure Finding where
  code : String
  severity : Severity
  message : String
  questionId : Option String := none
  ruleId : Option String := none
  categoryId : Option String := none
  bandId : Option String := none
  details : Entries Json := []
deriving DecidableEq

namespace Finding

def ofJson : Schema.Check Finding :=
  Schema.record "ConfigIssue" fun entries =>
    Finding.mk <$> Schema.required entries "code" Schema.text
      <*> Schema.required entries "severity" (Schema.fixed Severity.words)
      <*> Schema.required entries "message" Schema.text
      <*> Schema.optionalField entries "questionId" Schema.text
      <*> Schema.optionalField entries "ruleId" Schema.text
      <*> Schema.optionalField entries "categoryId" Schema.text
      <*> Schema.optionalField entries "bandId" Schema.text
      <*> Schema.withDefault entries "details" [] (Schema.dictionary Schema.any)

def toJson (finding : Finding) : Json :=
  Json.ofFields
    [("code", some (.str finding.code)), ("severity", some (.str finding.severity.name)),
      ("message", some (.str finding.message)), ("questionId", finding.questionId.map .str),
      ("ruleId", finding.ruleId.map .str), ("categoryId", finding.categoryId.map .str),
      ("bandId", finding.bandId.map .str),
      ("details", some (Json.finiteOnly (.obj finding.details)))]

/-- The findings of a severity. -/
def withSeverity (severity : Severity) (findings : List Finding) : List Finding :=
  findings.filter (·.severity = severity)

/-- The findings about a question. -/
def about (questionId : String) (findings : List Finding) : List Finding :=
  findings.filter (·.questionId = some questionId)

/-- How many findings of a severity there are. -/
def count (severity : Severity) (findings : List Finding) : Nat :=
  (withSeverity severity findings).length

/-- Whether no finding is an error. -/
def acceptable (findings : List Finding) : Bool := count .error findings = 0

end Finding

end Questionnaire
