import Questionnaire.Schema.Value
import Questionnaire.Text.Case

/-!
Settings, read from the variables of an environment.  The names of the variables count in any case.
-/

namespace Questionnaire

structure Settings where
  projectName : String := "survey-scoring-engine"
  logLevel : String := "INFO"
  /-- Whether log records are written as data objects. -/
  logDocuments : Bool := false
  /-- Whether a rule that cannot be resolved stops a walk. -/
  strictRules : Bool := false
  engineId : String := "engagement_v1"
  /-- The snapshot that is read if no other is given. -/
  snapshotPath : String := "snapshots/survey_snapshot.json"
deriving DecidableEq, Repr

namespace Settings

/-- The value of a variable, the last of those with the name. -/
def valueOf? (environment : Entries String) (name : String) : Option String :=
  Entries.get? (environment.reverse.map fun (key, value) => (Text.lower key, value))
    (Text.lower name)

/-- A text setting. -/
def text (environment : Entries String) (name : String) (default : String) : Validated String :=
  .valid ((valueOf? environment name).getD default)

/-- A switch, on or off by one of the words for the truth values. -/
def switch (environment : Entries String) (name : String) (default : Bool) : Validated Bool :=
  match valueOf? environment name with
  | some word => (Schema.truth (.str word)).under (.name name)
  | none => .valid default

def ofEnvironment (environment : Entries String) : Validated Settings :=
  let standard : Settings := {}
  Settings.mk <$> text environment "PROJECT_NAME" standard.projectName
    <*> text environment "LOG_LEVEL" standard.logLevel
    <*> switch environment "LOG_JSON" standard.logDocuments
    <*> switch environment "LOGIC_STRICT" standard.strictRules
    <*> text environment "SCORING_ENGINE_ID" standard.engineId
    <*> text environment "SNAPSHOT_PATH" standard.snapshotPath

end Settings

end Questionnaire
