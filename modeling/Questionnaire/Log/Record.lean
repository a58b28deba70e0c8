import Questionnaire.Json.Writer
import Questionnaire.Log.Level
import Questionnaire.Log.Template
import Questionnaire.Log.Value
import Questionnaire.Log.Warning

/-!
Log records and the lines that are written for them, as plain text or as one data object a line.
Records carry the survey that they are about.
-/

namespace Questionnaire

/-- A failure that is logged beside a message. -/
structure LoggedFailure where
  kind : String
  text : String
deriving DecidableEq, Repr

/-- The kind of the failure, and its text if it has one. -/
def LoggedFailure.line (failure : LoggedFailure) : String :=
  if failure.text = "" then failure.kind else failure.kind ++ ": " ++ failure.text

structure LogRecord where
  level : LogLevel
  logger : String
  /-- The message, unless its values do not fit. -/
  message : Option String
  /-- The survey that the record is about, null if it is about none. -/
  surveyId : Json
  failure : Option LoggedFailure := none
  extras : Entries LoggedValue := []
deriving DecidableEq

/-- Data beside a message. -/
instance : Coe (Entries Json) (Entries LoggedValue) :=
  ⟨fun entries => entries.map fun (name, v) => (name, .ofData v)⟩

namespace LogRecord

/-- Names that every record uses itself. -/
def ownNames : List String :=
  ["name", "msg", "args", "levelname", "levelno", "pathname", "filename", "module", "exc_info",
    "exc_text", "stack_info", "lineno", "funcName", "created", "msecs", "relativeCreated", "thread",
    "threadName", "processName", "process"]

/-- Names that no further field can have. -/
def refusedNames : List String := ownNames ++ ["message", "asctime"]

/-- Names that are never written as further fields. -/
def omittedNames : List String := ownNames ++ ["taskName", "survey_id", "message"]

/-- The first further field that a record cannot have. -/
def clash? {α : Type} (extras : Entries α) : Option String :=
  (Entries.keys extras).find? fun name => name ∈ refusedNames

/-- The fields of the record itself, with the time at which it is written. -/
def leading (time message : String) (record : LogRecord) : Entries Json :=
  [("ts", .str time), ("level", .str record.level.name), ("logger", .str record.logger),
    ("msg", .str message), ("survey_id", record.surveyId)]
    ++ match record.failure with
      | some failure => [("exc_info", .str failure.line)]
      | none => []

/-- Adds a further field unless its name is taken. -/
def addExtra (fields : Entries Json) (extra : String × LoggedValue) : Option (Entries Json) :=
  if fields.contains extra.1 then some fields
  else extra.2.written?.map fun v => fields ++ [(extra.1, v)]

/-- All fields that are written, if they can be. -/
def payload? (time message : String) (record : LogRecord) : Option (Entries Json) :=
  (record.extras.filter fun (name, _) => name ∉ omittedNames).foldlM addExtra
    (record.leading time message)

/-- The record as one object. -/
def documentLine? (time message : String) (record : LogRecord) : Option String :=
  (record.payload? time message).map fun fields => Json.writeLine (.obj fields)

/-- The record as plain text, the failure in lines of its own. -/
def textLine (time message : String) (record : LogRecord) : String :=
  let line := time ++ " " ++ record.level.name ++ " " ++ record.logger ++ " survey_id="
    ++ record.surveyId.display ++ " " ++ message
  match record.failure with
  | some failure => (if line.endsWith "\n" then line else line ++ "\n") ++ failure.line
  | none => line

theorem foldlM_addExtra_eq_append {extras : Entries LoggedValue} {fields all : Entries Json}
    (h : extras.foldlM addExtra fields = some all) : ∃ more, all = fields ++ more := by
  induction extras generalizing fields with
  | nil => exact ⟨[], by simpa using h.symm⟩
  | cons extra rest ih =>
    rw [List.foldlM_cons] at h
    obtain ⟨next, hnext, hrest⟩ := Option.bind_eq_some_iff.mp h
    obtain ⟨more, rfl⟩ := ih hrest
    unfold addExtra at hnext
    split at hnext
    · cases hnext
      exact ⟨more, rfl⟩
    · obtain ⟨v, -, rfl⟩ := Option.map_eq_some_iff.mp hnext
      exact ⟨(extra.1, v) :: more, by simp⟩

/-- The fields of the record itself come first. -/
theorem payload_leading {time message : String} {record : LogRecord} {fields : Entries Json}
    (h : record.payload? time message = some fields) :
    ∃ more, fields = record.leading time message ++ more :=
  foldlM_addExtra_eq_append h

end LogRecord

/-- A warning as a record about a survey. -/
def Warning.toRecord (warning : Warning) (surveyId : Json) : LogRecord where
  level := .warning
  logger := warning.logger
  message := some warning.message
  surveyId

/-- What is written of the records: from which level on, and in which form. -/
structure LogSettings where
  threshold : LogLevel
  documents : Bool
deriving DecidableEq, Repr

namespace LogSettings

/-- Settings by the name of a level, in any case. -/
def ofName? (level : String) (documents : Bool) : Option LogSettings :=
  (LogLevel.ofSetting? level).map fun threshold => ⟨threshold, documents⟩

/-- The line for a record, if it is kept and can be written. -/
def line? (settings : LogSettings) (time : String) (record : LogRecord) : Option String :=
  if settings.threshold.keeps record.level then
    record.message.bind fun message =>
      if settings.documents then record.documentLine? time message
      else some (record.textLine time message)
  else none

end LogSettings

end Questionnaire
