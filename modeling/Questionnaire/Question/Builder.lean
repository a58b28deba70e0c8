import Questionnaire.Json.Display
import Questionnaire.Order
import Questionnaire.Question.Document

/-!
The builder's form of questions.  The builder keeps the prompt under `text`, tells the place of a
question in the survey and whether it has rules, and leaves settings out or names them otherwise;
what is missing is filled in before a question is read.
-/

namespace Questionnaire

/-- Why data cannot be read as a question. -/
inductive QuestionError where
  /-- Only an object can be a question. -/
  | notAnObject (kind : String)
  /-- The question of this label does not agree with the schema. -/
  | invalid (label : String) (issues : List Issue)
  /-- The data cannot even be checked. -/
  | fault (cause : Fault)
deriving DecidableEq, Repr

namespace QuestionError

/-- A place with what is wrong there. -/
def placed (issue : Issue) : String :=
  (if issue.pathText = "" then "<root>" else issue.pathText) ++ ": " ++ issue.kind.message

def message : QuestionError → String
  | .notAnObject kind => "Invalid question: expected an object, got " ++ kind
  | .invalid label issues =>
    "Invalid question " ++ label ++ ": " ++ "; ".intercalate (issues.map placed)
  | .fault _ => "Invalid question"

end QuestionError

namespace Builder

/-- The first of several settings that is not empty. -/
def first (entries : Entries Json) (names : List String) : Json :=
  ((names.filterMap entries.get?).find? (· ≠ .null)).getD .null

/-- A setting, null if it is not there. -/
def setting (entries : Entries Json) (name : String) : Json := (entries.get? name).getD .null

/-- The parts of a text between commas and semicolons. -/
def splitList (s : String) : List String :=
  let (last, parts) := s.toList.foldr (fun c (part, parts) =>
    if c = ',' ∨ c = ';' then ([], part :: parts) else (c :: part, parts)) ([], [])
  (last :: parts).map String.ofList

def text? : Json → Option String
  | .str s => some s
  | _ => none

/-- The texts of a list, or of a text that lists them, without blanks around them. -/
def texts (v : Json) : List String :=
  let given := match v with
    | .str s => splitList s
    | .arr items => items.filterMap text?
    | _ => []
  (given.map Text.trim).filter (· ≠ "")

/-- A numeral as the number that it denotes, and a default for nothing. -/
def numberOr (default : Int) : Json → Json
  | .null => .ofInt default
  | .str s => match Numeral.free? s with
    | some x => .num (.float x)
    | none => .str s
  | v => v

/-- A setting that counts as something, or else a default. -/
def orText (v : Json) (default : String) : Json := if v.isTruthy then v else .str default

def defaultFileTypes : List String := ["pdf", "doc", "docx", "jpg", "png"]

def fillFileUpload (entries : Entries Json) : Entries Json :=
  let allowed := texts (first entries ["allowedTypes", "allowedFileTypes", "fileTypes"])
  let entries := entries.put "allowedTypes"
    (.arr ((if allowed.isEmpty then defaultFileTypes else allowed).map .str))
  let entries := entries.put "maxFileSize"
    (numberOr 10 (first entries ["maxFileSize", "maxSizeMB", "maxSize"]))
  entries.put "maxFiles" (numberOr 1 (first entries ["maxFiles", "maxUploads", "maxAttachments"]))

/-- An image with the choice that it stands for. -/
def imageOption : Json × Json → Option Json
  | (.str image, label) =>
    if image = "" then none
    else some (.obj [("imageUrl", .str image), ("label", label), ("value", label)])
  | _ => none

/-- The images paired with the choices, unless there are image options already. -/
def pairImages (entries : Entries Json) : Entries Json :=
  match setting entries "optionImages", setting entries "options" with
  | .arr images, .arr options =>
    if (setting entries "imageOptions").isTruthy then entries
    else entries.put "imageOptions" (.arr ((images.zip options).filterMap imageOption))
  | _, _ => entries

def fillImageChoice (entries : Entries Json) : Entries Json :=
  let entries := entries.put "selectionType" (orText (setting entries "selectionType") "single")
  let entries := entries.putNew "imageSize" (.str "medium")
  let entries := entries.putNew "columns" (.ofInt 2)
  let entries := entries.putNew "showLabels" (.bool true)
  pairImages entries

/-- What kinds of questions need beside their declared settings. -/
def fillKind (entries : Entries Json) : Entries Json :=
  match setting entries "type" with
  | .str "file_upload" => fillFileUpload entries
  | .str "image_choice" => fillImageChoice entries
  | .str "matrix" =>
    entries.put "matrixType" (orText (setting entries "matrixType") "radio")
  | .str "video" => entries.put "videoUrl" (first entries ["videoUrl", "url", "mediaUrl"])
  | .str "audio_capture" => entries.put "maxDuration"
    (numberOr 60 (first entries ["maxDuration", "duration", "durationSeconds"]))
  | _ => entries

/-- The builder's prompt where there is no other. -/
def fillPrompt (entries : Entries Json) : Entries Json :=
  if (setting entries "question").isTruthy then entries
  else match setting entries "text" with
    | .str prompt => entries.put "question" (.str prompt)
    | _ => entries

/-- The data with everything filled in. -/
def fill (entries : Entries Json) : Entries Json :=
  fillKind ((fillPrompt entries).putNew "required" (.bool false))

/-- The settings that only the builder keeps. -/
def ownNames : List String := ["text", "order", "hasLogic"]

end Builder

namespace Question

/-- Reads a question from data without gaps. -/
def ofFilled (entries : Entries Json) : Except QuestionError Question :=
  match ofJson (.obj entries) with
  | .valid question => .ok question
  | .fault cause => .error (.fault cause)
  | .issues found =>
    let label := (Builder.text? (Builder.setting entries "id")).getD "<unknown id>"
    .error (.invalid label found)

/-- Reads a question from data with gaps. -/
def ofRaw : Json → Except QuestionError Question
  | .obj entries => ofFilled (Builder.fill entries)
  | v => .error (.notAnObject v.kindName)

/-- Reads questions from data that list them; what counts as nothing has none. -/
def listOfRaw (v : Json) : Except QuestionError (List Question) :=
  if v.isTruthy then
    match v.parts with
    | .ok parts => parts.mapM ofRaw
    | .error cause => .error (.fault cause)
  else .ok []

/-- Reads a question that the builder wrote; its `text` is the prompt. -/
def ofBuilder (v : Json) : Except QuestionError Question :=
  match v with
  | .obj entries =>
    let prompt := (Entries.get? entries "text").getD
      ((Entries.get? entries "question").getD (.str ""))
    ofRaw (.obj (Entries.put (entries.filter (·.1 ∉ Builder.ownNames)) "question" prompt))
  | _ => .error (.fault .noEntries)

def hasLogic (question : Question) : Bool := question.legacySkip.isSome || !question.rules.isEmpty

/-- The question as the builder keeps it, at a place in the survey. -/
def toBuilder (question : Question) (place : Json) : Json :=
  .obj (((question.toEntries.put "text" (.str question.prompt)).put "order" place).put "hasLogic"
    (.bool question.hasLogic))

/-- The question with its further settings sorted by name. -/
def withSortedExtras (question : Question) : Question :=
  { question with extras := sortBy (fun a b => textBelow a.1 b.1) question.extras }

/-- Whether two questions agree, whatever the order of their further settings. -/
def agrees (a b : Question) : Bool := a.withSortedExtras == b.withSortedExtras

/-- A question is read exactly from what agrees with the schema. -/
theorem ofFilled_eq_ok_iff (entries : Entries Json) (question : Question) :
    ofFilled entries = .ok question ↔ ofJson (.obj entries) = .valid question := by
  unfold ofFilled
  cases ofJson (.obj entries) <;> simp

end Question

end Questionnaire
