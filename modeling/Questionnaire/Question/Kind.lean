/-!
The closed set of question kinds, each with the word that data knows it by.
-/

namespace Questionnaire

inductive QuestionKind where
  | text
  | textarea
  | email
  | phone
  | url
  | number
  | multipleChoice
  | checkbox
  | dropdown
  | imageChoice
  | yesNo
  | rating
  | nps
  | likert
  | opinionScale
  | slider
  | emojiRating
  | matrix
  | ranking
  | constantSum
  | calculation
  | date
  | time
  | datetime
  | fileUpload
  | signature
  | video
  | audioCapture
  | section
  | statement
  | legal
  | hidden
deriving DecidableEq, Repr

namespace QuestionKind

/-- Every kind, in the order in which they are listed. -/
def all : List QuestionKind :=
  [.text, .textarea, .email, .phone, .url, .number,
    .multipleChoice, .checkbox, .dropdown, .imageChoice, .yesNo, .rating,
    .nps, .likert, .opinionScale, .slider, .emojiRating, .matrix,
    .ranking, .constantSum, .calculation, .date, .time, .datetime,
    .fileUpload, .signature, .video, .audioCapture, .section, .statement,
    .legal, .hidden]

def name : QuestionKind → String
  | .text => "text"
  | .textarea => "textarea"
  | .email => "email"
  | .phone => "phone"
  | .url => "url"
  | .number => "number"
  | .multipleChoice => "multiple_choice"
  | .checkbox => "checkbox"
  | .dropdown => "dropdown"
  | .imageChoice => "image_choice"
  | .yesNo => "yes_no"
  | .rating => "rating"
  | .nps => "nps"
  | .likert => "likert"
  | .opinionScale => "opinion_scale"
  | .slider => "slider"
  | .emojiRating => "emoji_rating"
  | .matrix => "matrix"
  | .ranking => "ranking"
  | .constantSum => "constant_sum"
  | .calculation => "calculation"
  | .date => "date"
  | .time => "time"
  | .datetime => "datetime"
  | .fileUpload => "file_upload"
  | .signature => "signature"
  | .video => "video"
  | .audioCapture => "audio_capture"
  | .section => "section"
  | .statement => "statement"
  | .legal => "legal"
  | .hidden => "hidden"

/-- The words with the kinds they stand for. -/
def words : List (String × QuestionKind) := all.map fun kind => (kind.name, kind)

def ofName? (word : String) : Option QuestionKind := List.lookup word words

theorem mem_all (kind : QuestionKind) : kind ∈ all := by
  cases kind <;> decide

theorem ofName?_name (kind : QuestionKind) : ofName? kind.name = some kind := by
  cases kind <;> rfl

/-- Scales of whole points that start at one. -/
def isRating : QuestionKind → Bool
  | .rating | .opinionScale | .emojiRating | .likert => true
  | _ => false

/-- Kinds whose answers are compared as numbers. -/
def isNumeric : QuestionKind → Bool
  | .number | .rating | .nps | .likert | .opinionScale | .slider | .emojiRating | .calculation =>
    true
  | _ => false

end QuestionKind

end Questionnaire
