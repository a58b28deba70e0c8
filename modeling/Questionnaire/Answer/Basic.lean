import Questionnaire.Json.Display
import Questionnaire.Number.Numeral
import Questionnaire.Question.Basic

/-!
Answers: what counts as no answer, the number that an answer stands for, and the bounds that a
question sets.  Texts that are numerals stand for numbers, with a comma or a point; a truth value
stands for none.
-/

namespace Questionnaire

/-- The answers of a respondent, by question. -/
abbrev Answers := Entries Json

namespace Answers

/-- The answers in data, which have to be named. -/
def ofJson : Json → Except Fault Answers
  | .obj entries => .ok entries
  | _ => .error .noEntries

/-- The answer to a question, null if there is none. -/
def answerTo (answers : Answers) (questionId : String) : Json :=
  (Entries.get? answers questionId).getD .null

end Answers

namespace Answers

/-- An answer in data that is a pair of a name and an answer.  A name that is no text answers no
question. -/
def pair? (v : Json) : Except Fault (Option (String × Json)) := do
  match ← v.parts with
  | [.str name, answer] => return some (name, answer)
  | [.arr _, _] => .error .wrongKind
  | [.obj _, _] => .error .wrongKind
  | [_, _] => return none
  | _ => .error .noSuchValue

/-- The answers in data: none in what counts as nothing, named ones, or a list of pairs. -/
def gather : Json → Except Fault Answers
  | .obj entries => .ok entries
  | v => if v.isTruthy then do
      let pairs ← (← v.parts).mapM pair?
      return (pairs.filterMap id).foldl (fun answers (name, answer) => answers.put name answer) []
    else .ok []

end Answers

/-- Nothing, a blank text and an empty collection are no answer. -/
def isUnanswered : Json → Bool
  | .null => true
  | .str value => Text.allBlank value
  | .arr items => items.isEmpty
  | .obj entries => entries.isEmpty
  | _ => false

@[simp] theorem isUnanswered_str (s : String) :
    isUnanswered (.str s) = true ↔ ∀ c ∈ s.toList, Text.isBlank c = true := by
  simp [isUnanswered, Text.allBlank]

namespace Json

/-- The number that a text denotes, with a comma or a point. -/
def numeral? (text : String) : Option Number :=
  let chars := (Text.trim text).toList.map fun c => if c = ',' then '.' else c
  (Numeral.free? (String.ofList chars)).map .float

/-- The number an answer stands for, if texts can be taken in some way.  A value without a text
stands for none. -/
def quantityBy (text : Json → Except Fault String) : Json → Except Fault (Option Number)
  | .null => .ok none
  | .bool _ => .ok none
  | .num value => .ok (some value)
  | v => match text v with
    | .ok shown => .ok (numeral? shown)
    | .error .noSuchValue => .ok none
    | .error cause => .error cause

/-- The number an answer stands for. -/
def quantity? : Json → Option Number
  | .null => none
  | .bool _ => none
  | .num value => some value
  | v => numeral? v.display

theorem quantityBy_eq {text : Json → Except Fault String} {v : Json}
    (h : text v = .ok v.display) : v.quantityBy text = .ok v.quantity? := by
  cases v with
  | null => rfl
  | bool value => rfl
  | num value => rfl
  | _ => simp only [quantityBy, h, quantity?]

end Json

/-- A number, zero if there is none. -/
def Number.orZero : Option Number → Number
  | some n => if n.isZero then 0 else n
  | none => 0

namespace Json

/-- The number an answer stands for, zero if there is none. -/
def quantityOrZero (v : Json) : Number := .orZero v.quantity?

end Json

namespace Question

/-- A configured count of points, zero counting as not configured. -/
private def positivePoints? (points : Option Int) : Option Int := points.filter (· ≠ 0)

/-- The highest point of a scale, five unless configured. -/
def ratingUpperBound (question : Question) : Int :=
  let own := if question.kind = .likert then positivePoints? question.likertPoints else none
  ((own.or (positivePoints? question.ratingScale)).or
    ((positivePoints? question.scale).or (positivePoints? question.points))).getD 5

def sliderMin (question : Question) : Number := question.min.getD 0

def sliderMax (question : Question) : Number := question.max.getD 100

/-- The distance between two positions of a slider; a step of zero counts as not configured. -/
def sliderStep (question : Question) : Number :=
  (question.step.filter fun step => !step.isZero).getD 1

/-- The points that are shared out, a hundred unless configured. -/
def pointsToShare (question : Question) : Number := question.totalPoints.getD 100

end Question

end Questionnaire
