import Questionnaire.Answer.Basic
import Questionnaire.Text.Basic
import Questionnaire.Text.Case

/-!
Whether an answer passes the test of a condition.  On kinds of questions with numeric answers, and
where no kind is known, values are compared as numbers if both are numbers; else they are compared
as texts without the blanks at their ends.  Not all values have a text, and a test fails that takes
the text of one that has none; so beside each test stand the values whose texts it takes.
-/

namespace Questionnaire

/-- The members of a list up to the first that passes, that one included. -/
def upToFirst {α : Type} (passes : α → Bool) : List α → List α
  | [] => []
  | x :: rest => if passes x then [x] else x :: upToFirst passes rest

/-- A value as text, without blanks at its ends. -/
def plainText (v : Json) : String := Text.trim v.display

/-- The truth value that a value stands for: its own, or that of a word. -/
def truthWord? : Json → Option Bool
  | .bool value => some value
  | .str word =>
    let plain := Text.lower (Text.trim word)
    if plain ∈ ["true", "yes", "1"] then some true
    else if plain ∈ ["false", "no", "0"] then some false
    else none
  | _ => none

/-- The number that a single value stands for. -/
def singleQuantity? : Json → Option Number
  | .arr _ => none
  | .obj _ => none
  | v => v.quantity?

namespace AnswerTest

def isBool : Json → Bool
  | .bool _ => true
  | _ => false

/-- Equality of an answer and a value, where neither is a truth value. -/
def sameValue (numeric : Bool) (answer target : Json) : Bool :=
  match numeric, singleQuantity? answer, singleQuantity? target with
  | true, some a, some b => a.same b
  | _, _, _ => plainText answer = plainText target

/-- Whether an answer equals a value.  No answer equals nothing, and a list equals no single
value. -/
def equal (numeric : Bool) (answer : Json) (target : Scalar) : Bool :=
  match answer with
  | .arr _ => false
  | answer =>
    if isUnanswered answer then false
    else if isBool answer || isBool target.toJson then
      match truthWord? answer, truthWord? target.toJson with
      | some a, some b => a = b
      | _, _ => false
    else sameValue numeric answer target.toJson

def compareNumbers (direction : Direction) (a b : Number) : Bool :=
  match direction with
  | .gt => b.lt a
  | .lt => a.lt b
  | .gte => b.le a
  | .lte => a.le b

/-- Texts by their code points, as dates in year-first form are ordered. -/
def compareTexts (direction : Direction) (a b : String) : Bool :=
  match direction with
  | .gt => decide (b < a)
  | .lt => decide (a < b)
  | .gte => !decide (a < b)
  | .lte => !decide (b < a)

/-- Whether an answer lies in a direction from a value. -/
def ordered (numeric : Bool) (direction : Direction) (answer : Json) (target : Scalar) : Bool :=
  match answer with
  | .arr _ => false
  | .obj _ => false
  | .bool _ => false
  | answer =>
    if isUnanswered answer then false
    else match singleQuantity? answer, singleQuantity? target.toJson with
      | some a, some b => compareNumbers direction a b
      | _, _ => !numeric && compareTexts direction (plainText answer) target.plainText

/-- Whether an answer lies between two bounds, both included. -/
def within (range : NumberRange) (answer : Json) : Bool :=
  if isUnanswered answer then false
  else match singleQuantity? answer with
    | some a => range.low.le a && a.le range.high
    | none => false

/-- Whether a list has a value among its items, or a text has it inside in any case. -/
def includesText (target : Scalar) : Json → Bool
  | .arr items => items.any fun item => plainText item = target.plainText
  | .str value => Text.contains (Text.lower value) (Text.lower target.plainText)
  | _ => false

/-- The texts of an answer: of its items, or of the answer as a whole. -/
def answerTexts : Json → List String
  | .arr items => items.map plainText
  | v => [plainText v]

def holds (numeric : Bool) (answer : Json) : AnswerTest → Bool
  | .answered => !isUnanswered answer
  | .notAnswered => isUnanswered answer
  | .isTrue => answer = .bool true
  | .isFalse => answer = .bool false
  | .equals target => equal numeric answer target
  | .notEquals target => !equal numeric answer target
  | .contains target => includesText target answer
  | .order direction target => ordered numeric direction answer target
  | .between range => within range answer
  | .includesAny values _ =>
    !isUnanswered answer && values.any fun value => value.plainText ∈ answerTexts answer
  | .includesAll values _ =>
    !isUnanswered answer && values.all fun value => value.plainText ∈ answerTexts answer

/-- The values whose texts are compared to tell whether an answer equals a value. -/
def textsOfEqual (numeric : Bool) (answer : Json) (target : Scalar) : List Json :=
  match answer with
  | .arr _ => []
  | answer =>
    if isUnanswered answer || isBool answer || isBool target.toJson then []
    else match numeric, singleQuantity? answer, singleQuantity? target.toJson with
      | true, some _, some _ => []
      | _, _, _ => [answer, target.toJson]

/-- The values whose texts are compared to tell whether an answer lies in a direction from a
value. -/
def textsOfOrder (numeric : Bool) (answer : Json) (target : Scalar) : List Json :=
  match answer with
  | .arr _ => []
  | .obj _ => []
  | .bool _ => []
  | answer =>
    if isUnanswered answer || numeric then []
    else match singleQuantity? answer, singleQuantity? target.toJson with
      | some _, some _ => []
      | _, _ => [answer, target.toJson]

/-- The values whose texts are compared to look for a value in an answer: of a list, the items up to
the first that is the value. -/
def textsOfIncludes (target : Scalar) : Json → List Json
  | .arr items => target.toJson :: upToFirst (fun item => plainText item = target.plainText) items
  | .str _ => [target.toJson]
  | _ => []

/-- The values whose texts are compared to look for several values in an answer. -/
def textsOfMembers (values : List Scalar) (answer : Json) : List Json :=
  if isUnanswered answer then []
  else match answer with
    | .arr items => items ++ values.map Scalar.toJson
    | v => v :: values.map Scalar.toJson

/-- The values whose texts are taken to test an answer, in that order. -/
def texts (numeric : Bool) (answer : Json) : AnswerTest → List Json
  | .equals target => textsOfEqual numeric answer target
  | .notEquals target => textsOfEqual numeric answer target
  | .contains target => textsOfIncludes target answer
  | .order _ target => textsOfOrder numeric answer target
  | .includesAny values _ => textsOfMembers values answer
  | .includesAll values _ => textsOfMembers values answer
  | _ => []

end AnswerTest

/-- Whether an answer passes the test of a condition, for a kind of question if it is known. -/
def Condition.holds (condition : Condition) (kind : Option QuestionKind) (answer : Json) : Bool :=
  condition.test.holds ((kind.map (·.isNumeric)).getD true) answer

/-- The values whose texts the test of a condition takes. -/
def Condition.texts (condition : Condition) (kind : Option QuestionKind) (answer : Json) :
    List Json :=
  condition.test.texts ((kind.map (·.isNumeric)).getD true) answer

end Questionnaire
