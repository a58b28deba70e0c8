import Questionnaire.Answer.Basic
import Questionnaire.Answer.Shape
import Questionnaire.Number.Decimal

/-!
Answers checked against their question: the shape of its kind and the bounds, options and totals it
configures.  Step and total are checked in decimal arithmetic, without tolerance.
-/

namespace Questionnaire

namespace AnswerCheck

/-- An integer between two bounds that have a text; the upper one is looked at first. -/
def boundedInteger (low high : Int) : Schema.Check Int := fun v =>
  (Schema.integer v).andThen fun i =>
    if high < i then .issue (.atMost (toString high))
    else if i < low then .issue (.atLeast (toString low))
    else .valid i

/-- A configured bound as a binary number. -/
def bound (limit : Option Number) : Validated (Option Binary64) :=
  match limit with
  | none => .valid none
  | some limit => match limit.toBinary64 with
    | .ok x => .valid (some x)
    | .error _ => .fault .unusableLimit

/-- Whether a number keeps a bound; what is not a number keeps none. -/
def keeps (below : Number → Number → Bool) (limit : Option Binary64) (x : Binary64) : Bool :=
  match limit with
  | none => true
  | some limit => below (.float x) (.float limit)

def boundText (limit : Option Binary64) : String := (limit.map (·.text .bound)).getD ""

/-- A binary number between two bounds; the upper one is looked at first. -/
def boundedFloat (low high : Option Number) : Schema.Check Binary64 := fun v =>
  (bound low).andThen fun low =>
    (bound high).andThen fun high =>
      (Schema.float v).andThen fun x =>
        if !keeps Number.le high x then .issue (.atMost (boundText high))
        else if !keeps (fun a b => b.le a) low x then .issue (.atLeast (boundText low))
        else .valid x

/-- The decimal that the text of a number denotes, if it has one. -/
def decimalOf (value : Number) : Except Fault Decimal :=
  (Json.numberText value).map fun _ => .ofNumber value

/-- What is said of a number that has no text. -/
def tooLongText : String :=
  "Exceeds the limit (" ++ toString Json.maxIntegerDigits ++ " digits) for integer string "
    ++ "conversion; use sys.set_int_max_str_digits() to increase the limit"

/-- The verdict of a rule on numbers.  A number without a text breaks the rule. -/
def byRule {α : Type} : Except Fault (Validated α) → Validated α
  | .ok verdict => verdict
  | .error .noSuchValue => .issue (.rule tooLongText)
  | .error cause => .fault cause

/-- Whether a value lies a whole number of steps from the lower end. -/
def isOnStep (low step value : Number) : Except Fault Bool := do
  let distance ← (← decimalOf value).sub (← decimalOf low)
  distance.isMultipleOf (← decimalOf step)

def onStep (low step : Number) (x : Binary64) : Validated Binary64 := byRule do
  if ← isOnStep low step (.float x) then return .valid x
  else return .issue (.rule ("value " ++ Number.text (.float x) ++ " is not on a step of "
      ++ step.text ++ " from " ++ low.text))

/-- An allocation of points that are not negative and make up the total exactly. -/
def sumsTo (total : Number) (allocation : Entries Number) : Validated (Entries Number) :=
  if allocation.any fun entry => entry.2.lt 0 then
    .issue (.rule "allocations must be non-negative")
  else byRule do
    let allocated ← Decimal.sum (← allocation.mapM fun entry => decimalOf entry.2)
    if allocated.same (← decimalOf total) then return .valid allocation
    else return .issue (.rule ("allocations sum to " ++ allocated.text ++ ", expected exactly "
      ++ total.text))

/-- Each text once, in code point order. -/
def distinctSorted (texts : List String) : List String := sortBy textBelow texts.eraseDups

/-- An allocation over the configured options only. -/
def keysIn (allowed : List String) (allocation : Entries Number) : Validated (Entries Number) :=
  let unknown := distinctSorted ((allocation.map (·.1)).filter (· ∉ allowed))
  if unknown.isEmpty then .valid allocation
  else .issue (.rule ("unknown options " ++ Json.shownTexts unknown))

/-- Whether the texts of an answer are all configured options. -/
def oneOf (allowed texts : List String) (answer : Json) : Validated Json :=
  let unknown := texts.filter (· ∉ allowed)
  if unknown.isEmpty then .valid answer
  else .issue (.rule ("not a configured option: " ++ Json.shownTexts unknown))

/-- The texts of a choice. -/
def chosenTexts : Json → List String
  | .str value => [value]
  | .arr items => items.filterMap fun | .str value => some value | _ => none
  | _ => []

/-- The largest length that a list can have. -/
def maxLength : Int := UInt64.size - 1

/-- A configured bound on the length of a list. -/
def lengthLimit (limit : Option Int) : Validated (Option Nat) :=
  match limit with
  | none => .valid none
  | some n => if 0 ≤ n ∧ n ≤ maxLength then .valid (some n.toNat) else .fault .unusableLimit

/-- A list of texts with bounds on its length. -/
def boundedTexts (least most : Option Int) : Schema.Check Json := fun v =>
  (lengthLimit least).andThen fun least =>
    (lengthLimit most).andThen fun most =>
      (Schema.boundedList Schema.text least most v).map fun texts => .arr (texts.map .str)

/-- The lines that say what is wrong, one for each issue. -/
def lines : Validated Json → Except Fault (List String)
  | .valid _ => .ok []
  | .issues found => .ok (found.map (·.line))
  | .fault cause => .error cause

end AnswerCheck

namespace Question

open AnswerCheck

/-- Whether only the configured options are taken. -/
def restrictsOptions (question : Question) : Bool :=
  !question.choices.isEmpty && !question.allowOther

/-- Restricts a choice to the configured options, if the question does. -/
private def amongOptions (question : Question) (check : Schema.Check Json) : Schema.Check Json :=
  fun v => (check v).andThen fun answer =>
    if question.restrictsOptions then oneOf question.choices (chosenTexts answer) answer
    else .valid answer

/-- The check of an answer that is not null, with its value brought into shape. -/
def answerCheck (question : Question) : Schema.Check Json :=
  match question.kind with
  | .rating | .opinionScale | .emojiRating | .likert =>
    fun v => (boundedInteger 1 question.ratingUpperBound v).map .ofInt
  | .nps => fun v => (boundedInteger 0 10 v).map .ofInt
  | .slider => fun v =>
    ((boundedFloat (some question.sliderMin) (some question.sliderMax) v).andThen
      (onStep question.sliderMin question.sliderStep)).map fun x => .num (.float x)
  | .number =>
    if question.min.isSome || question.max.isSome then
      fun v => (boundedFloat question.min question.max v).map fun x => .num (.float x)
    else question.kind.shape.value
  | .constantSum => fun v =>
    (((Schema.dictionary Schema.number v).andThen fun allocation =>
      if question.choices.isEmpty then .valid allocation
      else keysIn question.choices allocation).andThen
        (sumsTo question.pointsToShare)).map AnswerShape.ofAllocation
  | .checkbox => question.amongOptions (boundedTexts question.minSelections question.maxSelections)
  | .multipleChoice | .dropdown | .imageChoice => question.amongOptions question.kind.shape.value
  | kind => kind.shape.value

/-- The numbers that bound an answer.  Each of them is part of the name of the check, so that it
has to have a text. -/
def answerBounds (question : Question) : List Number :=
  match question.kind with
  | .rating | .opinionScale | .emojiRating | .likert => [.int question.ratingUpperBound]
  | .slider => [question.sliderMin, question.sliderMax]
  | .number => question.min.toList ++ question.max.toList
  | .checkbox => (question.minSelections.toList ++ question.maxSelections.toList).map .int
  | _ => []

/-- The lines that say what is wrong with an answer; none if it is accepted. -/
def validate (question : Question) (answer : Json) : Except Fault (List String) :=
  if isUnanswered answer then
    .ok (if question.required then ["question '" ++ question.id ++ "' is required"] else [])
  else do
    let _ ← question.answerBounds.mapM Json.numberText
    lines (question.answerCheck answer)

/-- An answer with a verdict has been checked. -/
theorem lines_of_validate {question : Question} {answer : Json} {found : List String}
    (hanswered : isUnanswered answer = false) (h : question.validate answer = .ok found) :
    lines (question.answerCheck answer) = .ok found := by
  rw [validate, hanswered] at h
  obtain ⟨texts, -, hlines⟩ := bind_eq_ok.mp h
  exact hlines

end Question

/-- The questions whose answers are not accepted, with the lines that say why.  A later question of
the same name replaces the lines of an earlier one. -/
def validateAnswers (questions : List Question) (answers : Answers) :
    Except Fault (Entries (List String)) :=
  questions.foldlM (fun failures question => do
    let lines ← question.validate (answers.answerTo question.id)
    return if lines.isEmpty then failures else failures.put question.id lines) []

end Questionnaire
