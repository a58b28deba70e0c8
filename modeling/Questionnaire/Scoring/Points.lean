import Questionnaire.Answer.Basic
import Questionnaire.Scoring.Result
import Questionnaire.Text.Case

/-!
The points of a single question.  Each mode of scoring yields the points of an answer and the most
points there are; a question without an answer still has its most points, so that a half-finished
survey does not look better than it is.  Options are found by the texts of what is chosen, and how a
text is taken is left open: where it does not exist, scoring fails.
-/

namespace Questionnaire

/-- The points of an answer and the most that there are. -/
structure Points where
  score : Number
  most : Number
deriving DecidableEq

namespace Question

/-- The points of an option, zero unless configured. -/
def scoreOf (question : Question) (option : String) : Number :=
  (Entries.get? question.scores option).getD 0

/-- The positive points among the options. -/
def positiveScores (question : Question) : List Number :=
  (question.scores.map (·.2)).filter fun points => Number.lt 0 points

/-- The most points of a single option, zero if none has positive points. -/
def bestScore (question : Question) : Number :=
  match question.positiveScores with
  | [] => 0
  | first :: rest => rest.foldl Number.max first

/-- The sum of all positive points. -/
def positiveTotal (question : Question) : Except Fault Number := Number.sum question.positiveScores

/-- The number that is worth the most points, zero if there is none. -/
def numericUpperBound (question : Question) : Number :=
  if question.kind.isRating then .int question.ratingUpperBound
  else if question.kind = .slider then question.sliderMax
  else question.max.getD 0

end Question

namespace Points

def nothing : Points := ⟨0, 0⟩

/-- Points under a weight. -/
def weighted (score most weight : Number) : Except Fault Points := do
  return ⟨← score.mul weight, ← most.mul weight⟩

/-- The best points and those that an answer has earned, if there is something to score, under a
weight. -/
def weigh (best : Except Fault Number) (earned : Option (Except Fault Number)) (weight : Number) :
    Except Fault Points := do
  let most ← (← best).mul weight
  match earned with
  | none => return ⟨0, most⟩
  | some earned => return ⟨← (← earned).mul weight, most⟩

/-- The points of an answer, if it is one. -/
def unlessUnanswered (answer : Json) (earned : Except Fault Number) :
    Option (Except Fault Number) :=
  if isUnanswered answer then none else some earned

/-- Whether several options may be chosen at once. -/
def takesSeveral (question : Question) : Bool :=
  question.kind = .imageChoice && question.selection = .multiple

def bestOfChoice (question : Question) : Except Fault Number :=
  if takesSeveral question then question.positiveTotal else .ok question.bestScore

/-- The words for the truth values stand for them. -/
def asTruth : Json → Json
  | .str word =>
    let plain := Text.lower (Text.trim word)
    if plain = "true" then .bool true else if plain = "false" then .bool false else .str word
  | answer => answer

/-- The answer as a list of options. -/
def chosenOptions : Json → List Json
  | .arr options => options
  | single => [single]

/-- The top of the recommendation scale. -/
def npsTop : Number := 10

/-- The most points of a row of a grid. -/
def rowMost (question : Question) : Except Fault Number :=
  if question.scores.isEmpty then .ok 1
  else match question.gridKind with
    | .checkbox => question.positiveTotal
    | .radio => .ok question.bestScore

def bestOfGrid (question : Question) : Except Fault Number := do
  (Number.int (question.rowLabels.getD []).length).mul (← rowMost question)

/-- The cells of the configured rows that are answered. -/
def answeredCells (question : Question) (cells : Answers) : List Json :=
  ((question.rowLabels.getD []).map cells.answerTo).filter fun cell => !isUnanswered cell

/-- The numbers from `n` down to one. -/
def places : Nat → List Nat
  | 0 => []
  | n + 1 => (n + 1) :: places n

@[simp] theorem length_places (n : Nat) : (places n).length = n := by
  induction n with
  | zero => rfl
  | succ n ih => rw [places, List.length_cons, ih]

/-- The sum of the products of places and values, paired from the first on. -/
def placedTotal (places : List Nat) (values : List Number) : Except Fault Number := do
  let products ← (places.zip values).mapM fun (place, value) => (Number.int place).mul value
  Number.sum products

/-- The items of a list answer. -/
def listItems : Json → List Json
  | .arr items => items
  | _ => []

/-- How many places a ranking has: one for each option, or for each ranked item if there are no
options. -/
def placeCount (question : Question) (answer : Json) : Nat :=
  if question.choices.isEmpty then (listItems answer).length else question.choices.length

def bestOfRanking (question : Question) (answer : Json) : Except Fault Number :=
  let places := places (placeCount question answer)
  placedTotal places (if question.scores.isEmpty then places.map fun _ => 1
    else sortBy (fun a b => Number.lt b a) question.positiveScores)

section Texts

variable (text : Json → Except Fault String) (question : Question)

/-- The points of several options together, whose texts are taken one by one. -/
def totalBy (options : List Json) : Except Fault Number :=
  Number.sumOver (fun option => (text option).map question.scoreOf) options

/-- The answer as a number from zero to the upper bound. -/
def ofNumericBy (answer : Json) : Except Fault Points :=
  let upper := question.numericUpperBound
  if upper.le 0 then .ok nothing
  else do match ← answer.quantityBy text with
    | none => return ⟨0, ← upper.mul question.weight⟩
    | some value => weighted (value.clamp upper) upper question.weight

/-- The option a single answer stands for; a truth value stands for its label. -/
def chosenOptionBy : Json → Except Fault String
  | .bool true => .ok question.yesLabel
  | .bool false => .ok question.noLabel
  | answer => (text answer).map Text.trim

/-- The points of the chosen option, or of the chosen options together. -/
def chosenPointsBy : Json → Except Fault Number
  | .arr options => totalBy text question options
  | single => (chosenOptionBy text question single).map question.scoreOf

def ofChoiceBy (answer : Json) : Except Fault Points :=
  weigh (bestOfChoice question) (unlessUnanswered answer (chosenPointsBy text question answer))
    question.weight

def ofCustomBy (answer : Json) : Except Fault Points := ofChoiceBy text question (asTruth answer)

/-- The points of all chosen options; options with negative points never add to the most. -/
def ofCountBy (answer : Json) : Except Fault Points :=
  weigh question.positiveTotal
    (unlessUnanswered answer (totalBy text question (chosenOptions answer))) question.weight

/-- The answer as a number from zero to ten; no weight applies. -/
def ofNpsBy (answer : Json) : Except Fault Points := do
  match ← answer.quantityBy text with
  | none => return ⟨0, npsTop⟩
  | some value => return ⟨value.clamp npsTop, npsTop⟩

/-- The points of a cell of a grid: of its options, or one where options have no points. -/
def cellPointsBy (cell : Json) : Except Fault Number :=
  if question.scores.isEmpty then .ok 1 else totalBy text question (chosenOptions cell)

/-- The points of the answered cells of the configured rows. -/
def ofGridBy (answer : Json) : Except Fault Points :=
  weigh (bestOfGrid question) (match answer with
    | .obj cells => unlessUnanswered answer
      (Number.sumOver (cellPointsBy text question) (answeredCells question cells))
    | _ => none) question.weight

/-- The value of a ranked item: its points, or one where options have no points. -/
def itemValueBy (item : Json) : Except Fault Number :=
  if question.scores.isEmpty then .ok 1 else (text item).map question.scoreOf

/-- The points of an item at its place, counted from the last. -/
def rankedPointsBy (ranked : Nat × Json) : Except Fault Number := do
  (Number.int ranked.1).mul (← itemValueBy text question ranked.2)

def ofRankingBy (answer : Json) : Except Fault Points :=
  weigh (bestOfRanking question answer) (match answer with
    | .arr items => unlessUnanswered answer
      (Number.sumOver (rankedPointsBy text question)
        ((places (placeCount question answer)).zip items))
    | _ => none) question.weight

/-- The points given to the correct option, or to all options together if there is none. -/
def allocatedBy (allocation : Answers) : Except Fault Number :=
  match question.correctOption.filter (· ≠ "") with
  | some option => ((allocation.answerTo option).quantityBy text).map .orZero
  | none => Number.sumOver (fun entry => (entry.2.quantityBy text).map .orZero) allocation

/-- The points shared out, up to the points that there are. -/
def ofAllocationBy (answer : Json) : Except Fault Points :=
  weigh (.ok question.pointsToShare) (match answer with
    | .obj allocation => unlessUnanswered answer
      ((allocatedBy text question allocation).map fun allocated =>
        allocated.clamp question.pointsToShare)
    | _ => none) question.weight

/-- The points of an answer in a mode of scoring. -/
def inModeBy (mode : ScoringMode) (answer : Json) : Except Fault Points :=
  match mode with
  | .numericDirect => ofNumericBy text question answer
  | .positionMapped => ofChoiceBy text question answer
  | .custom => ofCustomBy text question answer
  | .count => ofCountBy text question answer
  | .nps => ofNpsBy text answer
  | .matrixSum => ofGridBy text question answer
  | .rankingWeighted => ofRankingBy text question answer
  | .constantSumTotal => ofAllocationBy text question answer
  | .none => .ok nothing

end Texts

end Points

namespace NpsGroup

/-- The lowest and highest scores of a group. -/
def scores : NpsGroup → Number × Number
  | .detractor => (0, 6)
  | .passive => (7, 8)
  | .promoter => (9, 10)

/-- The group of a number; numbers between two groups belong to none. -/
def ofNumber? (value : Number) : Option NpsGroup :=
  all.find? fun group => group.scores.1.le value && value.le group.scores.2

/-- The group of the number that an answer stands for. -/
def ofAnswerBy (text : Json → Except Fault String) (answer : Json) :
    Except Fault (Option NpsGroup) :=
  (answer.quantityBy text).map fun value => value.bind ofNumber?

end NpsGroup

namespace Question

/-- Whether the question counts towards the score of a survey. -/
def isScorable (question : Question) : Bool :=
  question.scorable ≠ some false && question.kind.isScorable

section Texts

variable (text : Json → Except Fault String) (question : Question) (answer : Json)

/-- The points of an answer, none at all where the question is not to be scored. -/
def earnedBy : Except Fault Points :=
  if question.scorable = some false then .ok .nothing
  else Points.inModeBy text question question.kind.scoringMode answer

/-- The group of an answer to a question about a recommendation. -/
def npsGroupBy : Except Fault (Option NpsGroup) :=
  if question.kind.scoringMode = .nps then NpsGroup.ofAnswerBy text answer else .ok none

/-- The score of an answer, where texts are taken in some way. -/
def scoreBy : Except Fault QuestionScore := do
  let points ← question.earnedBy text answer
  let npsGroup ← question.npsGroupBy text answer
  return {
    questionId := question.id
    score := points.score.tidy
    maxScore := points.most.tidy
    mode := question.kind.scoringMode
    category := question.category
    answered := !isUnanswered answer
    npsGroup }

end Texts

/-- The score of an answer that has a text. -/
def score (question : Question) (answer : Json) : Except Fault QuestionScore :=
  question.scoreBy Json.assumedText answer

/-- The score of an answer where there is room for so many levels of a value. -/
def scoreWithin (room : Nat) (question : Question) (answer : Json) : Except Fault QuestionScore :=
  question.scoreBy (Json.displayWithin room) answer

end Question

end Questionnaire
