import Questionnaire.Question.Registry
import Questionnaire.Rule.Basic

/-!
Questions: what is asked, which answers are configured, how they are scored, and the rules that the
question declares.
-/

namespace Questionnaire

/-- Whether a cell of a grid takes one text or a list of them. -/
inductive GridKind where
  | radio
  | checkbox
deriving DecidableEq, Repr

namespace GridKind

def name : GridKind → String
  | .radio => "radio"
  | .checkbox => "checkbox"

def words : List (String × GridKind) :=
  [GridKind.radio, .checkbox].map fun kind => (kind.name, kind)

end GridKind

/-- Whether one image may be chosen or several. -/
inductive SelectionKind where
  | single
  | multiple
deriving DecidableEq, Repr

namespace SelectionKind

def name : SelectionKind → String
  | .single => "single"
  | .multiple => "multiple"

def words : List (String × SelectionKind) :=
  [SelectionKind.single, .multiple].map fun kind => (kind.name, kind)

end SelectionKind

structure Question where
  id : String
  kind : QuestionKind
  prompt : String
  description : Option String
  required : Bool
  /-- The configured choices. -/
  options : Option (List String)
  rowLabels : Option (List String)
  colLabels : Option (List String)
  gridKind : GridKind
  /-- Whether answers beside the configured choices are taken. -/
  allowOther : Bool
  selection : SelectionKind
  yesLabel : String
  noLabel : String
  ratingScale : Option Int
  scale : Option Int
  points : Option Int
  likertPoints : Option Int
  min : Option Number
  max : Option Number
  step : Option Number
  minSelections : Option Int
  maxSelections : Option Int
  totalPoints : Option Number
  correctOption : Option String
  scorable : Option Bool
  scoreWeight : Option Number
  category : Option String
  optionScores : Option (Entries Number)
  rules : List Rule
  legacySkip : Option LegacySkip
  /-- Settings of the kind that nothing here reads. -/
  extras : Entries Json
deriving DecidableEq

namespace Question

/-- The weight of the question, one unless configured. -/
def weight (question : Question) : Number := question.scoreWeight.getD 1

/-- The points of the options, none unless configured. -/
def scores (question : Question) : Entries Number := question.optionScores.getD []

/-- The configured choices, none unless configured. -/
def choices (question : Question) : List String := question.options.getD []

end Question

end Questionnaire
