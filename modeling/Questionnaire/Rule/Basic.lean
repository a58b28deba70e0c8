import Questionnaire.Json.Display
import Questionnaire.Rule.Operator
import Questionnaire.Text.Basic

/-!
Branching rules: under conditions on answers, a question is skipped or shown, or the survey goes on
elsewhere or ends.  A condition carries just the value that its operator takes, so a condition of
the wrong shape cannot be written down.
-/

namespace Questionnaire

/-- A single value that an answer is compared with. -/
inductive Scalar where
  | truth (value : Bool)
  | number (value : Number)
  | text (value : String)
deriving DecidableEq

namespace Scalar

def toJson : Scalar → Json
  | .truth value => .bool value
  | .number value => .num value
  | .text value => .str value

/-- The value as text, without blanks at its ends. -/
def plainText (scalar : Scalar) : String := Text.trim scalar.toJson.display

end Scalar

/-- Two bounds, the first not above the second. -/
structure NumberRange where
  low : Number
  high : Number
  ordered : high.lt low = false
deriving DecidableEq

/-- What a condition asks of an answer. -/
inductive AnswerTest where
  | answered
  | notAnswered
  | isTrue
  | isFalse
  | equals (value : Scalar)
  | notEquals (value : Scalar)
  | contains (value : Scalar)
  | order (direction : Direction) (value : Scalar)
  | between (range : NumberRange)
  | includesAny (values : List Scalar) (nonempty : values ≠ [])
  | includesAll (values : List Scalar) (nonempty : values ≠ [])
deriving DecidableEq

namespace AnswerTest

def operator : AnswerTest → Operator
  | .answered => .answered
  | .notAnswered => .notAnswered
  | .isTrue => .isTrue
  | .isFalse => .isFalse
  | .equals _ => .equals
  | .notEquals _ => .notEquals
  | .contains _ => .contains
  | .order direction _ => .order direction
  | .between _ => .between
  | .includesAny _ _ => .includesAny
  | .includesAll _ _ => .includesAll

/-- The single values that an answer is compared with. -/
def targets : AnswerTest → List Scalar
  | .equals value => [value]
  | .notEquals value => [value]
  | .contains value => [value]
  | .order _ value => [value]
  | .includesAny values _ => values
  | .includesAll values _ => values
  | _ => []

end AnswerTest

structure Condition where
  questionId : String
  test : AnswerTest
deriving DecidableEq

def Condition.operator (condition : Condition) : Operator := condition.test.operator

/-- How the conditions of a rule are joined. -/
inductive Junction where
  | all
  | any
deriving DecidableEq, Repr

namespace Junction

def name : Junction → String
  | .all => "and"
  | .any => "or"

def words : List (String × Junction) := [Junction.all, Junction.any].map fun j => (j.name, j)

end Junction

/-- The kinds of actions. -/
inductive ActionKind where
  | skip
  | reveal
  | finish
  | jump
deriving DecidableEq, Repr

namespace ActionKind

def name : ActionKind → String
  | .skip => "skip"
  | .reveal => "show"
  | .finish => "end"
  | .jump => "jump"

def words : List (String × ActionKind) :=
  [ActionKind.skip, .reveal, .finish, .jump].map fun kind => (kind.name, kind)

end ActionKind

/-- What a rule does when it matches.  The end of the survey has no target, but an empty one may
have been written down. -/
inductive Action where
  | skip (target : String)
  | reveal (target : String)
  | jump (target : String)
  | finish (emptyTarget : Bool)
deriving DecidableEq, Repr

namespace Action

def kind : Action → ActionKind
  | .skip _ => .skip
  | .reveal _ => .reveal
  | .jump _ => .jump
  | .finish _ => .finish

/-- The question that the action is about. -/
def target? : Action → Option String
  | .skip target => some target
  | .reveal target => some target
  | .jump target => some target
  | .finish _ => none

/-- The target as it is written down. -/
def writtenTarget? : Action → Option String
  | .finish true => some ""
  | action => action.target?

/-- Whether the action decides where the survey goes on. -/
def isFlow : Action → Bool
  | .jump _ => true
  | .finish _ => true
  | _ => false

end Action

/-- A rule with at least one condition. -/
structure Rule where
  id : String
  conditions : List Condition
  nonempty : conditions ≠ []
  junction : Junction
  action : Action
deriving DecidableEq

/-- The older form of a skip: a question is left out if another one has a certain answer. -/
structure LegacySkip where
  questionId : String
  answer : Scalar
deriving DecidableEq

/-- The outcome of looking for a matching rule, as it is written down. -/
structure RuleOutcome where
  action : Option ActionKind
  target : Option String
  rule : Option Rule
deriving DecidableEq

/-- Where the survey goes on after a question. -/
structure Decision where
  current : Option String
  next : Option String
  ended : Bool
  ruleId : Option String
deriving DecidableEq, Repr

end Questionnaire
