import Questionnaire.Number.Basic

/-!
What a schema finds wrong with data: the path to the place and the kind of disagreement, each kind
with its code and its message.
-/

namespace Questionnaire

/-- One step of the way to a place in data, or to the member of a choice of schemas. -/
inductive PathStep where
  | name (text : String)
  | index (position : Nat)
deriving DecidableEq, Repr

def PathStep.text : PathStep → String
  | .name text => text
  | .index position => toString position

/-- The kinds of disagreement between data and a schema. -/
inductive IssueKind where
  | missing
  | text
  | integer
  | integerText
  | integerFraction
  | integerSize
  | notFinite
  | number
  | numberText
  | truth
  | truthText
  | list
  | dictionary
  | record (name : String)
  /-- One of the words of a closed set. -/
  | choice (words : List String)
  /-- One of a few fixed texts. -/
  | fixed (words : List String)
  | tooShort (least actual : Nat)
  | tooLong (most actual : Nat)
  | atLeast (bound : String)
  | atMost (bound : String)
  | nothing
  /-- A condition of the domain that spans several values. -/
  | rule (explanation : String)
deriving DecidableEq, Repr

namespace IssueKind

def code : IssueKind → String
  | .missing => "missing"
  | .text => "string_type"
  | .integer => "int_type"
  | .integerText => "int_parsing"
  | .integerFraction => "int_from_float"
  | .integerSize => "int_parsing_size"
  | .notFinite => "finite_number"
  | .number => "float_type"
  | .numberText => "float_parsing"
  | .truth => "bool_type"
  | .truthText => "bool_parsing"
  | .list => "list_type"
  | .dictionary => "dict_type"
  | .record _ => "model_type"
  | .choice _ => "enum"
  | .fixed _ => "literal_error"
  | .tooShort _ _ => "too_short"
  | .tooLong _ _ => "too_long"
  | .atLeast _ => "greater_than_equal"
  | .atMost _ => "less_than_equal"
  | .nothing => "none_required"
  | .rule _ => "value_error"

/-- Words in quotes, the last two joined by "or". -/
def alternatives : List String → String
  | [] => ""
  | [word] => "'" ++ word ++ "'"
  | [word, last] => "'" ++ word ++ "' or '" ++ last ++ "'"
  | word :: rest => "'" ++ word ++ "', " ++ alternatives rest

/-- A count of items. -/
def items (n : Nat) : String := toString n ++ (if n = 1 then " item" else " items")

def message : IssueKind → String
  | .missing => "Field required"
  | .text => "Input should be a valid string"
  | .integer => "Input should be a valid integer"
  | .integerText => "Input should be a valid integer, unable to parse string as an integer"
  | .integerFraction => "Input should be a valid integer, got a number with a fractional part"
  | .integerSize => "Unable to parse input string as an integer, exceeded maximum size"
  | .notFinite => "Input should be a finite number"
  | .number => "Input should be a valid number"
  | .numberText => "Input should be a valid number, unable to parse string as a number"
  | .truth => "Input should be a valid boolean"
  | .truthText => "Input should be a valid boolean, unable to interpret input"
  | .list => "Input should be a valid list"
  | .dictionary => "Input should be a valid dictionary"
  | .record name => "Input should be a valid dictionary or instance of " ++ name
  | .choice words => "Input should be " ++ alternatives words
  | .fixed words => "Input should be " ++ alternatives words
  | .tooShort least actual =>
    "List should have at least " ++ items least ++ " after validation, not " ++ toString actual
  | .tooLong most actual =>
    "List should have at most " ++ items most ++ " after validation, not " ++ toString actual
  | .atLeast bound => "Input should be greater than or equal to " ++ bound
  | .atMost bound => "Input should be less than or equal to " ++ bound
  | .nothing => "Input should be None"
  | .rule explanation => "Value error, " ++ explanation

end IssueKind

/-- A disagreement at a place. -/
structure Issue where
  path : List PathStep
  kind : IssueKind
deriving DecidableEq, Repr

namespace Issue

/-- The same issue seen from one step further out. -/
def under (step : PathStep) (issue : Issue) : Issue := { issue with path := step :: issue.path }

def pathText (issue : Issue) : String := ".".intercalate (issue.path.map (·.text))

/-- The message, after the place where there is one. -/
def line (issue : Issue) : String :=
  if issue.pathText = "" then issue.kind.message
  else issue.pathText ++ ": " ++ issue.kind.message

end Issue

end Questionnaire
