import Questionnaire.Json.Display
import Questionnaire.Order
import Questionnaire.Question.Kind
import Questionnaire.Rule.Operator
import Questionnaire.Scoring.Mode
import Questionnaire.Text.Basic

/-!
What each kind of question takes as an answer, which operators its conditions may use, and how it is
scored.  The three tables cover exactly the kinds.
-/

namespace Questionnaire

/-- The shapes that answers have. -/
inductive AnswerShape where
  | text
  | number
  | integer
  | truth
  | texts
  | textOrTexts
  /-- A text or a list of texts for each row. -/
  | grid
  /-- A number for each option. -/
  | allocation
  /-- Nothing is asked. -/
  | nothing
deriving DecidableEq, Repr

namespace QuestionKind

def shape : QuestionKind → AnswerShape
  | .number | .slider | .calculation => .number
  | .rating | .nps | .likert | .opinionScale | .emojiRating => .integer
  | .yesNo | .legal => .truth
  | .checkbox | .ranking => .texts
  | .imageChoice => .textOrTexts
  | .matrix => .grid
  | .constantSum => .allocation
  | .section | .statement => .nothing
  | _ => .text

private def presence : List Operator := [.answered, .notAnswered]
private def equality : List Operator := [.equals, .notEquals]
private def orders : List Operator := [.order .gt, .order .lt, .order .gte, .order .lte]

/-- The operators that conditions on a kind may use. -/
def operators : QuestionKind → List Operator
  | .text | .textarea | .email => presence ++ equality ++ [.contains]
  | .phone | .url | .time => presence ++ equality
  | .number | .rating | .nps | .opinionScale => presence ++ equality ++ orders ++ [.between]
  | .multipleChoice | .dropdown | .imageChoice => presence ++ equality ++ [.includesAny]
  | .checkbox => presence ++ [.includesAll, .includesAny]
  | .yesNo | .legal => presence ++ [.isTrue, .isFalse]
  | .likert => presence ++ equality ++ orders
  | .slider => presence ++ orders ++ [.between]
  | .emojiRating => presence ++ equality ++ [.order .gt, .order .lt]
  | .matrix | .ranking | .constantSum => presence
  | .fileUpload | .signature | .video | .audioCapture => presence
  | .calculation => equality ++ orders ++ [.between]
  | .date | .datetime => presence ++ equality ++ [.order .gt, .order .lt, .between]
  | .section | .statement => []
  | .hidden => equality ++ [.contains, .includesAny]

def scoringMode : QuestionKind → ScoringMode
  | .number | .rating | .likert | .opinionScale | .slider | .emojiRating => .numericDirect
  | .multipleChoice | .dropdown => .positionMapped
  | .checkbox => .count
  | .imageChoice | .yesNo => .custom
  | .nps => .nps
  | .matrix => .matrixSum
  | .ranking => .rankingWeighted
  | .constantSum => .constantSumTotal
  | _ => .none

def isScorable (kind : QuestionKind) : Bool := kind.scoringMode ≠ .none

/-- Whether any condition may read a question of the kind. -/
def supportsLogic (kind : QuestionKind) : Bool := !kind.operators.isEmpty

/-- The kind a value names, blanks around the word being overlooked. -/
def lookup? (value : Json) : Option QuestionKind := ofName? (Text.trim value.display)

/-- The message for a value that names no kind. -/
def unknownMessage (value : Json) : String := "Unknown question type '" ++ value.display ++ "'."

end QuestionKind

namespace Registry

/-- A table by its name, with the words of the kinds it covers. -/
structure Table where
  name : String
  keys : List String
deriving DecidableEq, Repr

/-- The tables as they stand. -/
def tables : List Table :=
  ["ANSWER_SHAPES", "VALID_OPERATORS", "SCORING_MODES"].map (⟨·, QuestionKind.all.map (·.name)⟩)

def Table.without (table : Table) (keys : List String) : Table :=
  { table with keys := table.keys.filter (· ∉ keys) }

def Table.with (table : Table) (keys : List String) : Table :=
  { table with keys := table.keys ++ keys.filter (· ∉ table.keys) }

/-- What a table lacks and what it has too much. -/
def Table.mismatches (table : Table) : List String :=
  let expected := QuestionKind.all.map (·.name)
  let missing := sortBy textBelow (expected.filter (· ∉ table.keys))
  let unknown := sortBy textBelow (table.keys.filter (· ∉ expected))
  (if missing.isEmpty then [] else [table.name ++ " missing " ++ Json.shownTexts missing])
    ++ (if unknown.isEmpty then [] else
        [table.name ++ " has unknown keys " ++ Json.shownTexts unknown])

def mismatches (tables : List Table) : List String := tables.flatMap (·.mismatches)

/-- All mismatches in one message. -/
def mismatchMessage? (tables : List Table) : Option String :=
  match mismatches tables with
  | [] => none
  | found => some ("; ".intercalate found)

/-- A table that covers exactly the kinds has no mismatch. -/
theorem mismatches_of_complete (name : String) :
    Table.mismatches ⟨name, QuestionKind.all.map (·.name)⟩ = [] := by
  unfold Table.mismatches
  generalize QuestionKind.all.map (·.name) = expected
  have none_missing : expected.filter (· ∉ expected) = [] := by
    rw [List.filter_eq_nil_iff]
    simp
  simp only [none_missing, sortBy_nil, List.isEmpty_nil, if_true, List.append_nil]

theorem mismatches_tables : mismatches tables = [] := by
  simp only [mismatches, tables, List.map_cons, List.map_nil, List.flatMap_cons, List.flatMap_nil,
    mismatches_of_complete, List.append_nil]

end Registry

end Questionnaire
