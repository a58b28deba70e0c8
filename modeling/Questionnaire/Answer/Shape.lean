import Questionnaire.Question.Registry
import Questionnaire.Schema.Value

/-!
Answers brought into the shape of their kind of question.  Numbers are also taken from texts; the
other shapes are taken as they are.
-/

namespace Questionnaire

namespace AnswerShape

private def textsValue : Schema.Check Json := fun v =>
  (Schema.list Schema.text v).map fun values => .arr (values.map .str)

private def textMapValue : Schema.Check Json := fun v =>
  (Schema.dictionary Schema.text v).map fun cells =>
    .obj (cells.map fun (row, cell) => (row, .str cell))

private def textsMapValue : Schema.Check Json := fun v =>
  (Schema.dictionary (Schema.list Schema.text) v).map fun cells =>
    .obj (cells.map fun (row, cell) => (row, .arr (cell.map .str)))

/-- A number for each name, as data. -/
def ofAllocation (allocation : Entries Number) : Json :=
  .obj (allocation.map fun (option, points) => (option, .num points))

/-- The data of an answer of the shape. -/
def value : AnswerShape → Schema.Check Json
  | .text => fun v => (Schema.text v).map .str
  | .number => fun v => (Schema.number v).map .num
  | .integer => fun v => (Schema.integer v).map .ofInt
  | .truth => fun v => (Schema.strictTruth v).map .bool
  | .texts => textsValue
  | .textOrTexts => Schema.either ("str", fun v => (Schema.text v).map .str)
      ("list[str]", textsValue)
  | .grid => Schema.either ("dict[str,str]", textMapValue) ("dict[str,list[str]]", textsMapValue)
  | .allocation => fun v => (Schema.dictionary Schema.number v).map ofAllocation
  | .nothing => fun v => (Schema.nothing v).map fun _ => .null

/-- The data of an answer of the shape, or null. -/
def check (shape : AnswerShape) : Schema.Check Json
  | .null => .valid .null
  | v => shape.value v

end AnswerShape

end Questionnaire
