import Questionnaire.Schema.Value

/-!
Records: fields looked up by name.  A field has its name in capitals-inside form (`questionId`) and
is also found under the form with underscores (`question_id`); the first form wins.
-/

namespace Questionnaire.Schema

/-- The form of a field name with underscores. -/
def underscored (name : String) : String :=
  String.ofList (name.toList.flatMap fun c => if c.isUpper then ['_', c.toLower] else [c])

/-- The value of a field with the name it was found under. -/
def find? (entries : Entries Json) (name : String) : Option (String × Json) :=
  match entries.get? name with
  | some v => some (name, v)
  | none => (entries.get? (underscored name)).map fun v => (underscored name, v)

/-- A field that has to be there. -/
def required {α : Type} (entries : Entries Json) (name : String) (check : Check α) : Validated α :=
  match find? entries name with
  | some (used, v) => (check v).under (.name used)
  | none => .issues [⟨[.name name], .missing⟩]

/-- A field that has a value when it is left out. -/
def withDefault {α : Type} (entries : Entries Json) (name : String) (default : α)
    (check : Check α) : Validated α :=
  match find? entries name with
  | some (used, v) => (check v).under (.name used)
  | none => .valid default

/-- A field that may be left out or empty. -/
def optionalField {α : Type} (entries : Entries Json) (name : String) (check : Check α) :
    Validated (Option α) :=
  withDefault entries name none (optional check)

/-- A record of the given name. -/
def record {α : Type} (name : String) (fields : Entries Json → Validated α) : Check α
  | .obj entries => fields entries
  | _ => .issue (.record name)

/-- The entries of a record that are not among its fields, each field having two names of which the
first that is there is taken. -/
def extras (fields : List String) (entries : Entries Json) : Entries Json :=
  let used := fields.filterMap fun name => (find? entries name).map (·.1)
  entries.filter fun (name, _) => name ∉ used

end Questionnaire.Schema
