import Questionnaire.Json.Basic
import Questionnaire.Text.Quoted

/-!
Data as it is shown in messages and compared as text: a text stands for itself, and inside a
collection it is quoted.  Not all data can be shown: an integer has no text if it has too many
digits, and a value has none if it has more levels than there is room for.
-/

namespace Questionnaire

/-- The number of digits beyond which an integer is neither shown nor read. -/
def Json.maxIntegerDigits : Nat := 4300

/-- How many digits an integer has; a binary number is no integer. -/
def Json.integerDigits : Number → Nat
  | .int i => Digits.count i.natAbs
  | .float _ => 0

/-- A number is no integer of too many digits. -/
def Number.HasText (value : Number) : Prop := Json.integerDigits value ≤ Json.maxIntegerDigits

instance (value : Number) : Decidable value.HasText :=
  inferInstanceAs (Decidable (Json.integerDigits value ≤ Json.maxIntegerDigits))

theorem Number.hasText_float (x : Binary64) : Number.HasText (.float x) := Nat.zero_le _

namespace Json

/-- The items with a comma between two. -/
def commaSeparated (items : List String) : String := ", ".intercalate items

mutual

/-- The text of a value inside a collection, if it has one. -/
def shown : Json → String
  | .null => "None"
  | .bool true => "True"
  | .bool false => "False"
  | .num value => value.text
  | .str value => Text.quoted value
  | .arr items => "[" ++ commaSeparated (shownItems items) ++ "]"
  | .obj entries => "\x7b" ++ commaSeparated (shownEntries entries) ++ "\x7d"

def shownItems : List Json → List String
  | [] => []
  | item :: items => shown item :: shownItems items

def shownEntries : List (String × Json) → List String
  | [] => []
  | (name, item) :: entries => (Text.quoted name ++ ": " ++ shown item) :: shownEntries entries

end

/-- The text of a value on its own, if it has one. -/
def display : Json → String
  | .str value => value
  | v => shown v

/-- No integer has more digits than a limit. -/
def hasDigitsWithin (limit : Nat) : Json → Bool :=
  everywhere fun
    | .num n => decide (integerDigits n ≤ limit)
    | _ => true

section Digits

variable {entries : Entries Json} {items : List Json} {limit : Nat}

theorem hasDigitsWithin_arr : hasDigitsWithin limit (.arr items) = true
    ↔ ∀ item ∈ items, hasDigitsWithin limit item = true := by
  rw [hasDigitsWithin, everywhere_arr]
  exact and_iff_right rfl

theorem hasDigitsWithin_obj : hasDigitsWithin limit (.obj entries) = true
    ↔ ∀ entry ∈ entries, hasDigitsWithin limit entry.2 = true := by
  rw [hasDigitsWithin, everywhere_obj]
  exact and_iff_right rfl

end Digits

mutual

/-- How many levels a value has: one more than the deepest of the values in it. -/
def depth : Json → Nat
  | .arr items => depthItems items + 1
  | .obj entries => depthEntries entries + 1
  | _ => 1

def depthItems : List Json → Nat
  | [] => 0
  | item :: items => max (depth item) (depthItems items)

def depthEntries : List (String × Json) → Nat
  | [] => 0
  | (_, item) :: entries => max (depth item) (depthEntries entries)

end

/-- Whether a value can be shown where there is room for so many levels.  A text needs none. -/
def hasText (room : Nat) : Json → Bool
  | .str _ => true
  | v => hasDigitsWithin maxIntegerDigits v && decide (depth v ≤ room)

/-- The text of a number, if it has one. -/
def numberText (value : Number) : Except Fault String :=
  if value.HasText then .ok value.text else .error .noSuchValue

theorem numberText_eq_ok_iff {value : Number} {text : String} :
    numberText value = .ok text ↔ value.HasText ∧ text = value.text := by
  rw [numberText]
  split
  · rename_i hshort
    simp [hshort, eq_comm]
  · rename_i hlong
    simp [hlong]

theorem numberText_eq_error_iff {value : Number} {cause : Fault} :
    numberText value = .error cause ↔ cause = .noSuchValue ∧ ¬ value.HasText := by
  rw [numberText]
  split
  · rename_i hshort
    simp [hshort]
  · rename_i hlong
    simp [hlong, eq_comm]

mutual

/-- A value as it is shown inside a collection, where there is room for so many levels. -/
def shownWithin : Nat → Json → Except Fault String
  | 0, _ => .error .tooDeep
  | _ + 1, .num value => numberText value
  | room + 1, .arr items => do
    return "[" ++ commaSeparated (← shownItemsWithin room items) ++ "]"
  | room + 1, .obj entries => do
    return "\x7b" ++ commaSeparated (← shownEntriesWithin room entries) ++ "\x7d"
  | _ + 1, v => .ok (shown v)

def shownItemsWithin : Nat → List Json → Except Fault (List String)
  | _, [] => .ok []
  | room, item :: items => do
    return (← shownWithin room item) :: (← shownItemsWithin room items)

def shownEntriesWithin : Nat → List (String × Json) → Except Fault (List String)
  | _, [] => .ok []
  | room, (name, item) :: entries => do
    let text ← shownWithin room item
    return (Text.quoted name ++ ": " ++ text) :: (← shownEntriesWithin room entries)

end

/-- A value as it is shown on its own, where there is room for so many levels. -/
def displayWithin (room : Nat) : Json → Except Fault String
  | .str value => .ok value
  | v => shownWithin room v

/-- The text of a value, taken to have one. -/
def assumedText (v : Json) : Except Fault String := .ok v.display

/-- The kind of a value as it is named in messages. -/
def kindName : Json → String
  | .null => "NoneType"
  | .bool _ => "bool"
  | .num (.int _) => "int"
  | .num (.float _) => "float"
  | .str _ => "str"
  | .arr _ => "list"
  | .obj _ => "dict"

/-- A list of texts as it is shown in a message. -/
def shownTexts (texts : List String) : String :=
  "[" ++ commaSeparated (texts.map Text.quoted) ++ "]"

end Json

end Questionnaire
