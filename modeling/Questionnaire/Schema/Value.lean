import Questionnaire.Json.Basic
import Questionnaire.Number.Numeral
import Questionnaire.Schema.Validated

/-!
Checks of single values.  Text and collections are taken as they are; truth values and numbers are
also taken from the other kinds of values that denote them.
-/

namespace Questionnaire.Schema

/-- A check of data that yields a value. -/
abbrev Check (α : Type) := Json → Validated α

def text : Check String
  | .str value => .valid value
  | _ => .issue .text

/-- Any data. -/
def any : Check Json := .valid

/-- No value at all. -/
def nothing : Check Unit
  | .null => .valid ()
  | _ => .issue .nothing

/-- The truth value a text denotes. -/
def truthOfText? (s : String) : Option Bool :=
  let word := String.ofList (s.toList.map Char.toLower)
  if word ∈ ["0", "off", "f", "false", "n", "no"] then some false
  else if word ∈ ["1", "on", "t", "true", "y", "yes"] then some true
  else none

/-- Whether a whole binary number lies strictly within the range of 64-bit integers. -/
def isMachineInteger (i : Int) : Bool :=
  Int64.minValue.toInt < i && i ≤ Int64.maxValue.toInt

def truthOfInteger (i : Int) : Validated Bool :=
  if i = 0 then .valid false else if i = 1 then .valid true else .issue .truthText

/-- A truth value, one of the integers zero and one, or a word for either. -/
def truth : Check Bool
  | .bool value => .valid value
  | .str value => match truthOfText? value with
    | some b => .valid b
    | none => .issue .truthText
  | .num (.int i) => truthOfInteger i
  | .num (.float x) => match x.toInt? with
    | some i => if isMachineInteger i then truthOfInteger i else .issue .truth
    | none => .issue .truth
  | _ => .issue .truth

/-- A truth value as such. -/
def strictTruth : Check Bool
  | .bool value => .valid value
  | _ => .issue .truth

/-- The number of characters beyond which a text is not read as an integer. -/
def maxIntegerText : Nat := 4300

/-- An integer, a truth value, a binary number without a fraction, or a numeral of the whole
form. -/
def integer : Check Int
  | .num (.int i) => .valid i
  | .bool value => .valid (if value then 1 else 0)
  | .num (.float x) =>
    if !x.isFinite then .issue .notFinite
    else match x.toInt? with
      | some i => if isMachineInteger i then .valid i else .issue .integerSize
      | none => .issue .integerFraction
  | .str value => match Numeral.whole? value with
    | some i => if maxIntegerText < value.length then .issue .integerSize else .valid i
    | none => .issue .integerText
  | _ => .issue .integer

/-- A number as a binary number: a numeral of the data form counts, an integer that is too large
does not. -/
def float : Check Binary64
  | .num (.float x) => .valid x
  | .num (.int i) =>
      if (Binary64.ofInt i).isFinite then .valid (Binary64.ofInt i) else .issue .number
  | .bool value => .valid (.ofInt (if value then 1 else 0))
  | .str value => match Numeral.data? value with
    | some x => .valid x
    | none => .issue .numberText
  | _ => .issue .number

/-- The first of two checks that succeeds; if neither does, the issues of both, each under the name
of its member. -/
def either {α : Type} (first second : String × Check α) : Check α := fun v =>
  match first.2 v, second.2 v with
  | .fault cause, _ => .fault cause
  | .valid a, _ => .valid a
  | _, .fault cause => .fault cause
  | _, .valid a => .valid a
  | .issues found, .issues more =>
    .issues (found.map (·.under (.name first.1)) ++ more.map (·.under (.name second.1)))

/-- A number of either kind.  Numbers stay of their kind, and any other value is an integer where it
can be one. -/
def number : Check Number
  | .num value => .valid value
  | v => either ("int", fun v => (integer v).map .int) ("float", fun v => (float v).map .float) v

/-- Data or nothing. -/
def optional {α : Type} (check : Check α) : Check (Option α)
  | .null => .valid none
  | v => (check v).map some

/-- The outcomes of a check on items, each under its position from `start` on. -/
def itemsFrom {α : Type} (check : Check α) (start : Nat) : List Json → Validated (List α)
  | [] => .valid []
  | v :: rest =>
    List.cons <$> (check v).under (.index start) <*> itemsFrom check (start + 1) rest

def list {α : Type} (check : Check α) : Check (List α)
  | .arr items => itemsFrom check 0 items
  | _ => .issue .list

/-- A list with bounds on its length.  A list that is too long is not looked into. -/
def boundedList {α : Type} (check : Check α) (least most : Option Nat) : Check (List α)
  | .arr items =>
    match most with
    | some most => if most < items.length then .issue (.tooLong most items.length) else tested items
    | none => tested items
  | _ => .issue .list
where
  tested (items : List Json) : Validated (List α) :=
    (itemsFrom check 0 items).andThen fun values =>
      match least with
      | some least =>
        if values.length < least then .issue (.tooShort least values.length) else .valid values
      | none => .valid values

/-- The outcomes of a check on the values of entries, each under its name. -/
def entriesOf {α : Type} (check : Check α) : Entries Json → Validated (Entries α)
  | [] => .valid []
  | (name, v) :: rest =>
    List.cons <$> ((check v).under (.name name)).map (name, ·) <*> entriesOf check rest

def dictionary {α : Type} (check : Check α) : Check (Entries α)
  | .obj entries => entriesOf check entries
  | _ => .issue .dictionary

/-- One of the words of a closed set, as the value it stands for. -/
def choice {α : Type} (words : List (String × α)) : Check α
  | .str word => match List.lookup word words with
    | some value => .valid value
    | none => .issue (.choice (words.map (·.1)))
  | _ => .issue (.choice (words.map (·.1)))

/-- One of a few fixed texts, as the value it stands for. -/
def fixed {α : Type} (words : List (String × α)) : Check α
  | .str word => match List.lookup word words with
    | some value => .valid value
    | none => .issue (.fixed (words.map (·.1)))
  | _ => .issue (.fixed (words.map (·.1)))

end Questionnaire.Schema
