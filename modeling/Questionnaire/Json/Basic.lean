import Questionnaire.Number.Basic

/-!
Structured data: what questions, rules, answers and snapshots are read from and written to.  An
object keeps its entries in the order in which their names were first given.
-/

namespace Questionnaire

inductive Json where
  | null
  | bool (value : Bool)
  | num (value : Number)
  | str (value : String)
  | arr (items : List Json)
  | obj (entries : List (String × Json))

instance : Inhabited Json := ⟨.null⟩

mutual

/-- Equality of data, numbers being told apart by kind. -/
def Json.beq : Json → Json → Bool
  | .null, .null => true
  | .bool a, .bool b => a == b
  | .num a, .num b => decide (a = b)
  | .str a, .str b => a == b
  | .arr a, .arr b => Json.beqItems a b
  | .obj a, .obj b => Json.beqEntries a b
  | _, _ => false

def Json.beqItems : List Json → List Json → Bool
  | [], [] => true
  | a :: as, b :: bs => Json.beq a b && Json.beqItems as bs
  | _, _ => false

def Json.beqEntries : List (String × Json) → List (String × Json) → Bool
  | [], [] => true
  | (k, a) :: as, (l, b) :: bs => k == l && Json.beq a b && Json.beqEntries as bs
  | _, _ => false

end

mutual

theorem Json.beq_iff : (a b : Json) → (Json.beq a b = true ↔ a = b)
  | .arr a, b => by
    cases b <;> simp [Json.beq, Json.beqItems_iff a]
  | .obj a, b => by
    cases b <;> simp [Json.beq, Json.beqEntries_iff a]
  | .null, b => by cases b <;> simp [Json.beq]
  | .bool _, b => by cases b <;> simp [Json.beq]
  | .num _, b => by cases b <;> simp [Json.beq]
  | .str _, b => by cases b <;> simp [Json.beq]

theorem Json.beqItems_iff : (a b : List Json) → (Json.beqItems a b = true ↔ a = b)
  | [], b => by cases b <;> simp [Json.beqItems]
  | x :: xs, b => by
    cases b with
    | nil => simp [Json.beqItems]
    | cons y ys => simp [Json.beqItems, Json.beq_iff x y, Json.beqItems_iff xs ys]

theorem Json.beqEntries_iff : (a b : List (String × Json)) → (Json.beqEntries a b = true ↔ a = b)
  | [], b => by cases b <;> simp [Json.beqEntries]
  | (k, x) :: xs, b => by
    cases b with
    | nil => simp [Json.beqEntries]
    | cons y ys =>
      obtain ⟨l, y⟩ := y
      simp [Json.beqEntries, Json.beq_iff x y, Json.beqEntries_iff xs ys, and_assoc]

end

/-- Data of the same kinds and values throughout are equal. -/
instance : DecidableEq Json := fun a b => decidable_of_iff _ (Json.beq_iff a b)

/-- Named values in order, no name twice. -/
abbrev Entries (α : Type) := List (String × α)

namespace Entries

variable {α : Type}

/-- The value under a name. -/
def get? (entries : Entries α) (name : String) : Option α := List.lookup name entries

def contains (entries : Entries α) (name : String) : Bool := entries.any (·.1 == name)

/-- Replaces the value under a name in its place, or adds the entry at the end. -/
def put (entries : Entries α) (name : String) (value : α) : Entries α :=
  match entries with
  | [] => [(name, value)]
  | (k, v) :: rest => if k = name then (k, value) :: rest else (k, v) :: put rest name value

/-- Takes an entry out. -/
def erase (entries : Entries α) (name : String) : Entries α := entries.filter (·.1 ≠ name)

def keys (entries : Entries α) : List String := entries.map (·.1)

/-- Adds an entry unless the name is taken. -/
def putNew (entries : Entries α) (name : String) (value : α) : Entries α :=
  if entries.contains name then entries else entries ++ [(name, value)]

theorem get?_put (entries : Entries α) (name other : String) (value : α) :
    (entries.put name value).get? other
      = if other = name then some value else entries.get? other := by
  induction entries with
  | nil =>
    simp only [put, get?, List.lookup_cons, List.lookup_nil]
    by_cases h : other = name
    · simp [h]
    · simp [h, beq_false_of_ne h]
  | cons e rest ih =>
    obtain ⟨k, v⟩ := e
    simp only [put]
    by_cases hk : k = name
    · subst hk
      by_cases h : other = k
      · simp [get?, h]
      · simp [get?, List.lookup_cons, h, beq_false_of_ne h]
    · simp only [if_neg hk, get?, List.lookup_cons]
      by_cases h : other = k
      · subst h
        simp [hk]
      · simpa [beq_false_of_ne h, get?] using ih

end Entries

namespace Json

/-- The value under a name of an object. -/
def field? (name : String) : Json → Option Json
  | .obj entries => Entries.get? entries name
  | _ => none

/-- Whether a value counts as something: neither null, false, zero, nor an empty text or
collection. -/
def isTruthy : Json → Bool
  | .null => false
  | .bool value => value
  | .num value => !value.isZero
  | .str value => value ≠ ""
  | .arr items => !items.isEmpty
  | .obj entries => !entries.isEmpty

/-- The value as a number; a truth value counts as zero or one. -/
def asNumber : Json → Except Fault Number
  | .num value => .ok value
  | .bool value => .ok (if value then 1 else 0)
  | _ => .error .wrongKind

/-- The parts of a value one after another: the items of a list, the names of an object, the
characters of a text. -/
def parts : Json → Except Fault (List Json)
  | .arr items => .ok items
  | .obj entries => .ok (entries.map fun (name, _) => .str name)
  | .str value => .ok (value.toList.map fun c => .str c.toString)
  | _ => .error .wrongKind

/-- An object of the fields that have a value. -/
def ofFields (fields : List (String × Option Json)) : Json :=
  .obj (fields.filterMap fun (name, value) => value.map (name, ·))

/-- A list of data. -/
def ofList {α : Type} (write : α → Json) (values : List α) : Json := .arr (values.map write)

def ofInt (value : Int) : Json := .num (.int value)

def ofNat (value : Nat) : Json := .num (.int value)

mutual

/-- The same data with null in place of every number that is not finite. -/
def finiteOnly : Json → Json
  | .num (.float value) => if value.isFinite then .num (.float value) else .null
  | .arr items => .arr (finiteItems items)
  | .obj entries => .obj (finiteEntries entries)
  | v => v

def finiteItems : List Json → List Json
  | [] => []
  | item :: items => finiteOnly item :: finiteItems items

def finiteEntries : List (String × Json) → List (String × Json)
  | [] => []
  | (name, item) :: entries => (name, finiteOnly item) :: finiteEntries entries

end

mutual

/-- Something holds of the data and of all that is in them. -/
def everywhere (p : Json → Bool) : Json → Bool
  | .arr items => p (.arr items) && everywhereItems p items
  | .obj entries => p (.obj entries) && everywhereEntries p entries
  | v => p v

def everywhereItems (p : Json → Bool) : List Json → Bool
  | [] => true
  | item :: items => everywhere p item && everywhereItems p items

def everywhereEntries (p : Json → Bool) : List (String × Json) → Bool
  | [] => true
  | (_, item) :: entries => everywhere p item && everywhereEntries p entries

end

section Everywhere

variable {p : Json → Bool} {entries : Entries Json} {items : List Json}

theorem everywhere_arr : everywhere p (.arr items) = true
    ↔ p (.arr items) = true ∧ ∀ item ∈ items, everywhere p item = true := by
  have hitems : everywhereItems p items = true ↔ ∀ item ∈ items, everywhere p item = true := by
    induction items with
    | nil => simp [everywhereItems]
    | cons item rest ih => rw [everywhereItems, Bool.and_eq_true, ih, List.forall_mem_cons]
  rw [everywhere, Bool.and_eq_true, hitems]

theorem everywhere_obj : everywhere p (.obj entries) = true
    ↔ p (.obj entries) = true ∧ ∀ entry ∈ entries, everywhere p entry.2 = true := by
  have hentries : everywhereEntries p entries = true
      ↔ ∀ entry ∈ entries, everywhere p entry.2 = true := by
    induction entries with
    | nil => simp [everywhereEntries]
    | cons entry rest ih => rw [everywhereEntries, Bool.and_eq_true, ih, List.forall_mem_cons]
  rw [everywhere, Bool.and_eq_true, hentries]

end Everywhere

end Json

end Questionnaire
