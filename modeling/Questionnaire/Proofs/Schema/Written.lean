import Questionnaire.Proofs.Json.Fields
import Questionnaire.Schema.Fields

/-!
Checks of what has been written.  A value that is written down is read back as it was, on its own,
in lists and under names, and a record is read back from the entries that its fields were written
to: a field without a value has no entry, and is not found under another name either.  What a record
keeps besides is under none of the names of its fields.
-/

namespace Questionnaire.Schema

variable {α : Type} {check : Check α} {write : α → Json}

/-- A check takes back what is written of a value, which is not written as no value. -/
structure ReadsBack (check : Check α) (write : α → Json) (value : α) : Prop where
  valid : check (write value) = .valid value
  ne_null : write value ≠ .null

theorem readsBack_text (value : String) : ReadsBack text .str value := ⟨rfl, nofun⟩

theorem readsBack_truth (value : Bool) : ReadsBack truth .bool value := ⟨rfl, nofun⟩

theorem readsBack_integer (value : Int) : ReadsBack integer .ofInt value := ⟨rfl, nofun⟩

theorem readsBack_number (value : Number) : ReadsBack number .num value := ⟨rfl, by simp⟩

theorem readsBack_choice {words : List (String × α)} {name : α → String} {value : α}
    (h : List.lookup (name value) words = some value) :
    ReadsBack (choice words) (fun value => .str (name value)) value := by
  refine ⟨?_, nofun⟩
  rw [choice, h]

theorem readsBack_fixed {words : List (String × α)} {name : α → String} {value : α}
    (h : List.lookup (name value) words = some value) :
    ReadsBack (fixed words) (fun value => .str (name value)) value := by
  refine ⟨?_, nofun⟩
  rw [fixed, h]

theorem optional_of_ne_null {v : Json} (h : v ≠ .null) :
    optional check v = (check v).map some := by
  cases v with
  | null => exact absurd rfl h
  | _ => rfl

theorem itemsFrom_written {values : List α} (h : ∀ value ∈ values, ReadsBack check write value)
    (start : Nat) : itemsFrom check start (values.map write) = .valid values := by
  induction values generalizing start with
  | nil => rfl
  | cons value rest ih =>
      have hrest := ih fun other hother => h other (List.mem_cons_of_mem value hother)
      rw [List.map_cons, itemsFrom, (h value List.mem_cons_self).valid, hrest]
      rfl

theorem readsBack_list {values : List α} (h : ∀ value ∈ values, ReadsBack check write value) :
    ReadsBack (list check) (Json.ofList write) values :=
  ⟨itemsFrom_written h 0, nofun⟩

/-- A list that has the least number of items is read back. -/
theorem readsBack_boundedList {least : Nat} {values : List α}
    (h : ∀ value ∈ values, ReadsBack check write value) (hleast : least ≤ values.length) :
    ReadsBack (boundedList check (some least) none) (Json.ofList write) values := by
  refine ⟨?_, nofun⟩
  change (itemsFrom check 0 (values.map write)).andThen _ = _
  rw [itemsFrom_written h]
  exact if_neg (Nat.not_lt_of_le hleast)

theorem readsBack_dictionary (h : ∀ value, ReadsBack check write value) (entries : Entries α) :
    ReadsBack (dictionary check)
      (fun entries => .obj (entries.map fun (name, v) => (name, write v))) entries := by
  refine ⟨?_, nofun⟩
  change entriesOf check (entries.map fun (name, v) => (name, write v)) = _
  induction entries with
  | nil => rfl
  | cons entry rest ih =>
      rw [List.map_cons, entriesOf, (h entry.2).valid, ih]
      rfl

/-- The fields of a record are found under their names with just the values that they have. -/
def Holds (entries : Entries Json) : List (String × Option Json) → Prop
  | [] => True
  | (name, value) :: rest => find? entries name = value.map (name, ·) ∧ Holds entries rest

theorem holds_iff {entries : Entries Json} {fields : List (String × Option Json)} :
    Holds entries fields
      ↔ ∀ name value, (name, value) ∈ fields → find? entries name = value.map (name, ·) := by
  induction fields with
  | nil => simp [Holds]
  | cons field rest ih =>
      obtain ⟨name, value⟩ := field
      rw [Holds, ih]
      constructor
      · rintro ⟨hfirst, hrest⟩ other v hmem
        rcases List.mem_cons.mp hmem with heq | hlater
        · cases heq
          exact hfirst
        · exact hrest other v hlater
      · intro h
        exact ⟨h name value List.mem_cons_self,
          fun other v hlater => h other v (List.mem_cons_of_mem _ hlater)⟩

/-- Whether a field is found depends on what is found under its two names alone. -/
theorem find?_congr {entries others : Entries Json} {name : String}
    (hname : entries.get? name = others.get? name)
    (hother : entries.get? (underscored name) = others.get? (underscored name)) :
    find? entries name = find? others name := by
  rw [find?, find?, hname, hother]

/-- A field that is found under its first name is the entry of that name. -/
theorem get?_of_find? {entries : Entries Json} {name : String} {value : Option Json}
    (h : find? entries name = value.map (name, ·)) : entries.get? name = value := by
  unfold find? at h
  cases hget : entries.get? name with
  | some v =>
      rw [hget] at h
      cases value with
      | none => cases h
      | some other => exact congrArg some (congrArg Prod.snd (Option.some.inj h))
  | none =>
      rw [hget] at h
      cases value with
      | none => rfl
      | some other =>
          obtain ⟨v, hother, hpair⟩ := Option.map_eq_some_iff.mp h
          have hform : underscored name = name := congrArg Prod.fst hpair
          rw [hform, hget] at hother
          cases hother

variable {entries : Entries Json} {name : String}

theorem required_written {value : α} (h : ReadsBack check write value)
    (hfind : find? entries name = Option.map (name, ·) (some (write value))) :
    required entries name check = .valid value := by
  rw [required, hfind]
  change (check (write value)).under (.name name) = _
  rw [h.valid]
  rfl

theorem withDefault_written {default value : α} (h : ReadsBack check write value)
    (hfind : find? entries name = Option.map (name, ·) (some (write value))) :
    withDefault entries name default check = .valid value := by
  rw [withDefault, hfind]
  change (check (write value)).under (.name name) = _
  rw [h.valid]
  rfl

theorem optionalField_written {value : Option α} (h : ∀ value, ReadsBack check write value)
    (hfind : find? entries name = Option.map (name, ·) (value.map write)) :
    optionalField entries name check = .valid value := by
  rw [optionalField, withDefault, hfind]
  cases value with
  | none => rfl
  | some value =>
      change (optional check (write value)).under (.name name) = _
      rw [optional_of_ne_null (h value).ne_null, (h value).valid]
      rfl

/-- Names of fields of one record: each of its own, and in no form that of another. -/
def Apart (names : List String) : Prop :=
  names.Nodup ∧ ∀ name ∈ names, underscored name ∈ names → underscored name = name

instance (names : List String) : Decidable (Apart names) :=
  inferInstanceAs (Decidable (_ ∧ _))

/-- The fields of a record are found in the entries that they were written to, beside entries of
other names. -/
theorem holds_given_append {fields : List (String × Option Json)} {others : Entries Json}
    (names : List String) (hnames : fields.map (·.1) = names) (hapart : Apart names)
    (hothers : ∀ name ∈ names, others.get? name = none ∧ others.get? (underscored name) = none) :
    Holds (Entries.given fields ++ others) fields := by
  subst hnames
  rw [holds_iff]
  intro name value hfield
  have hname : name ∈ fields.map (·.1) := List.mem_map.mpr ⟨_, hfield, rfl⟩
  obtain ⟨hown, hform⟩ := hothers name hname
  have hvalue : (Entries.given fields).get? name = value := Entries.get?_given hapart.1 hfield
  rw [find?, Entries.get?_append, Entries.get?_append, hown, hform, hvalue, Option.or_none,
    Option.or_none]
  cases value with
  | some v => rfl
  | none =>
      -- the other form is the name itself, or no name of a field
      by_cases hmem : underscored name ∈ fields.map (·.1)
      · rw [hapart.2 name hname hmem, hvalue]
      · rw [Entries.get?_given_of_not_mem hmem]
        rfl

/-- A record that has been written down is an object with just its fields. -/
theorem exists_holds_of_eq_ofFields {v : Json} {fields : List (String × Option Json)}
    (h : v = Json.ofFields fields) (names : List String) (hnames : fields.map (·.1) = names)
    (hapart : Apart names) : ∃ entries, v = .obj entries ∧ Holds entries fields := by
  refine ⟨Entries.given fields ++ [], ?_, ?_⟩
  · rw [List.append_nil]
    exact h
  · exact holds_given_append names hnames hapart fun _ _ => ⟨rfl, rfl⟩

/-- The further entries of a record have none of the names of its fields. -/
theorem get?_extras (fields : List String) (entries : Entries Json) {name : String}
    (h : name ∈ fields) : (extras fields entries).get? name = none := by
  let used := fields.filterMap fun name => (find? entries name).map (·.1)
  refine (Entries.get?_filter entries (fun other => decide (other ∉ used)) name).trans ?_
  split
  · rename_i hunused
    cases hget : entries.get? name with
    | none => rfl
    | some v =>
        have hfind : find? entries name = some (name, v) := by rw [find?, hget]
        have hused : name ∈ used := List.mem_filterMap.mpr ⟨name, h, by rw [hfind]; rfl⟩
        exact absurd hused (of_decide_eq_true hunused)
  · rfl

end Questionnaire.Schema
