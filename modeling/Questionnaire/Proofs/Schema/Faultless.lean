import Questionnaire.Schema.Fields

/-!
Checks that look at whatever they are given.  A check of data ends in a fault only where one of its
parts does, and the checks of single values, lists and entries never do.
-/

namespace Questionnaire

namespace Validated

variable {α β : Type} {x : Validated α} {cause : Fault}

/-- The check has been made: it found the data valid or listed issues. -/
def Faultless (x : Validated α) : Prop := ∀ cause, x ≠ .fault cause

theorem map_eq_fault_iff {f : α → β} : x.map f = .fault cause ↔ x = .fault cause := by
  cases x <;> simp [map]

theorem andThen_eq_fault_iff {check : α → Validated β} : x.andThen check = .fault cause ↔
    x = .fault cause ∨ ∃ value, x = .valid value ∧ check value = .fault cause := by
  cases x <;> simp [andThen]

theorem andThen_eq_valid_iff {check : α → Validated β} {b : β} : x.andThen check = .valid b ↔
    ∃ value, x = .valid value ∧ check value = .valid b := by
  cases x <;> simp [andThen]

theorem map_eq_valid_iff {f : α → β} {b : β} : x.map f = .valid b ↔
    ∃ value, x = .valid value ∧ f value = b := by
  cases x <;> simp [map]

theorem under_eq_fault_iff {step : PathStep} : x.under step = .fault cause ↔ x = .fault cause := by
  cases x <;> simp [under]

theorem faultless_valid {value : α} : (Validated.valid value).Faultless := nofun

theorem faultless_issue {kind : IssueKind} : (Validated.issue kind : Validated α).Faultless := nofun

theorem Faultless.map {f : α → β} (h : x.Faultless) : (x.map f).Faultless :=
  fun cause hfault => h cause (map_eq_fault_iff.mp hfault)

theorem Faultless.under {step : PathStep} (h : x.Faultless) : (x.under step).Faultless :=
  fun cause hfault => h cause (under_eq_fault_iff.mp hfault)

theorem Faultless.andThen {check : α → Validated β} (h : x.Faultless)
    (hcheck : ∀ value, (check value).Faultless) : (x.andThen check).Faultless := by
  intro cause hfault
  rcases andThen_eq_fault_iff.mp hfault with hfirst | ⟨value, -, hsecond⟩
  · exact h cause hfirst
  · exact hcheck value cause hsecond

theorem faultless_map_iff {f : α → β} : (f <$> x).Faultless ↔ x.Faultless :=
  forall_congr' fun _ => not_congr map_eq_fault_iff

/-- Two parts are checked together exactly if both are. -/
theorem faultless_seq_iff {f : Validated (α → β)} :
    (f <*> x).Faultless ↔ f.Faultless ∧ x.Faultless := by
  constructor
  · intro h
    constructor
    · rintro cause rfl
      exact h cause rfl
    · rintro cause rfl
      cases f with
      | fault other => exact h other rfl
      | valid g => exact h cause rfl
      | issues found => exact h cause rfl
  · rintro ⟨hf, hx⟩
    cases f with
    | fault cause => exact absurd rfl (hf cause)
    | valid g =>
        cases x with
        | fault cause => exact absurd rfl (hx cause)
        | valid value => nofun
        | issues found => nofun
    | issues found =>
        cases x with
        | fault cause => exact absurd rfl (hx cause)
        | valid value => nofun
        | issues more => nofun

theorem Faultless.cons {rest : Validated (List α)} (h : x.Faultless) (hrest : rest.Faultless) :
    (List.cons <$> x <*> rest).Faultless :=
  faultless_seq_iff.mpr ⟨faultless_map_iff.mpr h, hrest⟩

end Validated

namespace Schema

open Validated

variable {α : Type} {check : Check α}

theorem text_faultless (v : Json) : (text v).Faultless := by
  cases v <;> nofun

theorem nothing_faultless (v : Json) : (nothing v).Faultless := by
  cases v <;> nofun

theorem strictTruth_faultless (v : Json) : (strictTruth v).Faultless := by
  cases v <;> nofun

theorem integer_faultless (v : Json) : (integer v).Faultless := by
  unfold integer
  split
  · exact faultless_valid
  · exact faultless_valid
  · split
    · exact faultless_issue
    · split
      · split
        · exact faultless_valid
        · exact faultless_issue
      · exact faultless_issue
  · split
    · split
      · exact faultless_issue
      · exact faultless_valid
    · exact faultless_issue
  · exact faultless_issue

theorem float_faultless (v : Json) : (float v).Faultless := by
  unfold float
  split
  · exact faultless_valid
  · split
    · exact faultless_valid
    · exact faultless_issue
  · exact faultless_valid
  · split
    · exact faultless_valid
    · exact faultless_issue
  · exact faultless_issue

theorem either_faultless {first second : String × Check α} (hfirst : ∀ v, (first.2 v).Faultless)
    (hsecond : ∀ v, (second.2 v).Faultless) (v : Json) : (either first second v).Faultless := by
  unfold either
  split
  · rename_i hfault
    exact absurd hfault (hfirst v _)
  · exact faultless_valid
  · rename_i hfault _ _
    exact absurd hfault (hsecond v _)
  · exact faultless_valid
  · nofun

theorem number_faultless (v : Json) : (number v).Faultless := by
  unfold number
  split
  · exact faultless_valid
  · exact either_faultless (fun v => (integer_faultless v).map)
      (fun v => (float_faultless v).map) _

theorem itemsFrom_faultless (h : ∀ v, (check v).Faultless) (items : List Json) (start : Nat) :
    (itemsFrom check start items).Faultless := by
  induction items generalizing start with
  | nil => exact faultless_valid
  | cons v rest ih => exact (h v).under.cons (ih (start + 1))

theorem list_faultless (h : ∀ v, (check v).Faultless) (v : Json) : (list check v).Faultless := by
  cases v with
  | arr items => exact itemsFrom_faultless h items 0
  | _ => exact faultless_issue

theorem boundedList_faultless (h : ∀ v, (check v).Faultless) (least most : Option Nat) (v : Json) :
    (boundedList check least most v).Faultless := by
  have htested (items : List Json) : (boundedList.tested check least items).Faultless := by
    refine (itemsFrom_faultless h items 0).andThen fun values => ?_
    split
    · split
      · exact faultless_issue
      · exact faultless_valid
    · exact faultless_valid
  unfold boundedList
  split
  · split
    · split
      · exact faultless_issue
      · exact htested _
    · exact htested _
  · exact faultless_issue

theorem entriesOf_faultless (h : ∀ v, (check v).Faultless) (entries : Entries Json) :
    (entriesOf check entries).Faultless := by
  induction entries with
  | nil => exact faultless_valid
  | cons entry rest ih => exact ((h entry.2).under.map).cons ih

theorem dictionary_faultless (h : ∀ v, (check v).Faultless) (v : Json) :
    (dictionary check v).Faultless := by
  cases v with
  | obj entries => exact entriesOf_faultless h entries
  | _ => exact faultless_issue

theorem truth_faultless (v : Json) : (truth v).Faultless := by
  have hinteger (i : Int) : (truthOfInteger i).Faultless := by
    unfold truthOfInteger
    split
    · exact faultless_valid
    · split
      · exact faultless_valid
      · exact faultless_issue
  unfold truth
  split
  · exact faultless_valid
  · split
    · exact faultless_valid
    · exact faultless_issue
  · exact hinteger _
  · split
    · split
      · exact hinteger _
      · exact faultless_issue
    · exact faultless_issue
  · exact faultless_issue

theorem choice_faultless (words : List (String × α)) (v : Json) : (choice words v).Faultless := by
  unfold choice
  split
  · split
    · exact faultless_valid
    · exact faultless_issue
  · exact faultless_issue

theorem fixed_faultless (words : List (String × α)) (v : Json) : (fixed words v).Faultless := by
  unfold fixed
  split
  · split
    · exact faultless_valid
    · exact faultless_issue
  · exact faultless_issue

theorem optional_faultless (h : ∀ v, (check v).Faultless) (v : Json) :
    (optional check v).Faultless := by
  cases v with
  | null => exact faultless_valid
  | _ => exact (h _).map

variable {entries : Entries Json} {name : String}

theorem required_faultless (h : ∀ v, (check v).Faultless) :
    (required entries name check).Faultless := by
  unfold required
  split
  · exact (h _).under
  · nofun

theorem withDefault_faultless {default : α} (h : ∀ v, (check v).Faultless) :
    (withDefault entries name default check).Faultless := by
  unfold withDefault
  split
  · exact (h _).under
  · exact faultless_valid

theorem optionalField_faultless (h : ∀ v, (check v).Faultless) :
    (optionalField entries name check).Faultless :=
  withDefault_faultless (optional_faultless h)

/-- A record is checked if its fields are. -/
theorem record_faultless {fields : Entries Json → Validated α}
    (h : ∀ entries, (fields entries).Faultless) (v : Json) : (record name fields v).Faultless := by
  cases v with
  | obj entries => exact h entries
  | _ => exact faultless_issue

end Schema

end Questionnaire
