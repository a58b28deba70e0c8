import Questionnaire.Proofs.Schema.Faultless

/-!
What checks come to, known of a whole record from its parts: what holds of every value that is
accepted, and on which data a check cannot be made.  A part that cannot be looked at ends the check
of the whole, whatever else is found.
-/

namespace Questionnaire

namespace Validated

variable {α β : Type} {P : β → Prop} {R : α → Prop}

/-- Something holds of the value, if the data are accepted. -/
def Yields (x : Validated α) (R : α → Prop) : Prop := ∀ value, x = .valid value → R value

theorem yields_valid {value : α} (h : R value) : (Validated.valid value).Yields R := by
  rintro _ ⟨⟩
  exact h

namespace Yields

theorem map {x : Validated α} {f : α → β} (h : x.Yields fun value => P (f value)) :
    (f <$> x).Yields P := by
  cases x with
  | valid value =>
      rintro _ ⟨⟩
      exact h value rfl
  | issues found => nofun
  | fault cause => nofun

theorem seq {f : Validated (α → β)} {x : Validated α} (hx : x.Yields R)
    (hf : f.Yields fun g => ∀ value, R value → P (g value)) : (f <*> x).Yields P := by
  cases f with
  | valid g =>
      cases x with
      | valid value =>
          rintro _ ⟨⟩
          exact hf g rfl value (hx value rfl)
      | issues found => nofun
      | fault cause => nofun
  | issues found => cases x <;> nofun
  | fault cause => cases x <;> nofun

/-- A part of which nothing is asked. -/
theorem seq_any {f : Validated (α → β)} {x : Validated α}
    (hf : f.Yields fun g => ∀ value, P (g value)) : (f <*> x).Yields P :=
  seq (fun _ _ => trivial) fun g hg value (_ : True) => hf g hg value

theorem under {x : Validated α} {step : PathStep} (h : x.Yields R) : (x.under step).Yields R := by
  cases x with
  | valid value => exact h
  | issues found => nofun
  | fault cause => nofun

end Yields

/-- The data are of a kind that cannot be looked at, exactly under a condition. -/
def FaultsIff : Validated α → Prop → Prop
  | .fault cause, P => cause = .wrongKind ∧ P
  | _, P => ¬ P

theorem Faultless.faultsIff {x : Validated α} (h : x.Faultless) : x.FaultsIff False := by
  cases x with
  | fault cause => exact absurd rfl (h cause)
  | _ => exact not_false

namespace FaultsIff

variable {P Q : Prop} {x : Validated α}

theorem eq_fault_iff (h : x.FaultsIff P) {cause : Fault} :
    x = .fault cause ↔ cause = .wrongKind ∧ P := by
  cases x with
  | fault other =>
      obtain ⟨rfl, hP⟩ := h
      simp [hP, eq_comm]
  | valid value => exact iff_of_false nofun fun hfault => h hfault.2
  | issues found => exact iff_of_false nofun fun hfault => h hfault.2

theorem congr (h : x.FaultsIff P) (hiff : P ↔ Q) : x.FaultsIff Q := propext hiff ▸ h

theorem map {f : α → β} (h : x.FaultsIff P) : (f <$> x).FaultsIff P := by
  cases x <;> exact h

theorem under {step : PathStep} (h : x.FaultsIff P) : (x.under step).FaultsIff P := by
  cases x <;> exact h

/-- Two parts of a record cannot be looked at if one of them cannot. -/
theorem seq {f : Validated (α → β)} (hf : f.FaultsIff P) (hx : x.FaultsIff Q) :
    (f <*> x).FaultsIff (P ∨ Q) := by
  cases f with
  | fault cause => exact hf.imp_right .inl
  | valid g =>
      cases x with
      | fault cause => exact hx.imp_right .inr
      | _ => exact not_or.mpr ⟨hf, hx⟩
  | issues found =>
      cases x with
      | fault cause => exact hx.imp_right .inr
      | _ => exact not_or.mpr ⟨hf, hx⟩

/-- A further check that always looks adds nothing. -/
theorem andThen {check : α → Validated β} (h : x.FaultsIff P)
    (hcheck : ∀ value, (check value).Faultless) : (x.andThen check).FaultsIff P := by
  cases x with
  | fault cause => exact h
  | valid value => exact (hcheck value).faultsIff.congr (iff_of_false not_false h)
  | issues found => exact h

end FaultsIff

end Validated

namespace Schema

open Validated

variable {α : Type} {check : Check α} {R : α → Prop} {P : Json → Prop}

theorem withDefault_yields {default : α} (hdefault : R default) (h : ∀ v, (check v).Yields R)
    (entries : Entries Json) (name : String) :
    (withDefault entries name default check).Yields R := by
  unfold withDefault
  split
  · exact (h _).under
  · exact yields_valid hdefault

theorem itemsFrom_yields (h : ∀ v, (check v).Yields R) (items : List Json) (start : Nat) :
    (itemsFrom check start items).Yields fun values => ∀ value ∈ values, R value := by
  induction items generalizing start with
  | nil => exact yields_valid nofun
  | cons v rest ih =>
      refine Yields.seq (ih (start + 1)) (Yields.map ?_)
      intro value hvalue values hvalues
      exact List.forall_mem_cons.mpr ⟨(h v).under value hvalue, hvalues⟩

/-- What holds of every item that is accepted holds of all the items of a list. -/
theorem list_yields (h : ∀ v, (check v).Yields R) (v : Json) :
    (list check v).Yields fun values => ∀ value ∈ values, R value := by
  cases v with
  | arr items => exact itemsFrom_yields h items 0
  | _ => nofun

/-- A value is a list with an item of which something holds. -/
def HasItem (P : Json → Prop) (v : Json) : Prop := ∃ items, v = .arr items ∧ ∃ item ∈ items, P item

/-- A field is there, and something holds of its value. -/
def Finds (entries : Entries Json) (name : String) (P : Json → Prop) : Prop :=
  ∃ used v, find? entries name = some (used, v) ∧ P v

theorem finds_iff {entries : Entries Json} {name used : String} {v : Json}
    (h : find? entries name = some (used, v)) : Finds entries name P ↔ P v := by
  constructor
  · rintro ⟨_, _, hfind, hv⟩
    cases h.symm.trans hfind
    exact hv
  · exact fun hv => ⟨used, v, h, hv⟩

theorem not_finds {entries : Entries Json} {name : String} (h : find? entries name = none) :
    ¬ Finds entries name P := by
  rintro ⟨_, _, hfind, -⟩
  cases h.symm.trans hfind

theorem itemsFrom_faultsIff (h : ∀ v, (check v).FaultsIff (P v)) (items : List Json) (start : Nat) :
    (itemsFrom check start items).FaultsIff (∃ item ∈ items, P item) := by
  induction items generalizing start with
  | nil => exact nofun
  | cons v rest ih => exact (((h v).under.map).seq (ih (start + 1))).congr (by simp)

theorem list_faultsIff (h : ∀ v, (check v).FaultsIff (P v)) (v : Json) :
    (list check v).FaultsIff (HasItem P v) := by
  cases v with
  | arr items => exact (itemsFrom_faultsIff h items 0).congr (by simp [HasItem])
  | _ => exact nofun

theorem boundedList_faultsIff (h : ∀ v, (check v).FaultsIff (P v)) (least : Nat) (v : Json) :
    (boundedList check (some least) none v).FaultsIff (HasItem P v) := by
  cases v with
  | arr items =>
      refine ((itemsFrom_faultsIff h items 0).andThen fun values => ?_).congr (by simp [HasItem])
      dsimp only
      split
      · exact faultless_issue
      · exact faultless_valid
  | _ => exact nofun

/-- A field cannot be looked at if it is there and its value cannot. -/
theorem required_faultsIff (h : ∀ v, (check v).FaultsIff (P v)) (entries : Entries Json)
    (name : String) : (required entries name check).FaultsIff (Finds entries name P) := by
  unfold required
  split
  · rename_i used v hfind
    exact (h v).under.congr (finds_iff hfind).symm
  · rename_i hfind
    exact not_finds hfind

theorem withDefault_faultsIff {default : α} (h : ∀ v, (check v).FaultsIff (P v))
    (entries : Entries Json) (name : String) :
    (withDefault entries name default check).FaultsIff (Finds entries name P) := by
  unfold withDefault
  split
  · rename_i used v hfind
    exact (h v).under.congr (finds_iff hfind).symm
  · rename_i hfind
    exact not_finds hfind

end Schema

end Questionnaire
