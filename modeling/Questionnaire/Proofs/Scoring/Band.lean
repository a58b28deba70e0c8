import Questionnaire.Proofs.Lists
import Questionnaire.Proofs.Number.Whole
import Questionnaire.Scoring.Bands

/-!
Bands with finite bounds: what they hold, and what sorting them by their lower bounds does.
-/

namespace Questionnaire

attribute [local irreducible] Binary64.one Binary64.limit

namespace ScoreBand

/-- A band between finite numbers. -/
structure IsFinite (band : ScoreBand) : Prop where
  min_isCounted : band.min.IsCounted
  max_isCounted : band.max.IsCounted

/-- A band between whole numbers. -/
structure IsWhole (band : ScoreBand) : Prop where
  min_isWhole : band.min.IsWhole
  max_isWhole : band.max.IsWhole

instance (band : ScoreBand) : Decidable band.IsFinite :=
  decidable_of_iff (band.min.IsCounted ∧ band.max.IsCounted)
    ⟨fun h => ⟨h.1, h.2⟩, fun h => ⟨h.min_isCounted, h.max_isCounted⟩⟩

instance (band : ScoreBand) : Decidable band.IsWhole :=
  decidable_of_iff (band.min.IsWhole ∧ band.max.IsWhole)
    ⟨fun h => ⟨h.1, h.2⟩, fun h => ⟨h.min_isWhole, h.max_isWhole⟩⟩

variable {band : ScoreBand} {bands : List ScoreBand} {value : Number}

theorem IsWhole.isFinite (h : band.IsWhole) : band.IsFinite :=
  ⟨h.min_isWhole.isCounted, h.max_isWhole.isCounted⟩

theorem holds_iff :
    band.holds value = true ↔ band.min.le value = true ∧ value.le band.max = true := by
  rw [holds, Bool.and_eq_true]

/-- What a band does not hold is below it or above it. -/
theorem IsFinite.not_holds_iff (h : band.IsFinite) (hvalue : value.place? ≠ none) :
    ¬ band.holds value = true ↔ value.lt band.min = true ∨ band.max.lt value = true := by
  rw [holds_iff, Number.lt_iff_not_le hvalue h.min_isCounted.place?_ne_none,
    Number.lt_iff_not_le h.max_isCounted.place?_ne_none hvalue, not_and_or]

theorem resolve?_eq_none_iff :
    resolve? bands value = none ↔ ∀ band ∈ bands, ¬ band.holds value = true := by
  rw [resolve?, List.find?_eq_none]

theorem resolve?_cons_of_holds (h : band.holds value = true) :
    resolve? (band :: bands) value = some band := by simp [resolve?, h]

theorem resolve?_cons_of_not_holds (h : ¬ band.holds value = true) :
    resolve? (band :: bands) value = resolve? bands value := by simp [resolve?, h]

/-- Sorted bands begin one after the other. -/
theorem pairwise_sortBy_min (h : ∀ band ∈ bands, band.IsFinite) :
    (sortBy (fun a b => a.min.lt b.min) bands).Pairwise fun a b => a.min.le b.min = true := by
  have hperm := sortBy_perm (fun a b : ScoreBand => a.min.lt b.min) bands
  have hunits : (sortBy (fun a b => a.min.lt b.min) bands).Pairwise
      fun a b => a.min.units ≤ b.min.units :=
    pairwise_sortBy fun a ha b hb => (h a ha).min_isCounted.lt_iff (h b hb).min_isCounted
  refine hunits.imp_of_mem fun {a b} ha hb hle => ?_
  have ha := (h a (hperm.mem_iff.mp ha)).min_isCounted
  exact (ha.le_iff (h b (hperm.mem_iff.mp hb)).min_isCounted).mpr hle

end ScoreBand

/-- A band without decoration. -/
def Sample.band (id : String) (min max : Number) : ScoreBand := ⟨id, min, max, id, none, none⟩

end Questionnaire
