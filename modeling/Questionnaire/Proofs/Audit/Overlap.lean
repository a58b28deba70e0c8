import Mathlib.Data.List.Find
import Mathlib.Data.List.Pairwise
import Questionnaire.Audit.Scoring
import Questionnaire.Proofs.Scoring.Band

/-!
Overlaps of bands.  A pair of bands is reported exactly if a value lies in both of them, with the
range of all such values; where no pair is reported, it does not matter in which order the bands are
tried.
-/

namespace Questionnaire

attribute [local instance] Binary64.corePow

attribute [local irreducible] Binary64.one Binary64.limit

namespace ScoreBand

variable {a b : ScoreBand} {value : Number}

/-- Some value lies in both bands. -/
def Meets (a b : ScoreBand) : Prop := ∃ value, a.holds value = true ∧ b.holds value = true

theorem Meets.symm (h : a.Meets b) : b.Meets a := h.imp fun _ hboth => hboth.symm

/-- The values in two bands with ordered bounds are those from the greater of the lower bounds to
the lesser of the upper ones. -/
theorem holds_both_iff (ha : a.min.le a.max = true) (hb : b.min.le b.max = true) :
    (a.holds value = true ∧ b.holds value = true)
      ↔ (a.min.max b.min).le value = true ∧ value.le (a.max.min b.max) = true := by
  obtain ⟨halow, hahigh⟩ := Number.place?_ne_none_of_le ha
  obtain ⟨hblow, hbhigh⟩ := Number.place?_ne_none_of_le hb
  rw [holds_iff, holds_iff, Number.max_le_iff halow hblow, Number.le_min_iff hahigh hbhigh]
  exact and_and_and_comm

/-- Bands meet exactly if each has ordered bounds and neither ends before the other begins. -/
theorem meets_iff : a.Meets b
    ↔ a.min.le a.max = true ∧ b.min.le b.max = true ∧ Audit.bandsMeet a b = true := by
  rw [Audit.bandsMeet, Bool.and_eq_true]
  constructor
  · rintro ⟨value, ha, hb⟩
    obtain ⟨halow, hahigh⟩ := holds_iff.mp ha
    obtain ⟨hblow, hbhigh⟩ := holds_iff.mp hb
    exact ⟨Number.le_trans halow hahigh, Number.le_trans hblow hbhigh,
      Number.le_trans halow hbhigh, Number.le_trans hblow hahigh⟩
  · rintro ⟨ha, hb, hab, hba⟩
    obtain ⟨halow, hahigh⟩ := Number.place?_ne_none_of_le ha
    obtain ⟨hblow, hbhigh⟩ := Number.place?_ne_none_of_le hb
    -- the greater of the lower bounds is in both
    have hrange : (a.min.max b.min).le (a.max.min b.max) = true := by
      rw [Number.max_le_iff halow hblow, Number.le_min_iff hahigh hbhigh,
        Number.le_min_iff hahigh hbhigh]
      exact ⟨⟨ha, hab⟩, hba, hb⟩
    have hself := Number.le_refl (Number.place?_ne_none_of_le hrange).1
    exact ⟨a.min.max b.min, (holds_both_iff ha hb).mpr ⟨hself, hrange⟩⟩

instance : Decidable (a.Meets b) := decidable_of_iff' _ meets_iff

/-- Of bands that do not meet, the same one holds a value in whatever order they are tried. -/
theorem resolve?_eq_of_perm {bands others : List ScoreBand}
    (hapart : bands.Pairwise fun a b => ¬ a.Meets b) (h : others.Perm bands) (value : Number) :
    resolve? others value = resolve? bands value := by
  refine (List.find?_eq_find?_of_perm h.symm ?_).symm
  rintro a ⟨ha, hvalue⟩ b ⟨hb, hother⟩
  by_contra hne
  have hsymm : Std.Symm fun a b : ScoreBand => ¬ a.Meets b := ⟨fun _ _ hab hba => hab hba.symm⟩
  exact hapart.forall ha hb hne ⟨value, hvalue, hother⟩

end ScoreBand

/-- A finding that two bands overlap, with the range of the values in both. -/
structure Finding.IsOverlap (finding : Finding) (a b : ScoreBand) : Prop where
  code : finding.code = "BAND_OVERLAP"
  severity : finding.severity = .error
  bandId : finding.bandId = some a.id
  details : ∃ first last, finding.details = [("otherBandId", .str b.id),
      ("overlapStart", .num first), ("overlapEnd", .num last)]
    ∧ ∀ value, (a.holds value = true ∧ b.holds value = true)
      ↔ first.le value = true ∧ value.le last = true

namespace Audit

variable {a b : ScoreBand} {bands : List ScoreBand}

theorem exists_overlapFinding_iff : (∃ finding, overlapFinding a b = .ok finding)
    ↔ (a.min.max b.min).IsUsable ∧ (a.max.min b.max).IsUsable :=
  Number.exists_compactTexts_iff

theorem overlapFinding_failsOnly : FailsOnly [.outOfRange] (overlapFinding a b) :=
  Number.compactText_failsOnly.bind fun _ _ => Number.compactText_failsOnly.bind fun _ _ => .ok

theorem isOverlap_of_overlapFinding (hmeet : a.Meets b) {finding : Finding}
    (h : overlapFinding a b = .ok finding) : finding.IsOverlap a b := by
  obtain ⟨ha, hb, -⟩ := ScoreBand.meets_iff.mp hmeet
  obtain ⟨_, -, h⟩ := bind_eq_ok.mp h
  obtain ⟨_, -, h⟩ := bind_eq_ok.mp h
  obtain rfl := Except.ok.inj h
  exact ⟨rfl, rfl, rfl, _, _, rfl, fun value => ScoreBand.holds_both_iff ha hb⟩

/-- The overlaps are found pair by pair. -/
theorem overlaps_eq (bands : List ScoreBand) :
    overlaps bands = ((pairsOf bands).filter fun pair => bandsMeet pair.1 pair.2).mapM
      fun pair => overlapFinding pair.1 pair.2 := by
  induction bands with
  | nil => rfl
  | cons band rest ih =>
      rw [overlaps, ih, pairsOf, List.filter_append, List.mapM_append, List.filter_map,
        List.mapM_map]
      rfl

/-- Nothing is found of bands that are apart by their bounds. -/
theorem overlaps_eq_nil (h : bands.Pairwise fun a b => bandsMeet a b = false) :
    overlaps bands = .ok [] := by
  have hnone : (pairsOf bands).filter (fun pair => bandsMeet pair.1 pair.2) = [] := by
    simpa [List.filter_eq_nil_iff] using forall_mem_pairsOf_iff.mpr h
  rw [overlaps_eq, hnone]
  rfl

/-- Of bands with ordered bounds, the pairs with a value in common are reported one by one, each
with the range of these values; if there are none, every value has the same band in whatever order
the bands are tried.  There is a report exactly if the ends of all common ranges have binary
counterparts; else it fails for the lack of one. -/
theorem overlaps_exact (hordered : ∀ band ∈ bands, band.min.le band.max = true) :
    ((∃ findings, overlaps bands = .ok findings) ↔ bands.Pairwise fun a b =>
        a.Meets b → (a.min.max b.min).IsUsable ∧ (a.max.min b.max).IsUsable)
      ∧ FailsOnly [.outOfRange] (overlaps bands)
      ∧ ∀ findings, overlaps bands = .ok findings →
        List.Forall₂ (fun pair finding => finding.IsOverlap pair.1 pair.2)
          ((pairsOf bands).filter fun pair => pair.1.Meets pair.2) findings
        ∧ (findings = [] → ∀ others : List ScoreBand, others.Perm bands → ∀ value,
          ScoreBand.resolve? others value = ScoreBand.resolve? bands value) := by
  have hsame : bands.Pairwise fun a b => bandsMeet a b = decide (a.Meets b) :=
    List.pairwise_of_forall_mem_list fun a ha b hb => by
      simp [ScoreBand.meets_iff, hordered a ha, hordered b hb]
  have hmeets : ∀ pair ∈ pairsOf bands, bandsMeet pair.1 pair.2 = decide (pair.1.Meets pair.2) := by
    rwa [← forall_mem_pairsOf_iff] at hsame
  have hpairs : overlaps bands = ((pairsOf bands).filter fun pair => pair.1.Meets pair.2).mapM
      fun pair => overlapFinding pair.1 pair.2 := by
    rw [overlaps_eq, List.filter_congr hmeets]
  refine ⟨?_, ?_, fun findings h => ?_⟩
  · rw [hpairs, exists_mapM_ok_iff, ← forall_mem_pairsOf_iff]
    simp only [List.mem_filter, decide_eq_true_eq, and_imp, exists_overlapFinding_iff]
  · rw [hpairs]
    exact .mapM fun _ _ => overlapFinding_failsOnly
  · rw [hpairs, mapM_eq_ok_iff] at h
    have hmeet : ∀ pair ∈ (pairsOf bands).filter fun pair => pair.1.Meets pair.2,
        pair.1.Meets pair.2 := fun pair hpair => by simpa using List.of_mem_filter hpair
    refine ⟨((List.forall₂_and_left _ _).mpr ⟨hmeet, h⟩).imp fun _ _ hboth =>
      isOverlap_of_overlapFinding hboth.1 hboth.2, ?_⟩
    rintro rfl others hperm value
    have hnone := List.filter_eq_nil_iff.mp (List.forall₂_nil_right_iff.mp h)
    have hapart : bands.Pairwise fun a b => ¬ a.Meets b :=
      forall_mem_pairsOf_iff.mp fun pair hpair => by simpa using hnone pair hpair
    exact ScoreBand.resolve?_eq_of_perm hapart hperm value

end Audit

namespace Sample

/-- Bands of which the first ends where the second begins. -/
def adjoining : List ScoreBand := [band "low" 0 50, band "mid" 50 80, band "high" 81 100]

/-- Bands that share values up to an integer beyond the range of the binary format. -/
def unbounded : List ScoreBand :=
  [band "a" 0 (.int (10 ^ 309)), band "b" 50 (.int (10 ^ 309 + 1))]

end Sample

open Sample

theorem Audit.overlaps_exact_adjoining :
    (∃ findings, overlaps adjoining = .ok findings
      ∧ List.Forall₂ (fun pair finding => finding.IsOverlap pair.1 pair.2)
        [(band "low" 0 50, band "mid" 50 80)] findings)
      ∧ ∀ value, ScoreBand.resolve? [band "high" 81 100, band "mid" 50 80] value
        = ScoreBand.resolve? [band "mid" 50 80, band "high" 81 100] value := by
  have hordered : ∀ band ∈ adjoining, band.min.le band.max = true := by decide +kernel
  have hpairs : (pairsOf adjoining).filter (fun pair => pair.1.Meets pair.2)
      = [(band "low" 0 50, band "mid" 50 80)] := by decide +kernel
  have hone : (overlaps adjoining).map (·.length) = .ok 1 := by decide +kernel
  obtain ⟨findings, hfindings, -⟩ := map_eq_ok.mp hone
  refine ⟨⟨findings, hfindings, hpairs ▸ ((overlaps_exact hordered).2.2 findings hfindings).1⟩, ?_⟩
  exact ((overlaps_exact (List.forall_mem_of_forall_mem_cons hordered)).2.2 []
    (by decide +kernel)).2
    rfl _ (List.Perm.swap ..)

/-- An overlap of which the end has no text is not reported. -/
theorem Audit.overlaps_unbounded :
    overlaps unbounded = .error .outOfRange ∧ (∀ band ∈ unbounded, band.min.le band.max = true)
      ∧ (band "a" 0 (.int (10 ^ 309))).Meets (band "b" 50 (.int (10 ^ 309 + 1))) := by
  decide +kernel

end Questionnaire
