import Questionnaire.Proofs.Number.Magnitude
import Questionnaire.Proofs.Scoring.Percentage
import Questionnaire.Proofs.Scoring.Tally

/-!
The share of a score in the most points, in percent and not yet rounded to a whole number.  There is
a percentage exactly if nothing is to be had or the share is a finite number, and of two scores the
greater one has the greater percentage.
-/

namespace Questionnaire

open Binary64

attribute [local instance] corePow

attribute [local irreducible] one limit

/-- The share in percent before it is rounded to a whole number. -/
def share (score most : Number) : Except Fault Binary64 := do
  return (← score.div most) * Binary64.ofInt 100

/-- Nothing is to be had, or the share is a finite number. -/
def HasShare (score most : Number) : Prop :=
  most.le 0 = true ∨ ∃ x, share score most = .ok x ∧ x.isFinite = true

/-- The percentage of a share with a count of units. -/
def percentOf (units : Int) : Int :=
  max 0 (min 100 ((roundSigned (units + (one / 2 : Nat)) 1).fdiv one))

namespace Percentage

theorem toUnits?_half : Number.half.toUnits? = some ((one / 2 : Nat) : Int) := by
  rw [half_eq]
  rfl

/-- A half more does not take a number out of the format, on neither side of zero. -/
theorem ofUnits_add_half {x : Binary64} {u : Int} (hx : x.toUnits? = some u) :
    Place.ofUnits (roundSigned (u + (one / 2 : Nat)) 1)
      = .at (roundSigned (u + (one / 2 : Nat)) 1) := by
  apply Place.ofUnits_of_natAbs_lt
  rw [natAbs_roundSigned]
  cases x with
  | nan => cases hx
  | infinite negative => cases hx
  | finite negative units fits =>
      have habs : u.natAbs = units := by
        rw [← Option.some.inj hx]
        cases negative <;> simp
      have hle : (u + (one / 2 : Nat)).natAbs ≤ units + one / 2 := by omega
      exact Nat.lt_of_le_of_lt (roundUnits_mono 1 hle) (add_half_lt_limit fits)

theorem roundHalfUp_of_toUnits? {x : Binary64} {u : Int} (hx : x.toUnits? = some u) :
    Number.roundHalfUp (.float x) = .ok ((roundSigned (u + (one / 2 : Nat)) 1).fdiv one) := by
  have hplace : (Number.float (x + Number.half)).place?
      = some (.at (roundSigned (u + (one / 2 : Nat)) 1)) := by
    rw [← ofUnits_add_half hx]
    exact place?_add hx toUnits?_half
  exact Number.floor_of_units? (Number.units?_of_place? hplace)

/-- What is not finite has no integer near to it. -/
theorem roundHalfUp_of_not_finite {x : Binary64} (hx : x.isFinite = false) :
    ∃ cause, Number.roundHalfUp (.float x) = .error cause
      ∧ (cause = .outOfRange ∨ cause = .noSuchValue) := by
  have hsum : Number.roundHalfUp (.float x) = Number.floor (.float (x + Number.half)) := rfl
  rw [hsum, half_eq]
  cases x with
  | nan => exact ⟨.noSuchValue, rfl, .inr rfl⟩
  | infinite negative => exact ⟨.outOfRange, rfl, .inl rfl⟩
  | finite negative units fits => cases hx

/-- The percentage is that of the share. -/
theorem percentage_eq_share {score most : Number} (hmost : ¬ most.le 0 = true) :
    percentage score most = share score most >>= fun x =>
      (Number.roundHalfUp (.float x)).map fun rounded => max 0 (min 100 rounded) := by
  rw [percentage, if_neg hmost, share]
  cases score.div most with
  | error cause => rfl
  | ok quotient =>
      change (Number.roundHalfUp (.float (quotient * Binary64.ofInt 100)) >>= _)
        = (Number.roundHalfUp (.float (quotient * Binary64.ofInt 100))).map _
      cases Number.roundHalfUp (.float (quotient * Binary64.ofInt 100)) <;> rfl

theorem percentage_eq_ok_iff {score most : Number} {percent : Int} :
    percentage score most = .ok percent ↔
      most.le 0 = true ∧ percent = 0
        ∨ ¬ most.le 0 = true ∧ ∃ x u, share score most = .ok x ∧ x.toUnits? = some u
          ∧ percent = percentOf u := by
  by_cases hmost : most.le 0 = true
  · rw [percentage, if_pos hmost, or_iff_left fun h => h.1 hmost, and_iff_right hmost]
    exact ⟨fun h => (Except.ok.inj h).symm, fun h => congrArg Except.ok h.symm⟩
  · rw [percentage_eq_share hmost, bind_eq_ok, or_iff_right fun h => hmost h.1,
      and_iff_right hmost]
    constructor
    · rintro ⟨x, hshare, hrounded⟩
      by_cases hfinite : x.isFinite = true
      · obtain ⟨u, hu⟩ := exists_toUnits?_iff.mpr hfinite
        rw [roundHalfUp_of_toUnits? hu] at hrounded
        exact ⟨x, u, hshare, hu, (Except.ok.inj hrounded).symm⟩
      · obtain ⟨cause, hcause, -⟩ := roundHalfUp_of_not_finite (Bool.eq_false_iff.mpr hfinite)
        rw [hcause] at hrounded
        cases hrounded
    · rintro ⟨x, u, hshare, hu, rfl⟩
      exact ⟨x, hshare, by rw [roundHalfUp_of_toUnits? hu]; rfl⟩

end Percentage

open Percentage

/-- There is a percentage exactly if nothing is to be had or the share is finite. -/
theorem exists_percentage_iff {score most : Number} :
    (∃ percent, percentage score most = .ok percent) ↔ HasShare score most := by
  simp only [percentage_eq_ok_iff, HasShare, ← exists_toUnits?_iff]
  constructor
  · rintro ⟨percent, ⟨hnone, -⟩ | ⟨-, x, u, hshare, hu, -⟩⟩
    · exact .inl hnone
    · exact .inr ⟨x, hshare, u, hu⟩
  · intro h
    by_cases hmost : most.le 0 = true
    · exact ⟨0, .inl ⟨hmost, rfl⟩⟩
    · obtain ⟨x, hshare, u, hu⟩ := h.resolve_left hmost
      exact ⟨percentOf u, .inr ⟨hmost, x, u, hshare, hu, rfl⟩⟩

namespace Percentage

theorem ofUnits_zero : Place.ofUnits 0 = .at 0 := Place.ofUnits_of_natAbs_lt limit_pos

/-- What is above zero is a positive integer, a positive count of units, or infinite. -/
theorem cases_of_not_le_zero {a : Number} (h : ¬ a.le 0 = true) (hnumber : a.isNaN = false) :
    (∃ i : Int, 0 < i ∧ a = .int i)
    ∨ (∃ units fits, 0 < units ∧ a = .float (.finite false units fits))
      ∨ a = .float (.infinite false) := by
  cases a with
  | int i => exact .inl ⟨i, lt_of_not_ge (mt Number.int_le_int.mpr h), rfl⟩
  | float x =>
      cases x with
      | nan => cases hnumber
      | infinite negative =>
          cases negative with
          | true => exact absurd rfl h
          | false => exact .inr (.inr rfl)
      | finite negative units fits =>
          have hunits : Number.units? (.float (.finite negative units fits)) = some _ := rfl
          rw [Number.le_iff hunits Number.units?_zero] at h
          cases negative with
          | true => exact absurd (by simp) h
          | false => exact .inr (.inl ⟨units, fits, by simpa [Nat.pos_iff_ne_zero] using h, rfl⟩)

/-- The quotient of an integer and what is above zero, in units. -/
def quotientUnits (score : Int) : Number → Int
  | .int most => roundSigned (score * one) most.natAbs
  | .float (.finite _ units _) => roundSigned (roundSigned (score * one) 1 * one) units
  | .float _ => 0

theorem quotientUnits_mono {score other : Int} (h : score ≤ other) (most : Number) :
    quotientUnits score most ≤ quotientUnits other most := by
  have hone : (0 : Int) ≤ one := Int.natCast_nonneg one
  have hscaled : score * one ≤ other * (one : Int) := Int.mul_le_mul_of_nonneg_right h hone
  unfold quotientUnits
  split
  · exact roundSigned_mono _ hscaled
  · exact roundSigned_mono _
      (Int.mul_le_mul_of_nonneg_right (roundSigned_mono 1 hscaled) hone)
  · exact Int.le_refl 0

/-- The quotient lies where its units are, unless it outgrows the format. -/
theorem place?_quotient {score : Int} {most : Number} {quotient : Binary64}
    (hmost : ¬ most.le 0 = true) (hnumber : most.isNaN = false)
    (h : Number.div (.int score) most = .ok quotient) :
    quotient.place? = some (.ofUnits (quotientUnits score most)) := by
  rcases cases_of_not_le_zero hmost hnumber with ⟨i, hi, rfl⟩ | ⟨v, fits, hv, rfl⟩ | rfl
  · simp only [Number.div, if_neg hi.ne'] at h
    split at h
    · rw [← Except.ok.inj h]
      exact Number.place?_ofRatio score hi
    · cases h
  · obtain ⟨x, hx, h⟩ := bind_eq_ok.mp h
    obtain ⟨y, hy, h⟩ := bind_eq_ok.mp h
    cases hy
    rw [← Except.ok.inj h]
    exact Number.place?_div (Number.toUnits?_toBinary64 (Number.units?_int score) hx) fits hv
  · obtain ⟨x, hx, h⟩ := bind_eq_ok.mp h
    obtain ⟨y, hy, h⟩ := bind_eq_ok.mp h
    cases hy
    have hfinite := Number.toUnits?_toBinary64 (Number.units?_int score) hx
    change quotient.place? = some (.ofUnits 0)
    rw [← Except.ok.inj h, ofUnits_zero]
    cases x with
    | nan => cases hfinite
    | infinite negative => cases hfinite
    | finite negative units fits => cases negative <;> rfl

theorem quotientUnits_zero (most : Number) : quotientUnits 0 most = 0 := by
  unfold quotientUnits
  split <;> simp

theorem exists_quotient_zero {most : Number} (hmost : ¬ most.le 0 = true)
    (hnumber : most.isNaN = false) : ∃ quotient, Number.div 0 most = .ok quotient := by
  rcases cases_of_not_le_zero hmost hnumber with ⟨i, hi, rfl⟩ | ⟨v, fits, hv, rfl⟩ | rfl
  · have hplace := Number.place?_ofRatio 0 hi
    rw [Int.zero_mul, roundSigned_zero, ofUnits_zero] at hplace
    have hfinite := exists_toUnits?_iff.mp ⟨0, toUnits?_of_place? hplace⟩
    refine ⟨ofRatio (decide ((0 : Int) < 0) != decide (i < 0)) (0 : Int).natAbs i.natAbs, ?_⟩
    change Number.div (.int 0) (.int i) = _
    simp only [Number.div, if_neg hi.ne', hfinite, if_true]
  · exact ⟨_, bind_eq_ok.mpr ⟨_, Number.toBinary64_zero, rfl⟩⟩
  · exact ⟨_, bind_eq_ok.mpr ⟨_, Number.toBinary64_zero, rfl⟩⟩

theorem toUnits?_ofInt_hundred :
    (Binary64.ofInt 100).toUnits? = some ((100 * one : Nat) : Int) := by
  rw [ofInt_hundred]
  rfl

/-- What is no number, or infinite, stays so when it is taken a hundred times. -/
theorem isFinite_of_mul_hundred {x : Binary64} (h : (x * Binary64.ofInt 100).isFinite = true) :
    x.isFinite = true := by
  have hpos : 100 * one ≠ 0 := by decide +kernel
  rw [ofInt_hundred] at h
  cases x with
  | nan => cases h
  | infinite negative =>
      have hinfinite : infinite negative * finite false (100 * one) (fits_whole (by omega))
          = .infinite (negative != false) := if_neg hpos
      rw [hinfinite] at h
      cases h
  | finite negative units fits => rfl

/-- The share of an integer in what is above zero, in units. -/
def shareUnitsOf (score : Int) (most : Number) : Int :=
  roundSigned (quotientUnits score most * (100 * one : Nat)) one

theorem shareUnitsOf_mono {score other : Int} (h : score ≤ other) (most : Number) :
    shareUnitsOf score most ≤ shareUnitsOf other most :=
  roundSigned_mono one
    (Int.mul_le_mul_of_nonneg_right (quotientUnits_mono h most) (Int.natCast_nonneg _))

theorem toUnits?_share {score : Int} {most : Number} {x : Binary64} {u : Int}
    (hmost : ¬ most.le 0 = true) (h : share (.int score) most = .ok x) (hx : x.toUnits? = some u) :
    u = shareUnitsOf score most := by
  obtain ⟨quotient, hquotient, h⟩ := bind_eq_ok.mp h
  have hproduct : quotient * Binary64.ofInt 100 = x := Except.ok.inj h
  have hfinite : quotient.isFinite = true :=
    isFinite_of_mul_hundred (hproduct ▸ exists_toUnits?_iff.mp ⟨u, hx⟩)
  have hnumber : most.isNaN = false := by
    cases most with
    | int i => rfl
    | float y =>
        cases y with
        | nan =>
            obtain ⟨z, -, hquotient⟩ := bind_eq_ok.mp hquotient
            obtain ⟨y, hy, hquotient⟩ := bind_eq_ok.mp hquotient
            cases hy
            rw [← Except.ok.inj hquotient] at hfinite
            cases z <;> cases hfinite
        | infinite negative => rfl
        | finite negative units fits => rfl
  have hunits := toUnits?_of_isFinite hfinite (place?_quotient hmost hnumber hquotient)
  exact units_eq_of_place? hx (hproduct ▸ place?_mul hunits toUnits?_ofInt_hundred)

theorem percentOf_mono {u v : Int} (h : u ≤ v) : percentOf u ≤ percentOf v := by
  have hone : (0 : Int) < one := by exact_mod_cast Binary64.one_pos
  have hrounded := roundSigned_mono 1 (Int.add_le_add_right h ((one / 2 : Nat) : Int))
  have hfloor : (roundSigned (u + (one / 2 : Nat)) 1).fdiv one
      ≤ (roundSigned (v + (one / 2 : Nat)) 1).fdiv one := by
    rw [Int.fdiv_eq_ediv_of_nonneg _ hone.le, Int.fdiv_eq_ediv_of_nonneg _ hone.le]
    exact Int.ediv_le_ediv hone hrounded
  unfold percentOf
  omega

end Percentage

/-- Of two whole scores the greater one has the greater percentage. -/
theorem percentage_mono {score other : Int} {most : Number} {low high : Int} (hle : score ≤ other)
    (hlow : percentage (.int score) most = .ok low)
    (hhigh : percentage (.int other) most = .ok high) : low ≤ high := by
  rw [percentage_eq_ok_iff] at hlow hhigh
  by_cases hmost : most.le 0 = true
  · obtain ⟨-, rfl⟩ := hlow.resolve_right fun h => h.1 hmost
    obtain ⟨-, rfl⟩ := hhigh.resolve_right fun h => h.1 hmost
    exact Int.le_refl 0
  · obtain ⟨-, x, u, hx, hu, rfl⟩ := hlow.resolve_left fun h => hmost h.1
    obtain ⟨-, y, v, hy, hv, rfl⟩ := hhigh.resolve_left fun h => hmost h.1
    rw [toUnits?_share hmost hx hu, toUnits?_share hmost hy hv]
    exact percentOf_mono (shareUnitsOf_mono hle most)

/-- No points are a percentage of zero in whatever is a number. -/
theorem percentage_zero (most : Number) :
    percentage 0 most = if most.isNaN = true then .error .noSuchValue else .ok 0 := by
  by_cases hmost : most.le 0 = true
  · have hnumber : most.isNaN = false := by
      obtain ⟨p, -, hp, -⟩ := Number.exists_place?_of_le hmost
      exact Bool.eq_false_iff.mpr fun hnan => by simp [Number.place?_eq_none_iff.mpr hnan] at hp
    rw [percentage, if_pos hmost, hnumber]
    rfl
  · cases hnumber : most.isNaN with
    | true =>
        obtain rfl : most = .float .nan := by
          cases most with
          | int i => cases hnumber
          | float x => cases x <;> first | rfl | cases hnumber
        decide +kernel
    | false =>
        obtain ⟨quotient, hquotient⟩ := exists_quotient_zero hmost hnumber
        have hplace : quotient.place? = some (.ofUnits (quotientUnits 0 most)) :=
          place?_quotient hmost hnumber hquotient
        rw [quotientUnits_zero, ofUnits_zero] at hplace
        have hproduct := place?_mul (toUnits?_of_place? hplace) toUnits?_ofInt_hundred
        rw [Int.zero_mul, roundSigned_zero, ofUnits_zero] at hproduct
        refine percentage_eq_ok_iff.mpr (.inr ⟨hmost, _, 0, ?_, toUnits?_of_place? hproduct, ?_⟩)
        · exact bind_eq_ok.mpr ⟨quotient, hquotient, rfl⟩
        · decide +kernel

/-- Scores whose points and most points add up, and whose totals have a percentage. -/
def HasTotals (scores : List QuestionScore) : Prop :=
  ∃ score most, Number.sum (scores.map (·.score)) = .ok score
    ∧ Number.sum (scores.map (·.maxScore)) = .ok most ∧ HasShare score.tidy most.tidy

theorem exists_ofScores_iff_hasTotals {scores : List QuestionScore} :
    (∃ total, Total.ofScores scores = .ok total) ↔ HasTotals scores := by
  simp only [Total.ofScores_eq_ok_iff, HasTotals]
  constructor
  · rintro ⟨total, score, most, hscore, hmost, htotal, htop, hpercent⟩
    rw [htotal, htop] at hpercent
    exact ⟨score, most, hscore, hmost, exists_percentage_iff.mp ⟨_, hpercent⟩⟩
  · rintro ⟨score, most, hscore, hmost, hshare⟩
    obtain ⟨percent, hpercent⟩ := exists_percentage_iff.mpr hshare
    exact ⟨⟨score.tidy, most.tidy, percent⟩, score, most, hscore, hmost, rfl, rfl, hpercent⟩

/-- All groups of scores that a result reports have totals: the scores together, and those of each
category. -/
def Reportable (config : Option ScoreConfig) (scores : List QuestionScore) : Prop :=
  HasTotals scores ∧ ∀ id ∈ categoryIds config scores, HasTotals (countedTowards scores (some id))

theorem SurveyScore.exists_ofScores_iff {config : Option ScoreConfig}
    {scores : List QuestionScore} :
    (∃ result, SurveyScore.ofScores config scores = .ok result) ↔ Reportable config scores := by
  rw [exists_ofScores_iff_totals]
  simp only [exists_ofScores_iff_hasTotals, Reportable]

theorem exists_scoreQuestions_iff_reportable {questions : List Question} {answers : Answers}
    {config : Option ScoreConfig} :
    (∃ result, scoreQuestions questions answers config = .ok result) ↔
      ∃ scores, questionScores questions answers = .ok scores ∧ Reportable config scores := by
  simp only [← SurveyScore.exists_ofScores_iff]
  exact exists_bind_ok_iff

end Questionnaire
