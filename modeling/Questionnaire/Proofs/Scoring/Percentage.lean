import Mathlib.Data.Rat.Floor
import Mathlib.Tactic.Ring
import Questionnaire.Proofs.Number.Product
import Questionnaire.Scoring.Bands

/-!
The percentage of whole points, computed in binary, beside the exact one.  Three roundings lie
between a share and its percentage.  Together they are off by less than a part in `2 ^ 44` of a
percent, so that only a share that close to a half can fall on the wrong side of it; of the shares
that are halves exactly, four do.
-/

namespace Questionnaire

open Binary64

attribute [local instance] corePow

-- kept folded: nothing here depends on how many units there are in one
attribute [local irreducible] one limit

/-- A hundred times the quotient, a half going up, kept within zero and a hundred: without rounding
in between. -/
def exactPercentage (score most : Int) : Int := max 0 (min 100 ((200 * score + most) / (2 * most)))

/-- The share in percent lies within a part in `2 ^ 44` of a half. -/
def IsNearHalf (score most : Int) : Prop :=
  ∃ k : Int, |100 * (score / most : ℚ) - (k + 1 / 2)| < 1 / 2 ^ 44

/-- The shares, in half percents, whose percentage loses its half: 14.5, 28.5, 56.5 and 57.5. -/
def lostHalves : List Nat := [29, 57, 113, 115]

/-- Whether a share is one of those that lose their half. -/
def losesHalf (score most : Int) : Bool := lostHalves.any fun half => 200 * score = half * most

namespace Percentage

/-- The share in percent, as a count of units after two roundings: of the quotient, and of its
product with a hundred. -/
def shareUnits (score most : Nat) : Nat :=
  roundUnits (roundUnits (score * one) most * (100 * one)) one

/-- The share in percent with a half added, and the sum rounded too. -/
def units (score most : Nat) : Nat := roundUnits (shareUnits score most + one / 2) 1

theorem ofInt_hundred : Binary64.ofInt 100 = .finite false (100 * one) (fits_whole (by omega)) := by
  decide +kernel

theorem half_eq : Number.half = .finite false (one / 2) (by decide +kernel) := by decide +kernel

theorem finite_mul (s t : Bool) (u v : Nat) (hu : Fits u) (hv : Fits v) :
    finite s u hu * finite t v hv = ofUnits (s != t) (u * v) one := rfl

theorem finite_add (s t : Bool) (u v : Nat) (hu : Fits u) (hv : Fits v) :
    finite s u hu + finite t v hv
      = let sum : Int := (if s then -(u : Int) else u) + (if t then -(v : Int) else v)
        ofUnits (if sum = 0 then s && t else sum < 0) sum.natAbs 1 := rfl

theorem ofUnits_eq_finite {negative : Bool} {n d : Nat}
    (h : (ofUnits negative n d).isFinite = true) :
    ∃ fits, ofUnits negative n d = .finite negative (roundUnits n d) fits := by
  unfold ofUnits at h ⊢
  split
  · rename_i hsmall
    exact ⟨fits_roundUnits hsmall, rfl⟩
  · rename_i hlarge
    rw [dif_neg hlarge] at h
    cases h

/-- Adding a half does not take a finite number out of the format. -/
theorem add_half_lt_limit {u : Nat} (h : Fits u) : roundUnits (u + one / 2) 1 < limit :=
  calc roundUnits (u + one / 2) 1
      ≤ roundUnits (greatest + one / 2) 1 :=
        roundUnits_mono 1 (Nat.add_le_add_right (le_greatest h) (one / 2))
    _ < limit := by decide +kernel

/-- The quotient of two whole numbers. -/
theorem quotient_eq {score most : Int} {negative : Bool} {n d : Nat}
    (hnegative : decide (score < 0) = negative) (hn : score.natAbs = n) (hd : most.natAbs = d)
    (hmost : 0 < most) {quotient : Binary64}
    (hquotient : Number.div (.int score) (.int most) = .ok quotient) :
    ∃ fits, quotient = .finite negative (roundUnits (n * one) d) fits := by
  have hpositive : decide (most < 0) = false := by
    rw [decide_eq_false_iff_not]
    omega
  simp only [Number.div, if_neg (show most ≠ 0 by omega), hpositive, hnegative, hn, hd,
    Bool.bne_false] at hquotient
  split at hquotient
  · rename_i hfinite
    rw [← Except.ok.inj hquotient]
    exact ofUnits_eq_finite hfinite
  · cases hquotient

theorem share_eq {score most : Int} {negative : Bool} {n d : Nat}
    (hnegative : decide (score < 0) = negative) (hn : score.natAbs = n) (hd : most.natAbs = d)
    (hmost : 0 < most) {quotient : Binary64}
    (hquotient : Number.div (.int score) (.int most) = .ok quotient)
    (hfinite : (quotient * Binary64.ofInt 100).isFinite = true) :
    ∃ fits, quotient * Binary64.ofInt 100 = .finite negative (shareUnits n d) fits := by
  obtain ⟨fits, hvalue⟩ := quotient_eq hnegative hn hd hmost hquotient
  rw [hvalue, ofInt_hundred, finite_mul, Bool.bne_false] at hfinite ⊢
  exact ofUnits_eq_finite hfinite

/-- The share is taken a hundred times, a half is added, and the integer below is kept within
bounds. -/
theorem percentage_eq {score most : Int} (hmost : 0 < most) {quotient : Binary64}
    (hquotient : Number.div (.int score) (.int most) = .ok quotient) :
    percentage (.int score) (.int most)
      = (Number.floor (.float (quotient * Binary64.ofInt 100 + Number.half))).map
          fun rounded => max 0 (min 100 rounded) := by
  have hpoints : (Number.int most).le 0 = false := by
    have hplaces : ¬ most * (one : Int) ≤ 0 * one := by
      have hone : (0 : Int) < one := by decide +kernel
      exact not_le.mpr (Int.mul_lt_mul_of_pos_right hmost hone)
    have hzero : (0 : Number) = .int 0 := rfl
    simpa [Number.le, Number.place?, hzero, Place.le, Place.lt] using hplaces
  unfold percentage
  rw [hpoints, hquotient]
  change (Number.floor (.float (quotient * Binary64.ofInt 100 + Number.half)) >>= _) = _
  cases Number.floor (.float (quotient * Binary64.ofInt 100 + Number.half)) <;> rfl

theorem ofUnits_ne_nan (negative : Bool) (n d : Nat) : ofUnits negative n d ≠ .nan := by
  unfold ofUnits
  split <;> nofun

theorem add_half_ne_nan {x : Binary64} (h : x ≠ .nan) : x + Number.half ≠ .nan := by
  rw [half_eq]
  cases x with
  | nan => exact absurd rfl h
  | infinite negative => nofun
  | finite negative units fits => exact ofUnits_ne_nan _ _ _

theorem cause_of_floor {x : Binary64} {cause : Fault} (hx : x ≠ .nan)
    (h : Number.floor (.float x) = .error cause) : cause = .outOfRange := by
  cases x with
  | nan => exact absurd rfl hx
  | infinite negative => exact (Except.error.inj h).symm
  | finite negative units fits => cases h

theorem cause_of_div {score most : Int} {cause : Fault} (hmost : most ≠ 0)
    (h : Number.div (.int score) (.int most) = .error cause) : cause = .outOfRange := by
  rw [Number.div, if_neg hmost] at h
  dsimp only at h
  split at h
  · cases h
  · exact (Except.error.inj h).symm

/-- There is no percentage of whole points only where a number on the way outgrows the format. -/
theorem cause_of_error {score most : Int} {cause : Fault}
    (h : percentage (.int score) (.int most) = .error cause) : cause = .outOfRange := by
  by_cases hnone : (Number.int most).le 0 = true
  · rw [percentage, if_pos hnone] at h
    cases h
  · have hmost : 0 < most := lt_of_not_ge (mt Number.int_le_int.mpr hnone)
    rw [percentage, if_neg hnone] at h
    rcases bind_eq_error.mp h with hquotient | ⟨quotient, hquotient, h⟩
    · exact cause_of_div hmost.ne' hquotient
    · rcases bind_eq_error.mp h with hrounded | ⟨rounded, -, h⟩
      · have hshare : quotient * Binary64.ofInt 100 ≠ .nan := by
          obtain ⟨fits, hvalue⟩ := quotient_eq rfl rfl rfl hmost hquotient
          rw [hvalue, ofInt_hundred, finite_mul]
          exact ofUnits_ne_nan _ _ _
        have hfloor : Number.floor (.float (quotient * Binary64.ofInt 100 + Number.half))
            = .error cause := hrounded
        exact cause_of_floor (add_half_ne_nan hshare) hfloor
      · cases h

theorem floor_finite (negative : Bool) (u : Nat) (fits : Fits u) :
    Number.floor (.float (.finite negative u fits))
      = .ok ((if negative then -(u : Int) else u).fdiv one) := rfl

theorem floor_share_add_half {u : Nat} (fits : Fits u) :
    Number.floor (.float (finite false u fits + Number.half))
      = .ok (roundUnits (u + one / 2) 1 / one : Nat) := by
  have hsum : finite false u fits + Number.half
      = .finite false (roundUnits (u + one / 2) 1) (fits_roundUnits (add_half_lt_limit fits)) := by
    have hnonneg : ¬ (u + (one / 2 : Nat) : Int) < 0 := by omega
    rw [half_eq, finite_add]
    simp only [Bool.false_eq_true, if_false, Bool.false_and, hnonneg, decide_false, ite_self]
    exact dif_pos (add_half_lt_limit fits)
  rw [hsum, floor_finite]
  simp only [Bool.false_eq_true, if_false]
  rw [← Int.ofNat_fdiv]

/-- A share below zero stays below one when a half is added. -/
theorem floor_negative_add_half {u : Nat} (fits : Fits u) :
    ∃ rounded ≤ 0, Number.floor (.float (finite true u fits + Number.half)) = .ok rounded := by
  have hhalf : Fits (one / 2) := by decide +kernel
  rcases Nat.lt_or_ge (one / 2) u with hlarge | hsmall
  · have hbelow : roundUnits (u - one / 2) 1 < limit :=
      Nat.lt_of_le_of_lt (roundUnits_le_of_fits fits (Nat.sub_le u _)) fits.2
    have hsum : finite true u fits + Number.half
        = .finite true (roundUnits (u - one / 2) 1) (fits_roundUnits hbelow) := by
      have hneg : -(u : Int) + (one / 2 : Nat) < 0 := by omega
      have habs : (-(u : Int) + (one / 2 : Nat)).natAbs = u - one / 2 := by omega
      rw [half_eq, finite_add]
      simp only [if_true, Bool.false_eq_true, if_false, hneg.ne, hneg, decide_true, habs]
      exact dif_pos hbelow
    refine ⟨_, ?_, by rw [hsum, floor_finite]⟩
    rw [if_pos rfl, Int.fdiv_eq_ediv_of_nonneg _ (Int.natCast_nonneg one)]
    apply Int.ediv_le_of_le_mul (by decide +kernel)
    omega
  · have hbelow := roundUnits_le_of_fits hhalf (Nat.sub_le (one / 2) u)
    have hlimit : roundUnits (one / 2 - u) 1 < limit := Nat.lt_of_le_of_lt hbelow hhalf.2
    have hsum : finite true u fits + Number.half
        = .finite false (roundUnits (one / 2 - u) 1) (fits_roundUnits hlimit) := by
      have hnonneg : ¬ -(u : Int) + (one / 2 : Nat) < 0 := by omega
      have habs : (-(u : Int) + (one / 2 : Nat)).natAbs = one / 2 - u := by omega
      rw [half_eq, finite_add]
      simp only [if_true, Bool.false_eq_true, if_false, Bool.and_false, hnonneg, decide_false,
        ite_self, habs]
      exact dif_pos hlimit
    refine ⟨_, ?_, by rw [hsum, floor_finite]⟩
    have hone : one / 2 < one := by decide +kernel
    rw [if_neg Bool.false_ne_true, ← Int.ofNat_fdiv, Nat.div_eq_of_lt (by omega)]
    exact Int.le_refl 0

/-- The three roundings together are off by less than a part in `2 ^ 44` of a percent. -/
theorem abs_units_sub_lt {score most : Nat} (hmost : 0 < most) (hle : score ≤ most) :
    |(units score most / one : ℚ) - (100 * (score / most) + 1 / 2)| < 1 / 17592186044416 := by
  have hone : (1152921504606846976 : ℚ) ≤ one := by
    have hbound : 1152921504606846976 ≤ one := by decide +kernel
    exact_mod_cast hbound
  have hhalf : ((one / 2 : Nat) : ℚ) = one / 2 := by
    have hdouble : one / 2 * 2 = one := by decide +kernel
    rw [eq_div_iff two_ne_zero]
    exact_mod_cast hdouble
  have hpos : (0 : ℚ) < most := by exact_mod_cast hmost
  have hshare : (score / most : ℚ) ≤ 1 := by
    rw [div_le_one hpos]
    exact_mod_cast hle
  have hnonneg : (0 : ℚ) ≤ score / most := div_nonneg (Nat.cast_nonneg score) hpos.le
  have hquotient := abs_roundUnits_sub_le (score * one) hmost
  have hproduct := abs_roundUnits_sub_le (roundUnits (score * one) most * (100 * one)) (d := one)
    (by decide +kernel)
  have hsum := abs_roundUnits_sub_le (shareUnits score most + one / 2) (d := 1) Nat.one_pos
  rw [← shareUnits] at hproduct
  rw [← units] at hsum
  push_cast [hhalf] at hquotient hproduct hsum
  -- what follows is linear in the three rounded counts, whatever they are
  generalize (units score most : ℚ) = sum at *
  generalize (shareUnits score most : ℚ) = product at *
  generalize (roundUnits (score * one) most : ℚ) = quotient at *
  generalize (one : ℚ) = one at *
  have honepos : 0 < one := by linarith
  have hexact : quotient * (100 * one) / one = 100 * quotient := by
    rw [div_eq_iff honepos.ne']
    ring
  rw [mul_div_right_comm] at hquotient
  rw [hexact] at hproduct
  rw [div_one] at hsum
  have hshareone : (score / most : ℚ) * one ≤ one := mul_le_of_le_one_left honepos.le hshare
  have hsharenonneg : 0 ≤ (score / most : ℚ) * one := mul_nonneg hnonneg honepos.le
  have hsumshare : sum / one * one = sum := div_mul_cancel₀ sum honepos.ne'
  generalize (score / most : ℚ) = share at *
  rw [abs_le] at hquotient hproduct hsum
  rw [abs_lt]
  constructor
  · apply lt_of_mul_lt_mul_right _ honepos.le
    linarith
  · apply lt_of_mul_lt_mul_right _ honepos.le
    linarith

/-- Two quantities that are close have the same integer below them, unless an integer lies close to
them too. -/
theorem floor_eq_or_near {x y ε : ℚ} (hε : ε ≤ 1) (h : |x - y| < ε) :
    ⌊x⌋ = ⌊y⌋ ∨ |⌊x⌋ - ⌊y⌋| = 1 ∧ ∃ k : Int, |y - k| < ε := by
  obtain ⟨hlow, hhigh⟩ := abs_lt.mp h
  have hxfloor := Int.floor_le x
  have hxnext := Int.lt_floor_add_one x
  have hyfloor := Int.floor_le y
  have hynext := Int.lt_floor_add_one y
  rcases lt_trichotomy ⌊x⌋ ⌊y⌋ with hlt | heq | hgt
  · right
    have hstep : (⌊x⌋ : ℚ) + 1 ≤ ⌊y⌋ := by exact_mod_cast hlt
    have hnext : ⌊y⌋ < ⌊x⌋ + 2 := by
      have : (⌊y⌋ : ℚ) < ⌊x⌋ + 2 := by linarith
      exact_mod_cast this
    refine ⟨?_, ⌊y⌋, abs_lt.mpr ⟨by linarith, by linarith⟩⟩
    rw [abs_eq zero_le_one]
    omega
  · exact Or.inl heq
  · right
    have hstep : (⌊y⌋ : ℚ) + 1 ≤ ⌊x⌋ := by exact_mod_cast hgt
    have hnext : ⌊x⌋ < ⌊y⌋ + 2 := by
      have : (⌊x⌋ : ℚ) < ⌊y⌋ + 2 := by linarith
      exact_mod_cast this
    refine ⟨?_, ⌊x⌋, abs_lt.mpr ⟨by linarith, by linarith⟩⟩
    rw [abs_eq zero_le_one]
    omega

theorem units_div_eq_or_near {score most : Nat} (hmost : 0 < most) (hle : score ≤ most) :
    let rounded : Int := (units score most / one : Nat)
    let exact : Int := (200 * score + most) / (2 * most)
    rounded = exact ∨ |rounded - exact| = 1 ∧ IsNearHalf score most := by
  intro rounded exact
  have hpos : (0 : ℚ) < most := by exact_mod_cast hmost
  have hrounded : ⌊(units score most / one : ℚ)⌋ = rounded := by
    rw [Rat.floor_natCast_div_natCast]
    rfl
  have hexact : ⌊(100 * (score / most) + 1 / 2 : ℚ)⌋ = exact := by
    have hquotient : (100 * (score / most) + 1 / 2 : ℚ)
        = ((200 * score + most : Int) : ℚ) / (2 * most : Nat) := by
      push_cast
      field_simp
      ring
    rw [hquotient, Rat.floor_intCast_div_natCast]
    norm_cast
  have hclose := floor_eq_or_near (by norm_num) (abs_units_sub_lt hmost hle)
  rw [hrounded, hexact] at hclose
  rcases hclose with heq | ⟨hstep, k, hk⟩
  · exact Or.inl heq
  · refine Or.inr ⟨hstep, k - 1, ?_⟩
    have hcentre : (100 * (score / most : ℚ) - (((k - 1 : Int) : ℚ) + 1 / 2))
        = 100 * (score / most) + 1 / 2 - k := by
      push_cast
      ring
    push_cast at hcentre ⊢
    rw [hcentre]
    norm_num at hk ⊢
    exact hk

/-- More points than there are make a hundred percent and more. -/
theorem hundred_le_units {score most : Nat} (hmost : 0 < most) (hlt : most < score) :
    100 * one ≤ units score most := by
  have hwhole (i : Nat) (hi : i ≤ 100) : roundUnits (i * one) 1 = i * one :=
    roundUnits_whole (by omega)
  have hquotient : one ≤ roundUnits (score * one) most :=
    calc one = roundUnits (1 * one) 1 := by rw [hwhole 1 (by omega), Nat.one_mul]
      _ = roundUnits (most * one) most := roundUnits_congr Nat.one_pos hmost (by ring)
      _ ≤ roundUnits (score * one) most :=
        roundUnits_mono most (Nat.mul_le_mul_right one (Nat.le_of_lt hlt))
  have hproduct : 100 * one ≤ roundUnits (roundUnits (score * one) most * (100 * one)) one :=
    calc 100 * one = roundUnits (100 * one) 1 := (hwhole 100 (Nat.le_refl _)).symm
      _ = roundUnits (one * (100 * one)) one :=
        roundUnits_congr Nat.one_pos (by decide +kernel) (by ring)
      _ ≤ _ := roundUnits_mono one (Nat.mul_le_mul_right _ hquotient)
  calc 100 * one = roundUnits (100 * one) 1 := (hwhole 100 (Nat.le_refl _)).symm
    _ ≤ units score most := roundUnits_mono 1 (Nat.le_trans hproduct (Nat.le_add_right _ _))

theorem percentage_of_nonneg {score most : Nat} (hmost : 0 < most) {quotient : Binary64}
    (hquotient : Number.div (.int score) (.int most) = .ok quotient)
    (hfinite : (quotient * Binary64.ofInt 100).isFinite = true) :
    percentage (.int score) (.int most)
      = .ok (max 0 (min 100 (units score most / one : Nat))) := by
  have hmost' : (0 : Int) < most := by exact_mod_cast hmost
  have hnegative : decide ((score : Int) < 0) = false := by simp
  obtain ⟨fits, hshare⟩ := share_eq hnegative (Int.natAbs_natCast score) (Int.natAbs_natCast most)
    hmost' hquotient hfinite
  rw [percentage_eq hmost' hquotient, hshare, floor_share_add_half]
  rfl

theorem percentage_of_neg {score most : Int} (hscore : score < 0) (hmost : 0 < most)
    {quotient : Binary64} (hquotient : Number.div (.int score) (.int most) = .ok quotient)
    (hfinite : (quotient * Binary64.ofInt 100).isFinite = true) :
    percentage (.int score) (.int most) = .ok 0 := by
  obtain ⟨fits, hshare⟩ := share_eq (decide_eq_true hscore) rfl rfl hmost hquotient hfinite
  obtain ⟨rounded, hrounded, hfloor⟩ := floor_negative_add_half fits
  rw [percentage_eq hmost hquotient, hshare, hfloor]
  change Except.ok (max 0 (min 100 rounded)) = .ok 0
  congr 1
  omega

/-- Equal shares are computed alike. -/
theorem units_congr {score most half : Nat} (hmost : 0 < most)
    (h : 200 * score = half * most) : units score most = units half 200 := by
  have hquotient : roundUnits (score * one) most = roundUnits (half * one) 200 := by
    apply roundUnits_congr hmost (by decide)
    calc score * one * 200 = 200 * score * one := by ring
      _ = half * one * most := by rw [h]; ring
  rw [units, units, shareUnits, shareUnits, hquotient]

/-- All the halves, one after the other. -/
theorem units_half_div : ∀ k < 100, units (2 * k + 1) 200 / one
    = if 2 * k + 1 ∈ lostHalves then k else k + 1 := by
  decide +kernel

theorem losesHalf_eq_true_iff {score most k : Nat} (hmost : 0 < most)
    (h : 200 * score = (2 * k + 1) * most) :
    losesHalf score most = true ↔ 2 * k + 1 ∈ lostHalves := by
  have hsame (half : Nat) : 200 * (score : Int) = half * most ↔ half = 2 * k + 1 := by
    have hexact : 200 * (score : Int) = ((2 * k + 1 : Nat) : Int) * most := by exact_mod_cast h
    rw [hexact, Int.mul_eq_mul_right_iff (by omega)]
    omega
  simp [losesHalf, hsame]

/-- Where the points are not too many, only a half itself is near to one. -/
theorem exact_of_isNearHalf {score most : Nat} (hmost : 0 < most) (hfew : most ≤ 2 ^ (43 : Nat))
    (h : IsNearHalf score most) : ∃ k : Nat, 200 * score = (2 * k + 1) * most := by
  obtain ⟨k, hk⟩ := h
  have hpos : (0 : ℚ) < most := by exact_mod_cast hmost
  have hfew' : (most : ℚ) ≤ 8796093022208 := by exact_mod_cast hfew
  have hscaled : (100 * (score / most : ℚ) - (k + 1 / 2)) * (2 * most)
      = ((200 * score - (2 * k + 1) * most : Int) : ℚ) := by
    push_cast
    field_simp
    ring
  obtain ⟨hlow, hhigh⟩ := abs_lt.mp hk
  have hbelow := mul_lt_mul_of_pos_right hhigh (show (0 : ℚ) < 2 * most by linarith)
  have habove := mul_lt_mul_of_pos_right hlow (show (0 : ℚ) < 2 * most by linarith)
  push_cast at hscaled hbelow habove
  rw [hscaled] at hbelow habove
  norm_num at hbelow habove
  have hupper : (200 * score - (2 * k + 1) * most : Int) < 1 := by
    have : ((200 * score - (2 * k + 1) * most : Int) : ℚ) < 1 := by
      push_cast
      linarith
    exact_mod_cast this
  have hlower : -1 < (200 * score - (2 * k + 1) * most : Int) := by
    have : -1 < ((200 * score - (2 * k + 1) * most : Int) : ℚ) := by
      push_cast
      linarith
    exact_mod_cast this
  have hhalf : 200 * (score : Int) = (2 * k + 1) * most := by omega
  have hk : 0 ≤ 2 * k + 1 := by
    apply nonneg_of_mul_nonneg_left _ (show (0 : Int) < most by omega)
    omega
  obtain ⟨k, rfl⟩ := Int.eq_ofNat_of_zero_le (show 0 ≤ k by omega)
  exact ⟨k, by exact_mod_cast hhalf⟩

/-- Of a share that is a half, all is known. -/
theorem units_div_of_half {score most k : Nat} (hmost : 0 < most) (hle : score ≤ most)
    (h : 200 * score = (2 * k + 1) * most) :
    ((units score most / one : Nat) : Int)
      = exactPercentage score most - if losesHalf score most then 1 else 0 := by
  have hk : k < 100 := by
    by_contra hlarge
    have : 201 * most ≤ (2 * k + 1) * most := Nat.mul_le_mul_right most (by omega)
    omega
  have hexact : exactPercentage score most = k + 1 := by
    have hquotient : (200 * score + most : Int) / (2 * most) = k + 1 := by
      have hnumerator : (200 * score + most : Int) = (k + 1) * (2 * most) := by
        have : (200 * score : Int) = (2 * k + 1) * most := by exact_mod_cast h
        rw [this]
        ring
      rw [hnumerator, Int.mul_ediv_cancel _ (by omega)]
    rw [exactPercentage, hquotient]
    omega
  rw [units_congr hmost h, units_half_div k hk, hexact]
  by_cases hlost : 2 * k + 1 ∈ lostHalves
  · rw [if_pos hlost, if_pos ((losesHalf_eq_true_iff hmost h).mpr hlost)]
    omega
  · rw [if_neg hlost, if_neg (mt (losesHalf_eq_true_iff hmost h).mp hlost)]
    omega

theorem exactPercentage_eq_ediv {score most : Nat} (hmost : 0 < most) (hle : score ≤ most) :
    exactPercentage score most = (200 * score + most : Int) / (2 * most) := by
  have hlow : 0 ≤ (200 * score + most : Int) / (2 * most) := Int.ediv_nonneg (by omega) (by omega)
  have hhigh : (200 * score + most : Int) / (2 * most) < 101 := by
    apply Int.ediv_lt_of_lt_mul (by omega)
    omega
  rw [exactPercentage]
  omega

/-- What loses its half is a half. -/
theorem half_of_losesHalf {score most : Nat} (h : losesHalf score most = true) :
    ∃ k : Nat, 200 * score = (2 * k + 1) * most := by
  simp only [losesHalf, lostHalves, List.any_cons, List.any_nil, Bool.or_eq_true,
    decide_eq_true_eq, Bool.false_eq_true, or_false, Nat.cast_ofNat] at h
  rcases h with h | h | h | h
  · exact ⟨14, by omega⟩
  · exact ⟨28, by omega⟩
  · exact ⟨56, by omega⟩
  · exact ⟨57, by omega⟩

theorem losesHalf_eq_false_of_outside {score most : Int} (hmost : 0 < most)
    (h : score < 0 ∨ most < score) : losesHalf score most = false := by
  simp only [losesHalf, lostHalves, List.any_cons, List.any_nil, Bool.or_eq_false_iff,
    decide_eq_false_iff_not, Nat.cast_ofNat, and_true]
  omega

end Percentage

open Percentage

/-- As long as nothing overflows, the percentage of whole points is the exact one, a half going up,
or one off where the share is within a part in `2 ^ 44` of a half.  Up to `2 ^ 43` points it is off
for the halves 14.5, 28.5, 56.5 and 57.5 alone, which it takes down. -/
theorem percentage_of_whole_points {score most : Int} (hmost : 0 < most) {quotient : Binary64}
    (hquotient : Number.div (.int score) (.int most) = .ok quotient)
    (hfinite : (quotient * Binary64.ofInt 100).isFinite = true) :
    ∃ percent, percentage (.int score) (.int most) = .ok percent
      ∧ (percent = exactPercentage score most
        ∨ |percent - exactPercentage score most| = 1 ∧ IsNearHalf score most)
      ∧ (most ≤ 2 ^ (43 : Nat) →
        percent = exactPercentage score most - if losesHalf score most then 1 else 0) := by
  obtain ⟨most, rfl⟩ := Int.eq_ofNat_of_zero_le hmost.le
  have hmost' : 0 < most := by exact_mod_cast hmost
  rcases lt_or_ge score 0 with hneg | hnonneg
  · -- below zero both are zero
    have hexact : exactPercentage score most = 0 := by
      have : (200 * score + most) / (2 * most) < 1 := by
        apply Int.ediv_lt_of_lt_mul (by omega)
        omega
      rw [exactPercentage]
      omega
    refine ⟨0, percentage_of_neg hneg hmost hquotient hfinite, Or.inl hexact.symm, fun _ => ?_⟩
    rw [hexact, losesHalf_eq_false_of_outside hmost (Or.inl hneg)]
    rfl
  · obtain ⟨score, rfl⟩ := Int.eq_ofNat_of_zero_le hnonneg
    have hpercentage := percentage_of_nonneg hmost' hquotient hfinite
    rcases Nat.lt_or_ge most score with hover | hle
    · -- above the maximum both are a hundred
      have hexact : exactPercentage score most = 100 := by
        have : 100 ≤ (200 * score + most : Int) / (2 * most) := by
          apply Int.le_ediv_of_mul_le (by omega)
          omega
        rw [exactPercentage]
        omega
      have hunits : 100 ≤ units score most / one :=
        (Nat.le_div_iff_mul_le (by decide +kernel)).mpr (hundred_le_units hmost' hover)
      have hclamped : max 0 (min 100 ((units score most / one : Nat) : Int)) = 100 := by omega
      refine ⟨100, hclamped ▸ hpercentage, Or.inl hexact.symm, fun _ => ?_⟩
      rw [hexact, losesHalf_eq_false_of_outside hmost (Or.inr (by exact_mod_cast hover))]
      rfl
    · have hexact := exactPercentage_eq_ediv hmost' hle
      have hnear := units_div_eq_or_near hmost' hle
      rw [← hexact] at hnear
      have hbounds : 0 ≤ exactPercentage score most ∧ exactPercentage score most ≤ 100 := by
        rw [exactPercentage]
        omega
      refine ⟨_, hpercentage, ?_, fun hfew => ?_⟩
      · rcases hnear with heq | ⟨hstep, hhalf⟩
        · omega
        · rw [abs_eq zero_le_one] at hstep ⊢
          simp only [hhalf, and_true]
          omega
      · by_cases hhalf : ∃ k, 200 * score = (2 * k + 1) * most
        · obtain ⟨k, hk⟩ := hhalf
          have hunits := units_div_of_half hmost' hle hk
          have hlow : 0 ≤ ((units score most / one : Nat) : Int) := Int.natCast_nonneg _
          have hhigh : ((units score most / one : Nat) : Int) ≤ 100 := by
            rw [hunits]
            split <;> omega
          rw [← hunits, min_eq_right hhigh, max_eq_right hlow]
        · have hlost : losesHalf score most = false :=
            Bool.eq_false_iff.mpr (mt half_of_losesHalf hhalf)
          have hrounded := hnear.resolve_right fun h =>
            hhalf (exact_of_isNearHalf hmost' (by exact_mod_cast hfew) h.2)
          rw [hlost]
          simp only [Bool.false_eq_true, if_false]
          omega

theorem percentage_of_whole_points_five_eighths :
    ∃ percent, percentage (.int 5) (.int 8) = .ok percent
      ∧ (percent = exactPercentage 5 8
        ∨ |percent - exactPercentage 5 8| = 1 ∧ IsNearHalf 5 8)
      ∧ ((8 : Int) ≤ 2 ^ (43 : Nat) →
        percent = exactPercentage 5 8 - if losesHalf 5 8 then 1 else 0) :=
  percentage_of_whole_points (by decide)
    (show Number.div (.int 5) (.int 8) = .ok (ofUnits false (5 * one) 8) by decide +kernel)
    (by decide +kernel)

theorem percentage_takes_half_down :
    percentage (.int 29) (.int 200) = .ok 14 ∧ exactPercentage 29 200 = 15 := by
  decide +kernel

end Questionnaire
