import Mathlib.Data.Rat.Cast.Order
import Mathlib.Tactic.FieldSimp
import Mathlib.Tactic.Linarith
import Questionnaire.Number.Binary64

/-!
Rounding to the grid of binary numbers.  It keeps the order of quantities, depends on a quotient and
not on how it is written, leaves whole numbers up to `2 ^ 53` alone, and moves a quantity by at most
half a unit and a part in `2 ^ 53`.
-/

namespace Questionnaire.Binary64

attribute [local instance] corePow

theorem divHalfEven_mono {n m : Nat} (d : Nat) (h : n ≤ m) : divHalfEven n d ≤ divHalfEven m d := by
  have hquotient : n / d ≤ m / d := Nat.div_le_div_right h
  rcases Nat.lt_or_eq_of_le hquotient with hlt | heq
  · have hlow := divHalfEven_le n d
    have hhigh := div_le_divHalfEven m d
    omega
  · -- with equal quotients the remainders decide
    have hn := Nat.div_add_mod n d
    have hm := Nat.div_add_mod m d
    rw [heq] at hn
    have hremainder : n % d ≤ m % d := by omega
    simp only [divHalfEven, heq]
    split
    · split
      · exact Nat.le_refl _
      · split <;> omega
    · split <;> split <;> (try split) <;> omega

theorem divHalfEven_mul_right (n d : Nat) {c : Nat} (hc : 0 < c) :
    divHalfEven (n * c) (d * c) = divHalfEven n d := by
  have htwice : 2 * (n % d * c) = 2 * (n % d) * c := (Nat.mul_assoc 2 _ c).symm
  simp only [divHalfEven, Nat.mul_div_mul_right n d hc, Nat.mul_mod_mul_right, htwice,
    Nat.mul_lt_mul_right hc]

/-- The nearest integer is at most half a divisor away. -/
theorem divHalfEven_error (n : Nat) {d : Nat} (hd : 0 < d) :
    2 * (divHalfEven n d * d) ≤ 2 * n + d ∧ 2 * n ≤ 2 * (divHalfEven n d * d) + d := by
  have hsplit := Nat.div_add_mod n d
  rw [Nat.mul_comm] at hsplit
  have hnext : (n / d + 1) * d = n / d * d + d := Nat.succ_mul _ _
  have hlt := Nat.mod_lt n hd
  simp only [divHalfEven]
  split
  · omega
  · split
    · rw [hnext]
      omega
    · rcases Nat.mod_two_eq_zero_or_one (n / d) with heven | hodd
      · rw [heven, Nat.add_zero]
        omega
      · rw [hodd, hnext]
        omega

theorem spacing_mono {u v : Nat} (h : u ≤ v) : spacing u ≤ spacing v := by
  have hlog : u.log2 ≤ v.log2 := by
    rcases Nat.eq_zero_or_pos u with rfl | hu
    · simp
    · exact (Nat.le_log2 (by omega)).mpr (Nat.le_trans (Nat.log2_self_le (by omega)) h)
  simp only [spacing]
  omega

/-- Where the grid is coarser than whole units, counting in steps takes all 53 bits. -/
theorem le_div_step {u : Nat} (h : 0 < spacing u) : 2 ^ (52 : Nat) ≤ u / 2 ^ spacing u := by
  have hpos : u ≠ 0 := by
    rintro rfl
    simp [spacing] at h
  rw [Nat.le_div_iff_mul_le (Nat.pow_pos (by omega)), ← Nat.pow_add]
  have hexponent : 52 + spacing u = u.log2 := by
    simp only [spacing] at h ⊢
    omega
  rw [hexponent]
  exact Nat.log2_self_le hpos

theorem roundUnits_mono {n m : Nat} (d : Nat) (h : n ≤ m) : roundUnits n d ≤ roundUnits m d := by
  have hquotient : n / d ≤ m / d := Nat.div_le_div_right h
  simp only [roundUnits]
  rcases Nat.lt_or_eq_of_le (spacing_mono hquotient) with hlt | heq
  · -- across a change of the step everything stays below and above the power of two between
    have hn := div_step_lt (n / d)
    have hm := le_div_step (u := m / d) (by omega)
    rw [Nat.div_div_eq_div_mul] at hn hm
    have hlow := divHalfEven_le n (d * 2 ^ spacing (n / d))
    have hhigh := div_le_divHalfEven m (d * 2 ^ spacing (m / d))
    calc divHalfEven n (d * 2 ^ spacing (n / d)) * 2 ^ spacing (n / d)
        ≤ 2 ^ (53 : Nat) * 2 ^ spacing (n / d) := Nat.mul_le_mul_right _ (by omega)
      _ ≤ 2 ^ (52 : Nat) * 2 ^ spacing (m / d) := by
          rw [← Nat.pow_add, ← Nat.pow_add]
          exact Nat.pow_le_pow_right (by omega) (by omega)
      _ ≤ divHalfEven m (d * 2 ^ spacing (m / d)) * 2 ^ spacing (m / d) :=
          Nat.mul_le_mul_right _ (by omega)
  · rw [heq]
    exact Nat.mul_le_mul_right _ (divHalfEven_mono _ h)

/-- Rounding does not step over a point of the grid. -/
theorem roundUnits_le_of_fits {n u : Nat} (hfits : Fits u) (h : n ≤ u) : roundUnits n 1 ≤ u :=
  calc roundUnits n 1 ≤ roundUnits u 1 := roundUnits_mono 1 h
    _ = u := roundUnits_of_fits hfits

theorem roundUnits_mul_right (n d : Nat) {c : Nat} (hc : 0 < c) :
    roundUnits (n * c) (d * c) = roundUnits n d := by
  simp only [roundUnits, Nat.mul_div_mul_right n d hc]
  rw [Nat.mul_right_comm, divHalfEven_mul_right _ _ hc]

/-- Equal quotients are rounded alike. -/
theorem roundUnits_congr {n d m e : Nat} (hd : 0 < d) (he : 0 < e) (h : n * e = m * d) :
    roundUnits n d = roundUnits m e := by
  rw [← roundUnits_mul_right n d he, h, Nat.mul_comm d e, roundUnits_mul_right m e hd]

/-- Below a power of two the grid ends a step before it. -/
theorem le_sub_step {u k : Nat} (hgrid : 2 ^ spacing u ∣ u) (h : u < 2 ^ (k + 53)) :
    u ≤ 2 ^ (k + 53) - 2 ^ k := by
  have hlow : 2 ^ (k + 52) = 2 ^ k * 4503599627370496 := Nat.pow_add 2 k 52
  have hhigh : 2 ^ (k + 53) = 2 ^ k * 9007199254740992 := Nat.pow_add 2 k 53
  rcases Nat.lt_or_ge u (2 ^ (k + 52)) with hsmall | hlarge
  · omega
  · have hpos : u ≠ 0 := by
      have := Nat.two_pow_pos (k + 52)
      omega
    have hlog : k + 52 ≤ u.log2 := (Nat.le_log2 hpos).mpr hlarge
    have hbelow : u.log2 < k + 53 := log2_lt_of_lt (by omega) h
    have hspacing : spacing u = k := by
      simp only [spacing]
      omega
    obtain ⟨count, hcount⟩ := hgrid
    rw [hspacing] at hcount
    rw [hhigh] at h ⊢
    rw [hcount] at h ⊢
    have hlt : count < 9007199254740992 := Nat.lt_of_mul_lt_mul_left h
    rw [← Nat.mul_sub_one]
    exact Nat.mul_le_mul_left _ (by omega)

/-- The greatest magnitude of a finite number. -/
def greatest : Nat := limit - 2 ^ (2045 : Nat)

theorem le_greatest {u : Nat} (h : Fits u) : u ≤ greatest := by
  have hlimit : limit = 2 ^ (2045 + 53 : Nat) := by decide +kernel
  have hbound := h.2
  rw [greatest]
  rw [hlimit] at hbound ⊢
  exact le_sub_step h.1 hbound

/-- Whole numbers of at most 53 bits lie on the grid. -/
theorem fits_whole {i : Nat} (h : i ≤ 2 ^ (53 : Nat)) : Fits (i * one) := by
  refine ⟨step_dvd_mul_step 1074 i h, ?_⟩
  have hbits : 2 ^ (53 : Nat) * one < limit := by decide +kernel
  exact Nat.lt_of_le_of_lt (Nat.mul_le_mul_right one h) hbits

theorem roundUnits_whole {i : Nat} (h : i ≤ 2 ^ (53 : Nat)) : roundUnits (i * one) 1 = i * one :=
  roundUnits_of_fits (fits_whole h)

/-- A rounded quantity is off by at most half a unit and a part in `2 ^ 53` of itself. -/
theorem abs_roundUnits_sub_le (n : Nat) {d : Nat} (hd : 0 < d) :
    |(roundUnits n d : ℚ) - n / d| ≤ n / d / 9007199254740992 + 1 / 2 := by
  have hstep : 0 < 2 ^ spacing (n / d) := Nat.pow_pos (by omega)
  have hdpos : (0 : ℚ) < d := by exact_mod_cast hd
  obtain ⟨hlow, hhigh⟩ := divHalfEven_error n (Nat.mul_pos hd hstep)
  have hrounded : divHalfEven n (d * 2 ^ spacing (n / d)) * (d * 2 ^ spacing (n / d))
      = roundUnits n d * d := by
    rw [roundUnits, Nat.mul_comm d, ← Nat.mul_assoc]
  rw [hrounded] at hlow hhigh
  -- the step is one unit, or small beside the quantity
  have hsmall : d * 2 ^ spacing (n / d) * 4503599627370496 ≤ n + d * 4503599627370496 := by
    rcases Nat.eq_zero_or_pos (spacing (n / d)) with hzero | hpos
    · rw [hzero, Nat.pow_zero]
      omega
    · have hbits := le_div_step hpos
      rw [Nat.div_div_eq_div_mul, Nat.le_div_iff_mul_le (Nat.mul_pos hd hstep)] at hbits
      omega
  generalize d * 2 ^ spacing (n / d) = step at hlow hhigh hsmall
  have hlow' : 2 * ((roundUnits n d : ℚ) * d) ≤ 2 * n + step := by exact_mod_cast hlow
  have hhigh' : 2 * (n : ℚ) ≤ 2 * (roundUnits n d * d) + step := by exact_mod_cast hhigh
  have hsmall' : (step : ℚ) * 4503599627370496 ≤ n + d * 4503599627370496 := by
    exact_mod_cast hsmall
  have hquotient : (n : ℚ) = n / d * d := by field_simp
  rw [hquotient] at hlow' hhigh' hsmall'
  generalize (n : ℚ) / d = x at *
  rw [abs_le]
  constructor
  · by_contra hlt
    have := mul_lt_mul_of_pos_right (not_le.mp hlt) hdpos
    linarith
  · by_contra hlt
    have := mul_lt_mul_of_pos_right (not_le.mp hlt) hdpos
    linarith

end Questionnaire.Binary64
