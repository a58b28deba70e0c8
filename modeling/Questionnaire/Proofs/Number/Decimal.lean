import Mathlib.Algebra.Order.Field.Basic
import Mathlib.Data.Rat.Cast.Order
import Mathlib.Tactic.NormNum
import Mathlib.Tactic.Ring
import Questionnaire.Number.Decimal

/-!
Decimal arithmetic and where it has no result.  A remainder is missing for an infinite dividend, and
where the divisor goes into the dividend more often than the working precision can count; a sum is
missing for two infinities of different sign.
-/

namespace Questionnaire.Decimal

/-- The value of a coefficient under a power of ten. -/
def value (coefficient exponent : Int) : ℚ := coefficient * (10 : ℚ) ^ exponent

/-- A coefficient counted in a smaller power of ten keeps its value. -/
theorem scaled_mul_zpow (coefficient : Int) {exponent smaller : Int} (h : smaller ≤ exponent) :
    (scaled coefficient exponent smaller : ℚ) * (10 : ℚ) ^ smaller
      = value coefficient exponent := by
  obtain ⟨shift, rfl⟩ := Int.le.dest h
  have hten : (10 : ℚ) ≠ 0 := by norm_num
  have hcount : (smaller + shift - smaller).toNat = shift := by omega
  have hscaled : (scaled coefficient (smaller + shift) smaller : ℚ) = coefficient * 10 ^ shift := by
    rw [scaled, hcount]
    exact_mod_cast rfl
  rw [hscaled, value, zpow_add₀ hten, zpow_natCast]
  ring

theorem natAbs_scaled_mul_zpow (coefficient : Int) {exponent smaller : Int}
    (h : smaller ≤ exponent) :
    ((scaled coefficient exponent smaller).natAbs : ℚ) * (10 : ℚ) ^ smaller
      = |value coefficient exponent| := by
  have hpos : (0 : ℚ) < (10 : ℚ) ^ smaller := zpow_pos (by norm_num) smaller
  rw [← scaled_mul_zpow coefficient h, abs_mul, abs_of_pos hpos, Nat.cast_natAbs, Int.cast_abs]

theorem ofNumber_eq_infinite_iff {a : Number} {negative : Bool} :
    ofNumber a = .infinite negative ↔ a = .float (.infinite negative) := by
  cases a with
  | int i => simp [ofNumber]
  | float x =>
      cases x with
      | nan => simp [ofNumber]
      | infinite sign => simp [ofNumber]
      | finite sign units fits =>
          unfold ofNumber
          dsimp only
          split <;> simp

/-- The dividend is infinite, or the divisor goes into it `10 ^ 28` times or more; and neither is
not a number. -/
def LacksRemainder : Decimal → Decimal → Prop
  | .infinite _, .infinite _ => True
  | .infinite _, .finite _ _ => True
  | .finite a e, .finite b f => 10 ^ precision * |value b f| ≤ |value a e|
  | _, _ => False

/-- The whole quotient does not fit the precision exactly if the dividend is too large. -/
theorem quotient_exceeds_iff {dividend divisor bound : Nat} :
    (divisor = 0 ∨ bound ≤ dividend / divisor) ↔ bound * divisor ≤ dividend := by
  rcases Nat.eq_zero_or_pos divisor with rfl | hpos
  · simp
  · rw [or_iff_right hpos.ne', Nat.le_div_iff_mul_le hpos]

/-- Counts of one power of ten are compared as the quantities are. -/
theorem pow_mul_natAbs_le_iff {a e b f : Int} :
    10 ^ precision * (scaled b f (min e f)).natAbs ≤ (scaled a e (min e f)).natAbs ↔
      (10 : ℚ) ^ precision * |value b f| ≤ |value a e| := by
  have hpos : (0 : ℚ) < (10 : ℚ) ^ min e f := zpow_pos (by norm_num) _
  rw [← natAbs_scaled_mul_zpow a (min_le_left e f), ← natAbs_scaled_mul_zpow b (min_le_right e f),
    ← mul_assoc, mul_le_mul_iff_left₀ hpos]
  exact_mod_cast Iff.rfl

theorem isMultipleOf_finite_eq_error_iff {a e b f : Int} {cause : Fault} :
    (finite a e).isMultipleOf (finite b f) = .error cause ↔
      cause = .noDecimalResult ∧ 10 ^ precision * |value b f| ≤ |value a e| := by
  rw [← pow_mul_natAbs_le_iff, ← quotient_exceeds_iff, isMultipleOf]
  split
  · rename_i hzero
    simp [hzero, eq_comm]
  · rename_i hdivisor
    split
    · rename_i hlarge
      simp [hlarge, eq_comm]
    · rename_i hsmall
      simp [hdivisor, hsmall]

theorem isMultipleOf_eq_error_iff {x y : Decimal} {cause : Fault} :
    x.isMultipleOf y = .error cause ↔ cause = .noDecimalResult ∧ x.LacksRemainder y := by
  cases x with
  | nan => simp [isMultipleOf, LacksRemainder]
  | infinite s =>
      cases y with
      | nan => simp [isMultipleOf, LacksRemainder]
      | infinite t => simp [isMultipleOf, LacksRemainder, eq_comm]
      | finite b f => simp [isMultipleOf, LacksRemainder, eq_comm]
  | finite a e =>
      cases y with
      | nan => simp [isMultipleOf, LacksRemainder]
      | infinite t => simp [isMultipleOf, LacksRemainder]
      | finite b f => exact isMultipleOf_finite_eq_error_iff

theorem add_eq_error_iff {x y : Decimal} {cause : Fault} :
    x.add y = .error cause ↔ cause = .noDecimalResult
      ∧ ∃ negative, x = .infinite negative ∧ y = .infinite (!negative) := by
  cases x with
  | nan => simp [add]
  | infinite s =>
      cases y with
      | nan => simp [add]
      | infinite t => cases s <;> cases t <;> simp [add, @eq_comm _ _ cause]
      | finite b f => simp [add]
  | finite a e =>
      cases y with
      | nan => simp [add]
      | infinite t => simp [add]
      | finite b f => simp [add]

/-- A difference is missing for two infinities of the same sign. -/
theorem sub_eq_error_iff {x y : Decimal} {cause : Fault} :
    x.sub y = .error cause ↔ cause = .noDecimalResult
      ∧ ∃ negative, x = .infinite negative ∧ y = .infinite negative := by
  have hneg (negative : Bool) : y.neg = .infinite (!negative) ↔ y = .infinite negative := by
    cases y with
    | nan => simp [neg]
    | infinite t => cases t <;> cases negative <;> simp [neg]
    | finite b f => simp [neg]
  rw [sub, add_eq_error_iff]
  simp only [hneg]

theorem round_ne_infinite (coefficient exponent : Int) (negative : Bool) :
    round coefficient exponent ≠ .infinite negative := by
  unfold round
  dsimp only
  split
  · nofun
  · split <;> nofun

/-- Where nothing is infinite below zero, nothing becomes so, and each sum exists. -/
theorem add_of_not_below {x y : Decimal} (hx : x ≠ .infinite true) (hy : y ≠ .infinite true) :
    ∃ sum, x.add y = .ok sum ∧ sum ≠ .infinite true := by
  cases x with
  | nan => exact ⟨.nan, rfl, nofun⟩
  | infinite s =>
      cases s with
      | true => exact absurd rfl hx
      | false =>
          cases y with
          | nan => exact ⟨.nan, rfl, nofun⟩
          | infinite t =>
              cases t with
              | true => exact absurd rfl hy
              | false => exact ⟨.infinite false, rfl, nofun⟩
          | finite b f => exact ⟨.infinite false, rfl, nofun⟩
  | finite a e =>
      cases y with
      | nan => exact ⟨.nan, rfl, nofun⟩
      | infinite t => exact ⟨.infinite t, rfl, hy⟩
      | finite b f => exact ⟨_, rfl, round_ne_infinite _ _ true⟩

theorem exists_foldlM_add {terms : List Decimal} (h : ∀ term ∈ terms, term ≠ .infinite true)
    {start : Decimal} (hstart : start ≠ .infinite true) :
    ∃ sum, terms.foldlM add start = .ok sum := by
  induction terms generalizing start with
  | nil => exact ⟨start, rfl⟩
  | cons term rest ih =>
      obtain ⟨next, hadd, hnext⟩ := add_of_not_below hstart (h term List.mem_cons_self)
      obtain ⟨sum, hsum⟩ := ih (fun other hother => h other (List.mem_cons_of_mem term hother))
          hnext
      rw [List.foldlM_cons, hadd]
      exact ⟨sum, hsum⟩

theorem exists_sum {terms : List Decimal} (h : ∀ term ∈ terms, term ≠ .infinite true) :
    ∃ total, Decimal.sum terms = .ok total := exists_foldlM_add h nofun

end Questionnaire.Decimal
