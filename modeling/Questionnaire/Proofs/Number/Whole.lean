import Questionnaire.Proofs.Number.Magnitude
import Questionnaire.Proofs.Number.Range

/-!
Whole numbers and the ones next to them.  In binary one is added and taken away with rounding, which
does not reach across the integers up to `2 ^ 53`, nor across those beyond the range of the format.
-/

namespace Questionnaire

attribute [local instance] Binary64.corePow

attribute [local irreducible] Binary64.one Binary64.limit

namespace Binary64

theorem toUnits?_neg {x : Binary64} {u : Int} (hx : x.toUnits? = some u) :
    x.neg.toUnits? = some (-u) := by
  cases x with
  | nan => cases hx
  | infinite negative => cases hx
  | finite negative units fits =>
      obtain rfl := Option.some.inj hx
      cases negative <;> simp [neg, toUnits?]

/-- A rounded integer is up to an integer that is counted exactly, as is the next one, only if it
was so before it was rounded. -/
theorem Place.ofUnits_le_whole_iff {k : Int} {p : Nat} (hp : p < 2 ^ (53 : Nat)) :
    (Place.ofUnits (roundSigned (k * one) 1)).le (.at (p * one)) = true ↔ k ≤ p := by
  have hone : (0 : Int) < one := by exact_mod_cast one_pos
  constructor
  · intro hle
    by_contra hlt
    have hround := roundSigned_mono 1
      (Int.mul_le_mul_of_nonneg_right (show ((p + 1 : Nat) : Int) ≤ k by omega) hone.le)
    rw [roundSigned_whole hp] at hround
    have habove := Place.at_le_ofUnits hround
      (Int.le_trans (Int.mul_nonneg (Int.natCast_nonneg _) hone.le) hround)
    have hback : ((p + 1 : Nat) : Int) * one ≤ p * one := by
      simpa [Place.le, Place.lt] using Place.le_trans habove hle
    have := Int.le_of_mul_le_mul_right hback hone
    omega
  · intro hle
    have hround := roundSigned_mono 1 (Int.mul_le_mul_of_nonneg_right hle hone.le)
    rw [roundSigned_whole hp.le] at hround
    exact Place.ofUnits_le_at hround (by exact_mod_cast (fits_whole hp.le).2)

/-- The same the other way round. -/
theorem Place.whole_le_ofUnits_iff {k : Int} (hk : 0 ≤ k) {p : Nat} (hp : p ≤ 2 ^ (53 : Nat)) :
    (Place.at (p * one)).le (.ofUnits (roundSigned (k * one) 1)) = true ↔ p ≤ k := by
  have hone : (0 : Int) < one := by exact_mod_cast one_pos
  constructor
  · intro hle
    by_contra hlt
    obtain ⟨q, rfl⟩ : ∃ q, p = q + 1 := ⟨p - 1, by omega⟩
    have hround := roundSigned_mono 1
      (Int.mul_le_mul_of_nonneg_right (show k ≤ (q : Int) by omega) hone.le)
    have hq : q ≤ 2 ^ (53 : Nat) := Nat.le_of_succ_le hp
    rw [roundSigned_whole hq] at hround
    have hbelow := Place.ofUnits_le_at hround (by exact_mod_cast (fits_whole hq).2)
    have hback : ((q + 1 : Nat) : Int) * one ≤ q * one := by
      simpa [Place.le, Place.lt] using Place.le_trans hle hbelow
    have := Int.le_of_mul_le_mul_right hback hone
    omega
  · intro hle
    have hround := roundSigned_mono 1 (Int.mul_le_mul_of_nonneg_right hle hone.le)
    rw [roundSigned_whole hp] at hround
    exact Place.at_le_ofUnits hround
      (Int.le_trans (Int.mul_nonneg (Int.natCast_nonneg _) hone.le) hround)

/-- One more than a finite number is finite. -/
theorem exists_toUnits?_of_place?_succ {x next : Binary64} {u : Int} (hx : x.toUnits? = some u)
    (hnext : next.place? = some (.ofUnits (roundSigned (u + one) 1))) :
    ∃ v, next.toUnits? = some v := by
  have hlast : roundUnits (greatest + one) 1 < limit := by decide +kernel
  have hbound : (u + one).natAbs ≤ greatest + one := by
    cases x with
    | nan => cases hx
    | infinite negative => cases hx
    | finite negative units fits =>
        have hunits := le_greatest fits
        have hu := Option.some.inj hx
        cases negative <;> simp only [Bool.false_eq_true, ↓reduceIte] at hu <;> omega
  refine ⟨_, toUnits?_of_natAbs_lt hnext ?_⟩
  rw [natAbs_roundSigned]
  exact Nat.lt_of_le_of_lt (roundUnits_mono 1 hbound) hlast

end Binary64

namespace Number

open Binary64

variable {a : Number} {i : Int}

/-- A number without a fraction, of either kind. -/
def IsWhole (a : Number) : Prop := ∃ i : Int, a.tidy = .int i

instance (a : Number) : Decidable a.IsWhole :=
  match h : a.tidy with
  | .int i => .isTrue ⟨i, h⟩
  | .float x => .isFalse fun ⟨i, hi⟩ => by simp [h] at hi

theorem units?_of_tidy (h : a.tidy = .int i) : a.units? = some (i * one) := by
  rw [← units?_tidy, h, units?_int]

theorem IsWhole.isCounted (h : a.IsWhole) : a.IsCounted :=
  h.imp' _ fun _ hi => units?_of_tidy hi

theorem lt_int_iff (h : a.tidy = .int i) {p : Int} : a.lt (.int p) = true ↔ i < p := by
  rw [lt, ← place?_tidy, h]
  exact int_lt_int

theorem int_lt_iff (h : a.tidy = .int i) {p : Int} : (Number.int p).lt a = true ↔ p < i := by
  rw [lt, ← place?_tidy a, h]
  exact int_lt_int

theorem combine_float_one {exact : Int → Int → Int} {rounded : Binary64 → Binary64 → Binary64}
    {x one : Binary64} (hone : (1 : Number).toBinary64 = .ok one) :
    combine exact rounded (.float x) 1 = .ok (.float (rounded x one)) := by
  change (do return .float (rounded x (← (1 : Number).toBinary64)) : Except Fault Number) = _
  rw [hone]
  rfl

theorem exists_binary_one :
    ∃ y, (1 : Number).toBinary64 = .ok y ∧ y.toUnits? = some (one : Int) := by
  have hfits : Fits (1 * one) := fits_whole Nat.one_le_two_pow
  obtain ⟨y, hy, -⟩ := exists_toBinary64 (within_int (show (1 : Int).natAbs ≤ 1 by decide)) hfits
  have hunits := toUnits?_toBinary64 (units?_int 1) hy
  have hwhole := roundSigned_whole (Nat.one_le_two_pow : 1 ≤ 2 ^ (53 : Nat))
  rw [Nat.cast_one] at hwhole
  exact ⟨y, hy, hunits.trans (by rw [hwhole, Int.one_mul])⟩

/-- The integers up to which a rounded sum is exactly if the exact one is: those that are counted
exactly, and those beyond the range of the format. -/
def IsKeptApart (p : Int) : Prop := (0 ≤ p ∧ p < 2 ^ (53 : Nat)) ∨ firstTooLarge ≤ p

/-- A whole number has a number that is one more, which is up to the same integers that the whole
number is below. -/
theorem exists_add_one (h : a.tidy = .int i) :
    ∃ next, a.add 1 = .ok next ∧ next.IsCounted
      ∧ ∀ p, IsKeptApart p → (next.le (.int p) = true ↔ i < p) := by
  cases a with
  | int j =>
      obtain rfl : j = i := by simpa [tidy] using h
      exact ⟨.int (j + 1), rfl, isCounted_int _, fun p _ => int_le_int.trans Int.add_one_le_iff⟩
  | float x =>
      have hx := units?_of_tidy h
      obtain ⟨y, hone, hy⟩ := exists_binary_one
      have hsum : (Number.float x).add 1 = .ok (.float (x + y)) := combine_float_one hone
      have hplace := place?_add hx hy
      have hcounted : (Number.float (x + y)).IsCounted :=
        exists_toUnits?_of_place?_succ hx hplace
      rw [← add_one_mul] at hplace
      refine ⟨.float (x + y), hsum, hcounted, fun p hp => ?_⟩
      rcases hp with ⟨hlow, hhigh⟩ | hlarge
      · obtain ⟨n, rfl⟩ := Int.eq_ofNat_of_zero_le hlow
        have hwhole := Place.ofUnits_le_whole_iff (k := i + 1) (p := n) (by exact_mod_cast hhigh)
        rw [le, show (Number.float (x + y)).place? = _ from hplace]
        exact hwhole.trans Int.add_one_le_iff
      · -- both are below every integer that is too large for the format
        have hnext := le_of_lt (float_lt_int hcounted hlarge)
        have hlt := (lt_int_iff h).mp (float_lt_int ⟨_, hx⟩ hlarge)
        simp [hnext, hlt]

/-- A whole number above zero has a number that is one less.  The same percentages are up to it that
are below the whole number, and it has a binary counterpart unless the whole number is too large an
integer. -/
theorem exists_sub_one (h : a.tidy = .int i) (hpos : 0 < i) :
    ∃ last, a.sub 1 = .ok last
      ∧ (∀ p : Nat, p ≤ 2 ^ (53 : Nat) → ((Number.int p).le last = true ↔ p < i))
      ∧ (last.IsUsable ↔ a.le (.int firstTooLarge) = true) := by
  cases a with
  | int j =>
      obtain rfl : j = i := by simpa [tidy] using h
      refine ⟨.int (j - 1), rfl, fun p _ => int_le_int.trans Int.le_sub_one_iff, ?_⟩
      rw [int_le_int]
      constructor
      · intro husable
        have := husable (j - 1) rfl
        omega
      · intro hsmall last hlast
        have := Number.int.inj hlast
        omega
  | float x =>
      have hx := units?_of_tidy h
      obtain ⟨y, hone, hy⟩ := exists_binary_one
      have hsum : (Number.float x).sub 1 = .ok (.float (x - y)) := combine_float_one hone
      have hplace := place?_add hx (toUnits?_neg hy)
      rw [← Int.sub_eq_add_neg, ← sub_one_mul] at hplace
      have husable : (Number.float (x - y)).IsUsable := fun _ hint => by cases hint
      refine ⟨.float (x - y), hsum, fun p hp => ?_, fun _ => ?_, fun _ => husable⟩
      · have hwhole := Place.whole_le_ofUnits_iff (k := i - 1) (by omega) hp
        rw [le, show (Number.float (x - y)).place? = _ from hplace]
        exact hwhole.trans Int.le_sub_one_iff
      · exact le_of_lt (float_lt_int ⟨_, hx⟩ le_rfl)

/-- No number lies between an integer beyond the range of the format and the next one. -/
theorem le_int_of_lt_succ (ha : a.IsCounted) {p : Int} (hp : firstTooLarge ≤ p)
    (h : a.lt (.int (p + 1)) = true) : a.le (.int p) = true := by
  cases a with
  | int j => exact int_le_int.mpr (Int.lt_add_one_iff.mp (int_lt_int.mp h))
  | float x => exact le_of_lt (float_lt_int ha hp)

theorem eq_succ_of_between (ha : a.IsCounted) {p : Int} (hp : firstTooLarge ≤ p)
    (hlow : (Number.int p).lt a = true) (hhigh : a.le (.int (p + 1)) = true) :
    a = .int (p + 1) := by
  cases a with
  | int j =>
      have := int_lt_int.mp hlow
      have := int_le_int.mp hhigh
      rw [show j = p + 1 by omega]
  | float x =>
      have hback := le_of_lt (float_lt_int ha hp)
      exact absurd hback ((lt_iff_not_le (isCounted_int p).place?_ne_none ha.place?_ne_none).mp
          hlow)

end Number

end Questionnaire
