import Questionnaire.Proofs.Number.Decimal

/-!
Decimal arithmetic within the working precision.  A result with at most 28 significant digits is
exact, and a result that reaches a power of ten still does so when it is rounded.  A running sum of
counts of one power of ten is therefore exact until the count outgrows the precision, and from then
on it never comes back.
-/

namespace Questionnaire.Decimal

attribute [local instance] Binary64.corePow

/-- The quantity of a decimal that is finite. -/
def toRat? : Decimal → Option ℚ
  | .finite coefficient exponent => some (value coefficient exponent)
  | _ => none

theorem toRat?_eq_some_iff {x : Decimal} {q : ℚ} :
    x.toRat? = some q ↔ ∃ coefficient exponent, x = .finite coefficient exponent
      ∧ value coefficient exponent = q := by
  cases x <;> simp [toRat?]

/-- A quantity that the precision has digits enough for. -/
def IsPrecise (q : ℚ) : Prop :=
  ∃ coefficient exponent : ℤ, coefficient.natAbs < 10 ^ precision ∧ value coefficient exponent = q

theorem ten_zpow_pos (exponent : Int) : (0 : ℚ) < (10 : ℚ) ^ exponent := zpow_pos (by norm_num) _

theorem value_add (coefficient exponent : Int) (places : Nat) :
    value coefficient (exponent + places) = value (coefficient * 10 ^ places) exponent := by
  have hten : (10 : ℚ) ≠ 0 := by norm_num
  rw [value, value, zpow_add₀ hten, zpow_natCast]
  push_cast
  ring

theorem value_inj {a b : Int} (exponent : Int) (h : value a exponent = value b exponent) :
    a = b := by
  rw [value, value] at h
  exact_mod_cast mul_right_cancel₀ (ten_zpow_pos exponent).ne' h

theorem abs_value (coefficient exponent : Int) :
    |value coefficient exponent| = (coefficient.natAbs : ℚ) * (10 : ℚ) ^ exponent := by
  rw [value, abs_mul, abs_of_pos (ten_zpow_pos exponent), Nat.cast_natAbs, Int.cast_abs]

/-- The digits of a coefficient that do not fit the precision. -/
def excess (coefficient : Int) : Nat := Digits.count coefficient.natAbs - precision

theorem pow_le_of_excess {coefficient : Int} (h : excess coefficient ≠ 0) :
    10 ^ (precision - 1 + excess coefficient) ≤ coefficient.natAbs := by
  by_contra hlt
  have hcount : Digits.count coefficient.natAbs ≤ precision - 1 + excess coefficient :=
    (Nat.length_toDigits_le_iff (by decide) (by omega)).mpr (Nat.lt_of_not_le hlt)
  have hexcess : excess coefficient = Digits.count coefficient.natAbs - precision := rfl
  have hprecision : precision = 28 := rfl
  omega

/-- The digits that fit the precision, of which the last one is rounded. -/
def kept (coefficient : Int) : Int :=
  let rounded := Binary64.divHalfEven coefficient.natAbs (10 ^ excess coefficient)
  if coefficient < 0 then -(rounded : Int) else rounded

theorem kept_of_excess_eq_zero {coefficient : Int} (h : excess coefficient = 0) :
    kept coefficient = coefficient := by
  have hwhole : Binary64.divHalfEven coefficient.natAbs (10 ^ 0) = coefficient.natAbs := by
    have hexact := Binary64.divHalfEven_mul_self coefficient.natAbs Nat.one_pos
    rwa [Nat.mul_one] at hexact
  rw [kept, h, hwhole]
  split <;> omega

theorem toRat?_round (coefficient exponent : Int) :
    (round coefficient exponent).toRat?
      = some (value (kept coefficient) (exponent + excess coefficient)) := by
  unfold round
  dsimp only
  rw [show Digits.count coefficient.natAbs - precision = excess coefficient from rfl]
  split
  · rename_i hfits
    rw [kept_of_excess_eq_zero hfits, hfits, Nat.cast_zero, add_zero, toRat?]
  · split
    · rename_i hten
      have hpow : (10 : ℕ) ^ precision / 10 * 10 = 10 ^ precision := by decide
      rw [kept, hten, toRat?, ← Nat.cast_one (R := ℤ), value_add]
      congr 2
      split <;> omega
    · rfl

/-- Of a coefficient with digits enough, those that do not fit the precision are zeros. -/
theorem exists_mul_pow_excess {coefficient exponent : Int}
    (h : IsPrecise (value coefficient exponent)) :
    ∃ short : Int, coefficient = short * 10 ^ excess coefficient := by
  obtain ⟨digits, place, hdigits, hvalue⟩ := h
  by_cases hfits : excess coefficient = 0
  · exact ⟨coefficient, by simp [hfits]⟩
  -- the digits stand at a place that the excess does not reach
  have hplace : exponent + excess coefficient ≤ place := by
    by_contra hlow
    have hpow := pow_le_of_excess hfits
    have hsize : (10 : ℚ) ^ (precision - 1 + excess coefficient) * (10 : ℚ) ^ exponent
        < 10 ^ precision * (10 : ℚ) ^ place := by
      calc (10 : ℚ) ^ (precision - 1 + excess coefficient) * (10 : ℚ) ^ exponent
          ≤ |value coefficient exponent| := by
            rw [abs_value]
            exact mul_le_mul_of_nonneg_right (by exact_mod_cast hpow) (ten_zpow_pos _).le
        _ = |value digits place| := by rw [hvalue]
        _ < 10 ^ precision * (10 : ℚ) ^ place := by
            rw [abs_value]
            exact mul_lt_mul_of_pos_right (by exact_mod_cast hdigits) (ten_zpow_pos _)
    rw [← zpow_natCast, ← zpow_natCast, ← zpow_add₀ (by norm_num), ← zpow_add₀ (by norm_num),
      zpow_lt_zpow_iff_right₀ (by norm_num)] at hsize
    have hprecision : precision = 28 := rfl
    omega
  obtain ⟨more, rfl⟩ := Int.le.dest hplace
  refine ⟨digits * 10 ^ more, value_inj exponent ?_⟩
  rw [← hvalue, value_add, value_add]

/-- A quantity that the precision has digits enough for is kept as it is. -/
theorem value_kept_of_isPrecise {coefficient exponent : Int}
    (h : IsPrecise (value coefficient exponent)) :
    value (kept coefficient) (exponent + excess coefficient) = value coefficient exponent := by
  obtain ⟨short, hshort⟩ := exists_mul_pow_excess h
  have hkept : kept coefficient = short := by
    have hpow : 0 < 10 ^ excess coefficient := Nat.pow_pos (by decide)
    have habs : coefficient.natAbs = short.natAbs * 10 ^ excess coefficient := by
      conv => lhs; rw [hshort]
      rw [Int.natAbs_mul, Int.natAbs_pow]
      rfl
    have hsign : coefficient < 0 ↔ short < 0 := by
      conv => lhs; rw [hshort]
      rw [← not_le, ← not_le, mul_nonneg_iff_of_pos_right (by positivity)]
    rw [kept, habs, Binary64.divHalfEven_mul_self _ hpow]
    simp only [hsign]
    split <;> omega
  rw [hkept, value_add, ← hshort]

/-- What reaches a power of ten still does so after it is rounded. -/
theorem pow_le_kept {coefficient exponent bound : Int}
    (h : (10 : ℚ) ^ bound ≤ value coefficient exponent) :
    (10 : ℚ) ^ bound ≤ value (kept coefficient) (exponent + excess coefficient) := by
  by_cases hfits : excess coefficient = 0
  · rwa [kept_of_excess_eq_zero hfits, hfits, Nat.cast_zero, add_zero]
  have hpositive : 0 < coefficient := by
    have hvalue := lt_of_lt_of_le (ten_zpow_pos bound) h
    rw [value, mul_pos_iff_of_pos_right (ten_zpow_pos exponent)] at hvalue
    exact_mod_cast hvalue
  -- the greater one of two powers of ten that the coefficient reaches
  obtain ⟨reach, hreach⟩ := Int.eq_ofNat_of_zero_le
    (show 0 ≤ max (bound - exponent) (precision - 1 + excess coefficient : ℕ) by omega)
  have hle : 10 ^ reach ≤ coefficient.natAbs := by
    rcases max_choice (bound - exponent) (precision - 1 + excess coefficient : ℕ) with hmax | hmax
    · have hcoefficient : (10 : ℚ) ^ (reach : ℤ) ≤ coefficient := by
        rw [← hreach, hmax, zpow_sub₀ (by norm_num), div_le_iff₀ (ten_zpow_pos exponent)]
        exact h
      rw [zpow_natCast] at hcoefficient
      have hint : (10 : ℤ) ^ reach ≤ coefficient := by exact_mod_cast hcoefficient
      rw [← Int.natAbs_of_nonneg hpositive.le] at hint
      exact_mod_cast hint
    · obtain rfl : reach = precision - 1 + excess coefficient := by omega
      exact pow_le_of_excess hfits
  have hkept : (10 : ℤ) ^ (reach - excess coefficient) ≤ kept coefficient := by
    have hpow : 0 < 10 ^ excess coefficient := Nat.pow_pos (by decide)
    have hsplit : reach = reach - excess coefficient + excess coefficient := by omega
    have hquotient : 10 ^ (reach - excess coefficient)
        ≤ Binary64.divHalfEven coefficient.natAbs (10 ^ excess coefficient) := by
      refine le_trans ((Nat.le_div_iff_mul_le hpow).mpr ?_) (Binary64.div_le_divHalfEven _ _)
      rwa [← Nat.pow_add, ← hsplit]
    rw [kept, if_neg hpositive.not_gt]
    exact_mod_cast hquotient
  calc (10 : ℚ) ^ bound ≤ (10 : ℚ) ^ (reach + exponent) :=
        zpow_le_zpow_right₀ (by norm_num) (by omega)
    _ = ((10 : ℤ) ^ (reach - excess coefficient) : ℤ)
          * (10 : ℚ) ^ (exponent + excess coefficient) := by
        push_cast
        rw [← zpow_natCast, ← zpow_add₀ (by norm_num)]
        congr 1
        omega
    _ ≤ value (kept coefficient) (exponent + excess coefficient) :=
        mul_le_mul_of_nonneg_right (by exact_mod_cast hkept) (ten_zpow_pos _).le

/-- How a result stands to the exact one. -/
structure Rounds (exact rounded : ℚ) : Prop where
  eq_of_isPrecise : IsPrecise exact → rounded = exact
  reaches : ∀ bound : ℤ, (10 : ℚ) ^ bound ≤ exact → (10 : ℚ) ^ bound ≤ rounded

theorem exists_round (coefficient exponent : Int) : ∃ rounded,
    (round coefficient exponent).toRat? = some rounded
      ∧ Rounds (value coefficient exponent) rounded :=
  ⟨_, toRat?_round coefficient exponent, value_kept_of_isPrecise, fun _ => pow_le_kept⟩

section Finite

variable {x y : Decimal} {p q : ℚ} (hx : x.toRat? = some p) (hy : y.toRat? = some q)

include hx hy

theorem exists_add : ∃ sum rounded, x.add y = .ok sum ∧ sum.toRat? = some rounded
    ∧ Rounds (p + q) rounded := by
  obtain ⟨a, e, rfl, rfl⟩ := toRat?_eq_some_iff.mp hx
  obtain ⟨b, f, rfl, rfl⟩ := toRat?_eq_some_iff.mp hy
  have hexact : value (scaled a e (min e f) + scaled b f (min e f)) (min e f)
      = value a e + value b f := by
    rw [← scaled_mul_zpow a (min_le_left e f), ← scaled_mul_zpow b (min_le_right e f), value]
    push_cast
    ring
  obtain ⟨rounded, hrounded, hrounds⟩ :=
    exists_round (scaled a e (min e f) + scaled b f (min e f)) (min e f)
  exact ⟨_, rounded, rfl, hrounded, hexact ▸ hrounds⟩

theorem exists_sub : ∃ difference rounded, x.sub y = .ok difference
    ∧ difference.toRat? = some rounded ∧ Rounds (p - q) rounded := by
  have hneg : y.neg.toRat? = some (-q) := by
    obtain ⟨b, f, rfl, rfl⟩ := toRat?_eq_some_iff.mp hy
    simp [neg, toRat?, value]
  rw [sub_eq_add_neg]
  exact exists_add hx hneg

theorem same_iff : x.same y = true ↔ p = q := by
  obtain ⟨a, e, rfl, rfl⟩ := toRat?_eq_some_iff.mp hx
  obtain ⟨b, f, rfl, rfl⟩ := toRat?_eq_some_iff.mp hy
  rw [same, decide_eq_true_eq, ← scaled_mul_zpow a (min_le_left e f),
    ← scaled_mul_zpow b (min_le_right e f)]
  constructor
  · intro h
    rw [h]
  · intro h
    exact value_inj _ h

theorem lacksRemainder_iff : x.LacksRemainder y ↔ 10 ^ precision * |q| ≤ |p| := by
  obtain ⟨a, e, rfl, rfl⟩ := toRat?_eq_some_iff.mp hx
  obtain ⟨b, f, rfl, rfl⟩ := toRat?_eq_some_iff.mp hy
  exact Iff.rfl

/-- A remainder is zero exactly for the whole multiples, as far as they can be counted. -/
theorem isMultipleOf_eq_true_iff : x.isMultipleOf y = .ok true ↔
    |p| < 10 ^ precision * |q| ∧ ∃ k : ℤ, p = k * q := by
  obtain ⟨a, e, rfl, rfl⟩ := toRat?_eq_some_iff.mp hx
  obtain ⟨b, f, rfl, rfl⟩ := toRat?_eq_some_iff.mp hy
  have hmultiple : (∃ k : ℤ, value a e = k * value b f) ↔
      (scaled b f (min e f)).natAbs ∣ (scaled a e (min e f)).natAbs := by
    rw [Int.natAbs_dvd_natAbs, ← scaled_mul_zpow a (min_le_left e f),
      ← scaled_mul_zpow b (min_le_right e f)]
    constructor
    · rintro ⟨k, hk⟩
      refine ⟨k, value_inj (min e f) ?_⟩
      rw [value, hk, value]
      push_cast
      ring
    · rintro ⟨k, hk⟩
      refine ⟨k, ?_⟩
      rw [hk]
      push_cast
      ring
  rw [hmultiple, ← not_le, ← pow_mul_natAbs_le_iff, ← quotient_exceeds_iff, not_or, isMultipleOf]
  split
  · rename_i hzero
    simp [hzero]
  · rename_i hdivisor
    split
    · rename_i hlarge
      simp [hlarge]
    · rename_i hsmall
      simp [hdivisor, hsmall, Nat.dvd_iff_mod_eq_zero]

end Finite

/-- A running sum of counts of one power of ten is exact as long as the count fits the precision,
and stays past the precision once the count has outgrown it. -/
structure Tracks (unit : ℤ) (count : ℕ) (running : ℚ) : Prop where
  exact : count < 10 ^ precision → running = value count unit
  past : 10 ^ precision ≤ count → (10 : ℚ) ^ (precision + unit) ≤ running

variable {unit : ℤ} {count more : ℕ} {running next : ℚ}

theorem isPrecise_value (h : count < 10 ^ precision) : IsPrecise (value count unit) :=
  ⟨count, unit, h, rfl⟩

/-- A count outgrows the precision where its quantity reaches a power of ten. -/
theorem pow_le_value_iff :
    (10 : ℚ) ^ (precision + unit) ≤ value count unit ↔ 10 ^ precision ≤ count := by
  rw [value, zpow_add₀ (by norm_num), zpow_natCast, mul_le_mul_iff_left₀ (ten_zpow_pos unit)]
  exact_mod_cast Iff.rfl

theorem value_nonneg : 0 ≤ value count unit :=
  mul_nonneg (by exact_mod_cast Nat.zero_le count) (ten_zpow_pos unit).le

theorem value_add_value : value count unit + value more unit = value (count + more : ℕ) unit := by
  rw [value, value, value]
  push_cast
  ring

theorem sum_map_value (counts : List ℕ) :
    (counts.map fun (count : ℕ) => value count unit).sum = value (counts.sum : ℕ) unit := by
  induction counts with
  | nil => simp [value]
  | cons first rest ih => rw [List.map_cons, List.sum_cons, List.sum_cons, ih, value_add_value]

/-- What one further count makes of a running sum. -/
theorem Tracks.add (h : Tracks unit count running)
    (hnext : Rounds (running + value more unit) next) : Tracks unit (count + more) next where
  exact := by
    intro hfits
    rw [h.exact (by omega), value_add_value] at hnext
    exact hnext.eq_of_isPrecise (isPrecise_value hfits)
  past := by
    intro hpast
    apply hnext.reaches
    rcases Nat.lt_or_ge count (10 ^ precision) with hfits | hgone
    · rw [h.exact hfits, value_add_value]
      exact pow_le_value_iff.mpr hpast
    · exact (h.past hgone).trans (le_add_of_nonneg_right value_nonneg)

/-- Below the power of ten where the precision ends a running sum is as good as the exact one. -/
theorem Tracks.eq_iff (h : Tracks unit count running) {total : ℚ}
    (htotal : total < (10 : ℚ) ^ (precision + unit)) :
    running = total ↔ value count unit = total := by
  rcases Nat.lt_or_ge count (10 ^ precision) with hfits | hgone
  · rw [h.exact hfits]
  · have hrunning := htotal.trans_le (h.past hgone)
    have hexact := htotal.trans_le (pow_le_value_iff.mpr hgone)
    exact iff_of_false hrunning.ne' hexact.ne'

/-- The sum of counts of one power of ten exists, whatever their order. -/
theorem exists_foldlM_counts {terms : List Decimal} {counts : List ℕ}
    (hterms : terms.map toRat? = counts.map fun (count : ℕ) => some (value count unit))
    {start : Decimal} (hstart : start.toRat? = some running) (h : Tracks unit count running) :
    ∃ sum rounded, terms.foldlM Decimal.add start = .ok sum ∧ sum.toRat? = some rounded
      ∧ Tracks unit (count + counts.sum) rounded := by
  induction counts generalizing terms start count running with
  | nil =>
      obtain rfl := List.map_eq_nil_iff.mp hterms
      exact ⟨start, running, rfl, hstart, h⟩
  | cons first rest ih =>
      obtain ⟨term, others, rfl, hterm, hothers⟩ := List.map_eq_cons_iff.mp hterms
      obtain ⟨next, rounded, hadd, hrounded, hrounds⟩ := exists_add hstart hterm
      obtain ⟨sum, total, hsum, htotal, htracks⟩ := ih hothers hrounded (h.add hrounds)
      refine ⟨sum, total, ?_, htotal, ?_⟩
      · rw [List.foldlM_cons, hadd]
        exact hsum
      · rwa [List.sum_cons, ← Nat.add_assoc]

theorem exists_sum_counts {terms : List Decimal} {counts : List ℕ}
    (hterms : terms.map toRat? = counts.map fun (count : ℕ) => some (value count unit)) :
    ∃ sum rounded, Decimal.sum terms = .ok sum ∧ sum.toRat? = some rounded
      ∧ Tracks unit counts.sum rounded := by
  have hzero : Tracks unit 0 0 := ⟨fun _ => by simp [value], fun hgone => absurd hgone (by decide)⟩
  have hstart : (Decimal.finite 0 0).toRat? = some 0 := by simp [toRat?, value]
  have hsum := exists_foldlM_counts hterms hstart hzero
  rwa [Nat.zero_add] at hsum

end Questionnaire.Decimal
