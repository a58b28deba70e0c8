import Questionnaire.Proofs.Number.Magnitude
import Questionnaire.Proofs.Number.Order

/-!
The binary number nearest to a number.  Rounding keeps the order, so two numbers with the same
nearest one still have the same nearest one after both are kept within a range; and where the range
does not go beyond `2 ^ 53` they are then equal.
-/

namespace Questionnaire

attribute [local instance] Binary64.corePow

attribute [local irreducible] Binary64.one Binary64.limit

namespace Binary64.Place

/-- The place of the nearest binary number. -/
def rounded : Place → Place
  | .below => .below
  | .at units => .ofUnits (roundSigned units 1)
  | .above => .above

/-- The lower of two places. -/
def lower (p q : Place) : Place := if q.lt p then q else p

/-- The upper of two places. -/
def upper (p q : Place) : Place := if p.lt q then q else p

variable {p q : Place}

theorem le_antisymm (hpq : p.le q = true) (hqp : q.le p = true) : p = q := by
  rcases lt_trichotomy p q with hlt | heq | hgt
  · simp [le, hlt] at hqp
  · exact heq
  · simp [le, hgt] at hpq

theorem rounded_mono (h : p.le q = true) : p.rounded.le q.rounded = true := by
  cases p with
  | below => cases hq : q.rounded <;> rfl
  | above =>
      cases q with
      | above => rfl
      | below => cases h
      | «at» units => cases h
  | «at» units =>
      cases q with
      | below => cases h
      | above => cases hp : (Place.at units).rounded <;> rfl
      | «at» more =>
          have hle : units ≤ more := by simpa [le, lt] using h
          exact ofUnits_le_ofUnits (roundSigned_mono 1 hle)

/-- Rounding moves no two places past each other, but may bring them together. -/
theorem not_rounded_lt (h : ¬ p.lt q = true) : ¬ p.rounded.lt q.rounded = true := by
  simpa [le] using rounded_mono (le_of_not_lt h)

theorem rounded_eq_of_lt (hlt : p.lt q = true) (hnot : ¬ p.rounded.lt q.rounded = true) :
    p.rounded = q.rounded := by
  have hle : p.le q = true := le_of_not_lt fun hgt => by
    simpa [lt_irrefl] using lt_trans hlt hgt
  exact le_antisymm (rounded_mono hle) (le_of_not_lt hnot)

theorem rounded_lower : (lower p q).rounded = lower p.rounded q.rounded := by
  unfold lower
  by_cases hlt : q.lt p = true
  · rw [if_pos hlt]
    split
    · rfl
    · rename_i hnot
      exact rounded_eq_of_lt hlt hnot
  · rw [if_neg hlt, if_neg (not_rounded_lt hlt)]

theorem rounded_upper : (upper p q).rounded = upper p.rounded q.rounded := by
  unfold upper
  by_cases hlt : p.lt q = true
  · rw [if_pos hlt]
    split
    · rfl
    · rename_i hnot
      exact (rounded_eq_of_lt hlt hnot).symm
  · rw [if_neg hlt, if_neg (not_rounded_lt hlt)]

end Binary64.Place

namespace Number

open Binary64

/-- The binary number nearest to a number, infinite beyond the range of the format. -/
def nearest : Number → Binary64
  | .int value => .ofInt value
  | .float x => x

/-- Two numbers with the same nearest binary number, whatever the sign of a zero. -/
def Near (a b : Number) : Prop := a.nearest.place? = b.nearest.place?

instance (a b : Number) : Decidable (a.Near b) := inferInstanceAs (Decidable (_ = _))

variable {a b upper : Number}

theorem rounded_of_place? {x : Binary64} {p : Place} (h : x.place? = some p) : p.rounded = p := by
  cases p with
  | below => rfl
  | above => rfl
  | «at» units =>
      have hunits := toUnits?_of_place? h
      rw [Place.rounded, roundSigned_of_toUnits? hunits, Place.ofUnits_of_toUnits? hunits]

theorem place?_nearest (a : Number) : a.nearest.place? = a.place?.map Place.rounded := by
  cases a with
  | int value => exact place?_ofInt value
  | float x =>
      change x.place? = x.place?.map Place.rounded
      cases hx : x.place? with
      | none => rfl
      | some p => rw [Option.map_some, rounded_of_place? hx]

theorem place?_min {p q : Place} (ha : a.place? = some p) (hb : b.place? = some q) :
    (a.min b).place? = some (p.lower q) := by
  rw [min, Place.lower, lt, hb, ha, apply_ite Number.place?, apply_ite some, ha, hb]

theorem place?_max {p q : Place} (ha : a.place? = some p) (hb : b.place? = some q) :
    (a.max b).place? = some (p.upper q) := by
  rw [max, Place.upper, lt, hb, ha, apply_ite Number.place?, apply_ite some, ha, hb]

theorem place?_clamp {p q : Place} (ha : a.place? = some p) (hupper : upper.place? = some q) :
    (a.clamp upper).place? = some ((Place.at 0).upper (p.lower q)) :=
  place?_max (place?_of_units? units?_zero) (place?_min ha hupper)

/-- What is not a number is kept at zero. -/
theorem clamp_of_place?_eq_none (ha : a.place? = none) (upper : Number) : a.clamp upper = 0 := by
  have hmin : a.min upper = a := by
    rw [min, lt, ha]
    cases upper.place? <;> rfl
  rw [clamp, hmin, max, lt, ha]
  rfl

theorem near_of_place?_eq (h : a.place? = b.place?) : a.Near b := by
  rw [Near, place?_nearest, place?_nearest, h]

/-- Numbers with the same nearest binary number have it in common within every range from zero. -/
theorem Near.clamp (h : a.Near b) (hupper : upper.place? ≠ none) :
    (a.clamp upper).Near (b.clamp upper) := by
  obtain ⟨r, hr⟩ := Option.ne_none_iff_exists'.mp hupper
  rw [Near, place?_nearest, place?_nearest] at h
  cases hq : b.place? with
  | none =>
      rw [hq, Option.map_none, Option.map_eq_none_iff] at h
      rw [clamp_of_place?_eq_none h, clamp_of_place?_eq_none hq]
      exact near_of_place?_eq rfl
  | some q =>
      rw [hq] at h
      obtain ⟨p, hp, hpq⟩ := Option.map_eq_some_iff.mp h
      rw [Near, place?_nearest, place?_nearest, place?_clamp hp hr, place?_clamp hq hr,
        Option.map_some, Option.map_some, Place.rounded_upper, Place.rounded_upper,
        Place.rounded_lower, Place.rounded_lower, hpq]

/-- A whole number of at most 53 bits is left alone by rounding. -/
theorem rounded_whole {i : Int} (h : i.natAbs ≤ 2 ^ (53 : Nat)) :
    (Place.at (i * one)).rounded = .at (i * one) := by
  have hlimit : (i * one : Int).natAbs < limit := by
    rw [Int.natAbs_mul, Int.natAbs_natCast]
    exact (fits_whole h).2
  have hround : roundSigned (i * one) 1 = i * one := by
    obtain ⟨n, rfl | rfl⟩ := Int.eq_nat_or_neg i
    · exact roundSigned_whole (by simpa using h)
    · have hsigned := roundSigned_signed true (n * one) 1
      rw [if_pos rfl, if_pos rfl, roundUnits_whole (by simpa using h), Int.natCast_mul,
        ← Int.neg_mul] at hsigned
      exact hsigned
  rw [Place.rounded, hround, Place.ofUnits_of_natAbs_lt hlimit]

/-- What is on the binary grid or a whole number of at most 53 bits is left alone by rounding. -/
theorem rounded_of_within {p : Place} (h : a.Within (2 ^ (53 : Nat))) (ha : a.place? = some p) :
    p.rounded = p := by
  cases a with
  | float x => exact rounded_of_place? ha
  | int i =>
      obtain ⟨u, hu, hle⟩ := h
      obtain rfl := Option.some.inj hu
      obtain rfl := Option.some.inj ha
      rw [Int.natAbs_mul, Int.natAbs_natCast] at hle
      exact rounded_whole (Nat.le_of_mul_le_mul_right hle Binary64.one_pos)

/-- Numbers up to `2 ^ 53` with the same nearest binary number are equal. -/
theorem Near.same (h : a.Near b) (ha : a.Within (2 ^ (53 : Nat))) (hb : b.Within (2 ^ (53 : Nat))) :
    a.same b = true := by
  obtain ⟨u, hu, -⟩ := id ha
  obtain ⟨v, hv, -⟩ := id hb
  have hp := place?_of_units? hu
  have hq := place?_of_units? hv
  rw [Near, place?_nearest, place?_nearest, hp, hq, Option.map_some, Option.map_some,
    rounded_of_within ha hp, rounded_of_within hb hq] at h
  rw [Number.same, hp, hq]
  exact decide_eq_true (Option.some.inj h)

/-- A positive number up to `2 ^ 53` is within the exact range. -/
theorem within_of_le (ha : a.IsCounted) (hpositive : Number.lt 0 a = true)
    (hle : a.le (.int (2 ^ (53 : Nat))) = true) : a.Within (2 ^ (53 : Nat)) := by
  have hlow := (isCounted_zero.lt_iff ha).mp hpositive
  have hhigh := (ha.le_iff (isCounted_int _)).mp hle
  rw [units, units?_zero, Option.getD_some] at hlow
  rw [units.eq_1 (.int _), units?_int, Option.getD_some] at hhigh
  exact ⟨a.units, ha.units?_eq, by omega⟩

end Number

end Questionnaire
