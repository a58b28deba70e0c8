import Mathlib.Tactic.Ring
import Questionnaire.Number.Basic
import Questionnaire.Proofs.Number.Rounding

/-!
Products and the order of numbers.  Rounding keeps the order of products, so that under a weight
that is not negative the greater of two numbers stays the greater one, also where one of them is
multiplied exactly and the other one in binary, as long as the products are exact there.
-/

namespace Questionnaire

attribute [local instance] Binary64.corePow

attribute [local irreducible] Binary64.one Binary64.limit

namespace Binary64

theorem one_pos : 0 < one := by decide +kernel

/-- The count of units on the grid nearest to `n / d`, the limit left out of account. -/
def roundSigned (n : Int) (d : Nat) : Int :=
  if n < 0 then -(roundUnits n.natAbs d : Int) else roundUnits n.natAbs d

theorem roundUnits_zero (d : Nat) : roundUnits 0 d = 0 := by
  simp [roundUnits, divHalfEven]

@[simp] theorem roundSigned_zero (d : Nat) : roundSigned 0 d = 0 := by
  simp [roundSigned, roundUnits_zero]

theorem roundSigned_mono {n m : Int} (d : Nat) (h : n ≤ m) : roundSigned n d ≤ roundSigned m d := by
  unfold roundSigned
  by_cases hn : n < 0
  · by_cases hm : m < 0
    · have := roundUnits_mono d (show m.natAbs ≤ n.natAbs by omega)
      rw [if_pos hn, if_pos hm]
      omega
    · rw [if_pos hn, if_neg hm]
      omega
  · have := roundUnits_mono d (show n.natAbs ≤ m.natAbs by omega)
    rw [if_neg hn, if_neg (by omega)]
    omega

theorem roundSigned_nonneg {n : Int} (d : Nat) (h : 0 ≤ n) : 0 ≤ roundSigned n d := by
  have := roundSigned_mono d h
  rwa [roundSigned_zero] at this

theorem roundSigned_signed (negative : Bool) (k d : Nat) :
    roundSigned (if negative then -(k : Int) else k) d
      = if negative then -(roundUnits k d : Int) else roundUnits k d := by
  cases negative with
  | false => simp [roundSigned]
  | true =>
    rcases Nat.eq_zero_or_pos k with rfl | hpos
    · simp [roundUnits_zero]
    · simp [roundSigned, hpos]

theorem mul_natCast_neg_iff {n : Int} {c : Nat} (hc : 0 < c) : n * c < 0 ↔ n < 0 := by
  have hpos : (0 : Int) < c := by exact_mod_cast hc
  have hscaled : n * c < 0 * c ↔ n < 0 := Int.mul_lt_mul_right hpos
  rwa [Int.zero_mul] at hscaled

theorem roundSigned_mul_right (n : Int) (d : Nat) {c : Nat} (hc : 0 < c) :
    roundSigned (n * c) (d * c) = roundSigned n d := by
  have habs : (n * c).natAbs = n.natAbs * c := by rw [Int.natAbs_mul, Int.natAbs_natCast]
  unfold roundSigned
  simp only [mul_natCast_neg_iff hc, habs, roundUnits_mul_right _ d hc]

/-- A product with a whole number of units is rounded without the division. -/
theorem roundSigned_mul_one (n : Int) : roundSigned (n * one) one = roundSigned n 1 := by
  have := roundSigned_mul_right n 1 one_pos
  rwa [Nat.one_mul] at this

theorem roundSigned_whole {i : Nat} (h : i ≤ 2 ^ (53 : Nat)) :
    roundSigned (i * one) 1 = i * one := by
  have hnonneg : ¬ (i * one : Int) < 0 := by exact_mod_cast Nat.not_lt_zero (i * one)
  have habs : (i * one : Int).natAbs = i * one := by
    rw [Int.natAbs_mul, Int.natAbs_natCast, Int.natAbs_natCast]
  unfold roundSigned
  rw [if_neg hnonneg, habs, roundUnits_whole h]
  push_cast
  rfl

/-- The place of a count of units, infinite beyond the limit. -/
def Place.ofUnits (units : Int) : Place :=
  if units ≤ -limit then .below else if limit ≤ units then .above else .at units

theorem place?_ofUnits (negative : Bool) (n d : Nat) :
    (ofUnits negative n d).place?
      = some (.ofUnits (if negative then -(roundUnits n d : Int) else roundUnits n d)) := by
  have hpos : (0 : Int) < limit := by exact_mod_cast limit_pos
  unfold ofUnits Place.ofUnits
  by_cases hsmall : roundUnits n d < limit
  · have hsmall' : (roundUnits n d : Int) < limit := by exact_mod_cast hsmall
    rw [dif_pos hsmall]
    cases negative with
    | false => rw [if_neg Bool.false_ne_true, if_neg (by omega), if_neg (by omega)]; rfl
    | true => rw [if_pos rfl, if_neg (by omega), if_neg (by omega)]; rfl
  · have hlarge : (limit : Int) ≤ roundUnits n d := by exact_mod_cast Nat.le_of_not_lt hsmall
    rw [dif_neg hsmall]
    cases negative with
    | false => rw [if_neg Bool.false_ne_true, if_neg (by omega), if_pos hlarge]; rfl
    | true => rw [if_pos rfl, if_pos (by omega)]; rfl

theorem Place.ofUnits_le_ofUnits {u v : Int} (h : u ≤ v) :
    (Place.ofUnits u).le (.ofUnits v) = true := by
  unfold Place.ofUnits Place.le
  by_cases hlow : u ≤ -limit
  · rw [if_pos hlow]
    split
    · rfl
    · split <;> rfl
  · rw [if_neg hlow, if_neg (show ¬ v ≤ -limit by omega)]
    by_cases hhigh : limit ≤ v
    · rw [if_pos hhigh]
      split <;> rfl
    · rw [if_neg hhigh, if_neg (show ¬ limit ≤ u by omega)]
      simpa [Place.lt] using h

theorem Place.at_le_ofUnits {u v : Int} (h : u ≤ v) (hv : 0 ≤ v) :
    (Place.at u).le (.ofUnits v) = true := by
  have hpos : (0 : Int) < limit := by exact_mod_cast limit_pos
  unfold Place.ofUnits Place.le
  rw [if_neg (by omega)]
  split
  · rfl
  · simpa [Place.lt] using h

theorem Place.ofUnits_le_at {u v : Int} (h : u ≤ v) (hv : v < limit) :
    (Place.ofUnits u).le (.at v) = true := by
  unfold Place.ofUnits Place.le
  split
  · rfl
  · rw [if_neg (by omega)]
    simpa [Place.lt] using h

theorem Place.lt_of_ofUnits_lt {u v : Int} (h : (Place.ofUnits u).lt (.at v) = true)
    (hv : 0 ≤ v) : u < v := by
  have hpos : (0 : Int) < limit := by exact_mod_cast limit_pos
  unfold Place.ofUnits at h
  split at h
  · omega
  · split at h
    · cases h
    · simpa [Place.lt] using h

theorem place?_of_toUnits? {x : Binary64} {u : Int} (h : x.toUnits? = some u) :
    x.place? = some (.at u) := by
  cases x with
  | nan => cases h
  | infinite negative => cases h
  | finite negative units fits =>
    obtain rfl := Option.some.inj h
    rfl

theorem toUnits?_of_toInt? {x : Binary64} {i : Int} (h : x.toInt? = some i) :
    x.toUnits? = some (i * one) := by
  unfold toInt? at h
  split at h
  · rename_i units hunits
    split at h
    · rename_i hdivides
      obtain rfl := Option.some.inj h
      rw [hunits, Int.ediv_mul_cancel (Int.dvd_of_emod_eq_zero hdivides)]
    · cases h
  · cases h

theorem place?_ofInt (i : Int) :
    (ofInt i).place? = some (.ofUnits (roundSigned (i * one) 1)) := by
  have habs : (i * one : Int).natAbs = i.natAbs * one := by
    rw [Int.natAbs_mul, Int.natAbs_natCast]
  rw [ofInt, place?_ofUnits, roundSigned, habs]
  simp only [mul_natCast_neg_iff one_pos, decide_eq_true_eq]

/-- A number of the format is on its grid. -/
theorem roundSigned_of_toUnits? {x : Binary64} {u : Int} (h : x.toUnits? = some u) :
    roundSigned u 1 = u := by
  cases x with
  | nan => cases h
  | infinite negative => cases h
  | finite negative units fits =>
    obtain rfl := Option.some.inj h
    rw [roundSigned_signed, roundUnits_of_fits fits]

theorem place?_mul {x y : Binary64} {u v : Int} (hx : x.toUnits? = some u)
    (hy : y.toUnits? = some v) :
    (x * y).place? = some (.ofUnits (roundSigned (u * v) one)) := by
  cases x with
  | nan => cases hx
  | infinite negative => cases hx
  | finite s m hm =>
    cases y with
    | nan => cases hy
    | infinite negative => cases hy
    | finite t n hn =>
      obtain rfl := Option.some.inj hx
      obtain rfl := Option.some.inj hy
      change (Binary64.ofUnits (s != t) (m * n) one).place? = _
      have hproduct : (if s then -(m : Int) else m) * (if t then -(n : Int) else n)
          = if (s != t) then -((m * n : Nat) : Int) else (m * n : Nat) := by
        cases s <;> cases t <;> simp
      rw [place?_ofUnits, hproduct, roundSigned_signed]

theorem place?_add {x y : Binary64} {u v : Int} (hx : x.toUnits? = some u)
    (hy : y.toUnits? = some v) : (x + y).place? = some (.ofUnits (roundSigned (u + v) 1)) := by
  cases x with
  | nan => cases hx
  | infinite negative => cases hx
  | finite s m hm =>
    cases y with
    | nan => cases hy
    | infinite negative => cases hy
    | finite t n hn =>
      injection hx with hx
      injection hy with hy
      change (Binary64.ofUnits _ _ 1).place? = _
      rw [place?_ofUnits, hx, hy, roundSigned]
      by_cases hzero : u + v = 0
      · simp [hzero, roundUnits_zero]
      · simp [hzero]

/-- A number of the format is below the limit. -/
theorem Place.ofUnits_of_toUnits? {x : Binary64} {u : Int} (h : x.toUnits? = some u) :
    Place.ofUnits u = .at u := by
  cases x with
  | nan => cases h
  | infinite negative => cases h
  | finite negative units fits =>
    have hlimit : (units : Int) < limit := by exact_mod_cast fits.2
    injection h with h
    subst h
    unfold Place.ofUnits
    cases negative with
    | false => rw [if_neg Bool.false_ne_true, if_neg (by omega), if_neg (by omega)]
    | true => rw [if_pos rfl, if_neg (by omega), if_neg (by omega)]

theorem toUnits?_of_isFinite {x : Binary64} {r : Int} (hx : x.isFinite = true)
    (hplace : x.place? = some (.ofUnits r)) : x.toUnits? = some r := by
  cases x with
  | nan => cases hx
  | infinite negative => cases hx
  | finite negative units fits =>
    have hat := (Option.some.inj hplace).symm
    unfold Place.ofUnits at hat
    split at hat
    · cases hat
    · split at hat
      · cases hat
      · injection hat with hunits
        rw [hunits]
        rfl

/-- The count of units of a product, both factors and the product being rounded. -/
def productUnits (u v : Int) : Int := roundSigned (roundSigned u 1 * roundSigned v 1) one

theorem productUnits_mono {u t v w : Int} (hut : u ≤ t) (ht : 0 ≤ t) (hv : 0 ≤ v) (hvw : v ≤ w) :
    productUnits u v ≤ productUnits t w := by
  apply roundSigned_mono
  calc roundSigned u 1 * roundSigned v 1
      ≤ roundSigned t 1 * roundSigned v 1 :=
        Int.mul_le_mul_of_nonneg_right (roundSigned_mono 1 hut) (roundSigned_nonneg 1 hv)
    _ ≤ roundSigned t 1 * roundSigned w 1 :=
        Int.mul_le_mul_of_nonneg_left (roundSigned_mono 1 hvw) (roundSigned_nonneg 1 ht)

theorem productUnits_nonneg {u v : Int} (hu : 0 ≤ u) (hv : 0 ≤ v) : 0 ≤ productUnits u v :=
  roundSigned_nonneg one (Int.mul_nonneg (roundSigned_nonneg 1 hu) (roundSigned_nonneg 1 hv))

theorem productUnits_bounded {i j : Nat} (hi : i ≤ 2 ^ (53 : Nat)) (hj : j ≤ 2 ^ (53 : Nat)) :
    productUnits (i * one) (j * one) = roundSigned ((i * j : Nat) * one) 1 := by
  have hfactor : (i * one : Int) * (j * one) = (i * j : Nat) * one * one := by
    push_cast
    ring
  rw [productUnits, roundSigned_whole hi, roundSigned_whole hj, hfactor, roundSigned_mul_one]

/-- The product of whole numbers is exact up to `2 ^ 53`. -/
theorem productUnits_whole {i j : Nat} (h : i * j ≤ 2 ^ (53 : Nat)) :
    productUnits (i * one) (j * one) = (i * j : Nat) * one := by
  rcases Nat.eq_zero_or_pos i with rfl | hi
  · simp [productUnits]
  · rcases Nat.eq_zero_or_pos j with rfl | hj
    · simp [productUnits]
    · have hil : i ≤ i * j := Nat.le_mul_of_pos_right i hj
      have hjl : j ≤ i * j := Nat.le_mul_of_pos_left j hi
      rw [productUnits_bounded (by omega) (by omega), roundSigned_whole h]

theorem min_mul_le {i j k : Nat} : min (i * j) k ≤ min i k * min j k := by
  rcases Nat.eq_zero_or_pos i with rfl | hi
  · simp
  · rcases Nat.eq_zero_or_pos j with rfl | hj
    · simp
    · rcases Nat.le_total i k with hik | hik <;> rcases Nat.le_total j k with hjk | hjk
      · rw [Nat.min_eq_left hik, Nat.min_eq_left hjk]
        exact Nat.min_le_left _ _
      · rw [Nat.min_eq_left hik, Nat.min_eq_right hjk]
        exact Nat.le_trans (Nat.min_le_right _ _) (Nat.le_mul_of_pos_left k hi)
      · rw [Nat.min_eq_right hik, Nat.min_eq_left hjk]
        exact Nat.le_trans (Nat.min_le_right _ _) (Nat.le_mul_of_pos_right k hj)
      · rw [Nat.min_eq_right hik, Nat.min_eq_right hjk]
        exact Nat.le_trans (Nat.min_le_right _ _) (Nat.le_mul_self k)

/-- A rounded product of whole numbers is not below the exact one, up to `2 ^ 53`. -/
theorem min_le_productUnits (i j : Nat) :
    (min (i * j) (2 ^ (53 : Nat)) : Nat) * (one : Int) ≤ productUnits (i * one) (j * one) := by
  generalize hbound : 2 ^ (53 : Nat) = bound
  have hwhole {k : Nat} (hk : k ≤ bound) : roundSigned (k * one) 1 = k * one :=
    roundSigned_whole (hbound ▸ hk)
  have hone : (0 : Int) ≤ one := Int.natCast_nonneg one
  have hscale {k l : Nat} (h : k ≤ l) : (k * one : Int) ≤ l * one :=
    Int.mul_le_mul_of_nonneg_right (by exact_mod_cast h) hone
  calc ((min (i * j) bound : Nat) : Int) * one
      = roundSigned ((min (i * j) bound : Nat) * one) 1 := (hwhole (Nat.min_le_right _ _)).symm
    _ ≤ roundSigned ((min i bound * min j bound : Nat) * one) 1 :=
        roundSigned_mono 1 (hscale min_mul_le)
    _ = productUnits ((min i bound : Nat) * one) ((min j bound : Nat) * one) := by
        subst hbound
        exact (productUnits_bounded (Nat.min_le_right _ _) (Nat.min_le_right _ _)).symm
    _ ≤ productUnits (i * one) (j * one) :=
        productUnits_mono (hscale (Nat.min_le_left _ _))
          (Int.mul_nonneg (Int.natCast_nonneg i) hone)
          (Int.mul_nonneg (Int.natCast_nonneg _) hone) (hscale (Nat.min_le_left _ _))

end Binary64

namespace Number

open Binary64

/-- A finite number as an exact count of units. -/
def units? : Number → Option Int
  | .int value => some (value * one)
  | .float value => value.toUnits?

@[simp] theorem units?_int (i : Int) : (Number.int i).units? = some (i * one) := rfl

variable {a b p q w : Number} {u v : Int}

theorem place?_of_units? (h : a.units? = some u) : a.place? = some (.at u) := by
  cases a with
  | int i => exact congrArg (Option.map Place.at) h
  | float x => exact place?_of_toUnits? h

/-- Only the kind of a number is tidied, not where it is. -/
theorem place?_tidy (a : Number) : a.tidy.place? = a.place? := by
  cases a with
  | int value => rfl
  | float x =>
    cases hwhole : x.toInt? with
    | none => rw [tidy, hwhole]
    | some value =>
      have hplace : (Number.int value).place? = some (.at (value * one)) := rfl
      rw [tidy, hwhole, hplace]
      exact (place?_of_toUnits? (toUnits?_of_toInt? hwhole)).symm

theorem units?_of_place? (h : a.place? = some (.at u)) : a.units? = some u := by
  cases a with
  | int i =>
    injection h with h
    injection h with h
    rw [units?, h]
  | float x =>
    cases x with
    | nan => cases h
    | infinite negative => cases negative <;> cases h
    | finite negative units fits =>
      injection h with h
      injection h with h
      rw [← h]
      rfl

/-- Between finite numbers the order is that of their units. -/
theorem le_iff (ha : a.units? = some u) (hb : b.units? = some v) : a.le b = true ↔ u ≤ v := by
  rw [le, place?_of_units? ha, place?_of_units? hb]
  simp [Place.le, Place.lt]

theorem units?_zero : (0 : Number).units? = some 0 :=
  congrArg some (Int.zero_mul one)

theorem zero_le_iff (ha : a.units? = some u) : Number.le 0 a = true ↔ 0 ≤ u :=
  le_iff units?_zero ha

theorem int_le_int {i j : Int} : (Number.int i).le (.int j) = true ↔ i ≤ j := by
  have hone : (0 : Int) < one := by exact_mod_cast one_pos
  rw [le_iff (units?_int i) (units?_int j)]
  exact Int.mul_le_mul_right hone

theorem int_lt_int {i j : Int} : (Number.int i).lt (.int j) = true ↔ i < j := by
  have hone : (0 : Int) < one := by exact_mod_cast one_pos
  rw [lt, place?_of_units? (units?_int i), place?_of_units? (units?_int j)]
  simpa [Place.lt] using Int.mul_lt_mul_right hone

theorem zero_le_int {i : Int} : Number.le 0 (.int i) = true ↔ 0 ≤ i := int_le_int

theorem zero_lt_int {i : Int} : Number.lt 0 (.int i) = true ↔ 0 < i := int_lt_int

/-- A number becomes binary by being rounded. -/
theorem toUnits?_toBinary64 {x : Binary64} (ha : a.units? = some u) (hx : a.toBinary64 = .ok x) :
    x.toUnits? = some (roundSigned u 1) := by
  cases a with
  | int i =>
    obtain rfl := Option.some.inj ha
    simp only [toBinary64] at hx
    split at hx
    · rename_i hfinite
      obtain rfl := Except.ok.inj hx
      exact toUnits?_of_isFinite hfinite (place?_ofInt i)
    · cases hx
  | float y =>
    obtain rfl := Except.ok.inj hx
    rw [roundSigned_of_toUnits? ha]
    exact ha

/-- A product of other than two integers is taken in binary. -/
theorem mul_binary (h : a.mul w = .ok p) (hfloat : ∀ i j, a = .int i → w = .int j → False) :
    ∃ x y, a.toBinary64 = .ok x ∧ w.toBinary64 = .ok y ∧ p = .float (x * y) := by
  have hrounded : (do return .float ((← a.toBinary64) * (← w.toBinary64))) = Except.ok p := by
    cases a with
    | int i =>
      cases w with
      | int j => exact (hfloat i j rfl rfl).elim
      | float y => exact h
    | float x => exact h
  obtain ⟨x, hx, hrounded⟩ := bind_eq_ok.mp hrounded
  obtain ⟨y, hy, hrounded⟩ := bind_eq_ok.mp hrounded
  exact ⟨x, y, hx, hy, (Except.ok.inj hrounded).symm⟩

theorem place?_mul_binary (h : a.mul w = .ok p)
    (hfloat : ∀ i j, a = .int i → w = .int j → False) (ha : a.units? = some u)
    (hw : w.units? = some v) : p.place? = some (.ofUnits (productUnits u v)) := by
  obtain ⟨x, y, hx, hy, rfl⟩ := mul_binary h hfloat
  exact place?_mul (toUnits?_toBinary64 ha hx) (toUnits?_toBinary64 hw hy)

/-- Two to the power of 53: up to there whole numbers are binary numbers. -/
def exactBound : Number := .int (2 ^ (53 : Nat) : Nat)

/-- A number that is not negative becomes infinite or a count of units that is not negative. -/
theorem toBinary64_of_zero_le {x : Binary64} (ha : Number.le 0 a = true)
    (hx : a.toBinary64 = .ok x) : x = .infinite false ∨ ∃ u, x.toUnits? = some u ∧ 0 ≤ u := by
  cases hunits : a.units? with
  | some u =>
    rw [zero_le_iff hunits] at ha
    exact Or.inr ⟨_, toUnits?_toBinary64 hunits hx, roundSigned_nonneg 1 ha⟩
  | none =>
    cases a with
    | int i => cases hunits
    | float y =>
      obtain rfl := Except.ok.inj hx
      cases y with
      | nan => cases ha
      | infinite negative =>
        cases negative with
        | false => exact Or.inl rfl
        | true => cases ha
      | finite negative units fits => cases hunits

/-- Infinity takes a product along, unless the product is no number. -/
theorem mul_of_infinite {x y : Binary64}
    (hx : x = .infinite false ∨ ∃ u, x.toUnits? = some u ∧ 0 ≤ u)
    (hy : y = .infinite false ∨ ∃ u, y.toUnits? = some u ∧ 0 ≤ u) :
    x * y = .nan ∨ x * y = .infinite false ∨
      ∃ u v, x.toUnits? = some u ∧ y.toUnits? = some v ∧ 0 ≤ u ∧ 0 ≤ v := by
  have hsign {s : Bool} {m : Nat} {hm : Fits m} {u : Int}
      (hu : (finite s m hm).toUnits? = some u) (hnonneg : 0 ≤ u) (hzero : m ≠ 0) : s = false := by
    injection hu with hu
    cases s with
    | false => rfl
    | true =>
      rw [if_pos rfl] at hu
      omega
  rcases hx with rfl | ⟨u, hu, hunonneg⟩
  · rcases hy with rfl | ⟨v, hv, hvnonneg⟩
    · exact Or.inr (Or.inl rfl)
    · cases y with
      | nan => cases hv
      | infinite negative => cases hv
      | finite t n hn =>
        by_cases hzero : n = 0
        · exact Or.inl (if_pos hzero)
        · right; left
          rw [hsign hv hvnonneg hzero]
          exact if_neg hzero
  · rcases hy with rfl | ⟨v, hv, hvnonneg⟩
    · cases x with
      | nan => cases hu
      | infinite negative => cases hu
      | finite s m hm =>
        by_cases hzero : m = 0
        · exact Or.inl (if_pos hzero)
        · right; left
          rw [hsign hu hunonneg hzero]
          exact if_neg hzero
    · exact Or.inr (Or.inr ⟨u, v, hu, hv, hunonneg, hvnonneg⟩)

/-- A product of numbers that are not negative is no number, or infinite, or its factors are
finite. -/
theorem mul_cases (ha : Number.le 0 a = true) (hw : Number.le 0 w = true) (h : a.mul w = .ok p) :
    p.place? = none ∨ p.place? = some .above ∨
      ∃ u v, a.units? = some u ∧ w.units? = some v := by
  by_cases hint : ∃ i j, a = .int i ∧ w = .int j
  · obtain ⟨i, j, rfl, rfl⟩ := hint
    exact Or.inr (Or.inr ⟨_, _, rfl, rfl⟩)
  · obtain ⟨x, y, hx, hy, rfl⟩ := mul_binary h fun i j hi hj => hint ⟨i, j, hi, hj⟩
    have hunits {c : Number} {z : Binary64} {r : Int} (hz : c.toBinary64 = .ok z)
        (hr : z.toUnits? = some r) : ∃ s, c.units? = some s := by
      cases c with
      | int i => exact ⟨_, rfl⟩
      | float z' =>
        obtain rfl := Except.ok.inj hz
        exact ⟨r, hr⟩
    rcases mul_of_infinite (toBinary64_of_zero_le ha hx) (toBinary64_of_zero_le hw hy) with
      hnan | hinfinite | ⟨u, v, hu, hv, -⟩
    · exact Or.inl (by rw [place?, hnan]; rfl)
    · exact Or.inr (Or.inl (by rw [place?, hinfinite]; rfl))
    · obtain ⟨s, hs⟩ := hunits hx hu
      obtain ⟨t, ht⟩ := hunits hy hv
      exact Or.inr (Or.inr ⟨s, t, hs, ht⟩)

/-- A product that is a number has a number for its first factor. -/
theorem place?_ne_none_of_mul (h : a.mul w = .ok p) (hp : p.place? ≠ none) : a.place? ≠ none := by
  cases a with
  | int i => exact Option.some_ne_none _
  | float x =>
    obtain ⟨x', y, hx, -, rfl⟩ := mul_binary h fun _ _ hint => by cases hint
    obtain rfl := Except.ok.inj hx
    cases x with
    | nan => exact absurd rfl hp
    | infinite negative => exact Option.some_ne_none _
    | finite negative units fits => exact Option.some_ne_none _

/-- Of two numbers one is not above the other. -/
theorem le_of_not_le (ha : a.place? ≠ none) (hb : b.place? ≠ none) (h : ¬ a.le b = true) :
    b.le a = true := by
  obtain ⟨s, hs⟩ := Option.ne_none_iff_exists'.mp ha
  obtain ⟨t, ht⟩ := Option.ne_none_iff_exists'.mp hb
  simp only [le, hs, ht, Place.le, Bool.not_eq_true', Bool.not_eq_false] at h ⊢
  rw [← Bool.not_eq_true]
  intro hts
  have hself := Place.lt_trans hts h
  rw [Place.lt_irrefl] at hself
  cases hself

/-- Under a weight that is not negative, a number that is not negative does not become so. -/
theorem mul_nonneg (ha : Number.le 0 a = true) (hw : Number.le 0 w = true)
    (h : a.mul w = .ok p) (hp : p.place? ≠ none) : Number.le 0 p = true := by
  have hzero : (0 : Number).place? = some (.at 0) := place?_of_units? units?_zero
  rcases mul_cases ha hw h with hnone | habove | ⟨u, v, hu, hv⟩
  · exact absurd hnone hp
  · rw [le, hzero, habove]
    rfl
  · rw [zero_le_iff hu] at ha
    rw [zero_le_iff hv] at hw
    by_cases hint : ∃ i j, a = .int i ∧ w = .int j
    · obtain ⟨i, j, rfl, rfl⟩ := hint
      obtain rfl := Except.ok.inj h
      rw [← zero_le_iff hu, zero_le_int] at ha
      rw [← zero_le_iff hv, zero_le_int] at hw
      exact zero_le_int.mpr (Int.mul_nonneg ha hw)
    · have hplace := place?_mul_binary h (fun i j hi hj => hint ⟨i, j, hi, hj⟩) hu hv
      have hproduct := productUnits_nonneg ha hw
      rw [le, hzero, hplace]
      exact Place.at_le_ofUnits hproduct hproduct

/-- A product within bounds has factors within bounds. -/
theorem units?_of_mul_lt (ha : Number.le 0 a = true) (hw : Number.le 0 w = true)
    (h : a.mul w = .ok p) (hp : p.lt exactBound = true) :
    ∃ u v, a.units? = some u ∧ w.units? = some v := by
  rcases mul_cases ha hw h with hnone | habove | hunits
  · rw [lt, hnone] at hp
    cases hp
  · rw [lt, habove] at hp
    cases hp
  · exact hunits

theorem mul_le_mul_binary (hut : u ≤ v) (hv : 0 ≤ v) {r : Int} (hr : 0 ≤ r)
    (ha : a.units? = some u) (hb : b.units? = some v) (hw : w.units? = some r)
    (hp : a.mul w = .ok p) (hq : b.mul w = .ok q)
    (hfloat : ∀ j, w = .int j → (∀ i, a ≠ .int i) ∧ ∀ i, b ≠ .int i) : p.le q = true := by
  have hplaceA := place?_mul_binary hp (fun i j hi hj => (hfloat j hj).1 i hi) ha hw
  have hplaceB := place?_mul_binary hq (fun i j hi hj => (hfloat j hj).2 i hi) hb hw
  rw [le, hplaceA, hplaceB]
  exact Place.ofUnits_le_ofUnits (productUnits_mono hut hv hr (Int.le_refl r))

/-- An exact product beside a rounded one that is not greater than the bound. -/
theorem mul_le_mul_exact_binary {i j : Int} {x : Binary64} (hib : i * one ≤ u) (hb : 0 ≤ u)
    (hj : 0 ≤ j) (hx : x.toUnits? = some u) (hq : (Number.float x).mul (.int j) = .ok q)
    (hbound : q.lt exactBound = true) : (Number.int (i * j)).le q = true := by
  have hone : (0 : Int) < one := by exact_mod_cast one_pos
  have hweight : 0 ≤ j * (one : Int) := Int.mul_nonneg hj hone.le
  have hplace := place?_mul_binary hq (fun _ _ h => by cases h) hx (units?_int j)
  have hproduct := productUnits_nonneg hb hweight
  rw [le, hplace]
  apply Place.at_le_ofUnits _ hproduct
  rcases lt_or_ge i 0 with hneg | hi
  · calc i * j * one ≤ 0 :=
        Int.mul_nonpos_of_nonpos_of_nonneg (Int.mul_nonpos_of_nonpos_of_nonneg hneg.le hj) hone.le
      _ ≤ productUnits u (j * one) := hproduct
  · obtain ⟨i, rfl⟩ := Int.eq_ofNat_of_zero_le hi
    obtain ⟨j, rfl⟩ := Int.eq_ofNat_of_zero_le hj
    have hlow : ((Min.min (i * j) (2 ^ (53 : Nat)) : Nat) : Int) * one ≤ productUnits u (j * one) :=
      (min_le_productUnits i j).trans (productUnits_mono hib hb hweight (Int.le_refl _))
    rw [lt, hplace] at hbound
    have hhigh := Place.lt_of_ofUnits_lt hbound (Int.mul_nonneg (Int.natCast_nonneg _) hone.le)
    have hsmall := lt_of_mul_lt_mul_right (hlow.trans_lt hhigh) hone.le
    have hexact : Min.min (i * j) (2 ^ (53 : Nat)) = i * j := by
      have : Min.min (i * j) (2 ^ (53 : Nat)) < 2 ^ (53 : Nat) := by exact_mod_cast hsmall
      omega
    rw [hexact] at hlow
    exact_mod_cast hlow

/-- A rounded product beside an exact one that is not greater than the bound. -/
theorem mul_le_mul_binary_exact {k j : Int} {x : Binary64} (hub : u ≤ k * one) (hk : 0 ≤ k)
    (hj : 0 ≤ j) (hx : x.toUnits? = some u) (hp : (Number.float x).mul (.int j) = .ok p)
    (hbound : (Number.int (k * j)).lt exactBound = true) : p.le (.int (k * j)) = true := by
  have hone : (0 : Int) < one := by exact_mod_cast one_pos
  have hplace := place?_mul_binary hp (fun _ _ h => by cases h) hx (units?_int j)
  obtain ⟨k, rfl⟩ := Int.eq_ofNat_of_zero_le hk
  obtain ⟨j, rfl⟩ := Int.eq_ofNat_of_zero_le hj
  have hsmall : k * j < 2 ^ (53 : Nat) := by
    have := int_lt_int.mp hbound
    exact_mod_cast this
  have hexact := productUnits_whole hsmall.le
  have hproduct : productUnits u (j * one) ≤ (k * j : Nat) * one := by
    rw [← hexact]
    exact productUnits_mono hub (Int.mul_nonneg (Int.natCast_nonneg k) hone.le)
      (Int.mul_nonneg (Int.natCast_nonneg j) hone.le) (Int.le_refl _)
  rw [le, hplace]
  apply Place.ofUnits_le_at (by exact_mod_cast hproduct)
  have hbits : 2 ^ (53 : Nat) * one < limit := by decide +kernel
  have hlimit : k * j * one < limit :=
    Nat.lt_of_le_of_lt (Nat.mul_le_mul_right one hsmall.le) hbits
  exact_mod_cast hlimit

/-- Under a weight that is not negative, the greater number stays the greater one. -/
theorem mul_le_mul (hab : a.le b = true) (ha : a.units? = some u) (hb : Number.le 0 b = true)
    (hw : Number.le 0 w = true) (hp : a.mul w = .ok p) (hq : b.mul w = .ok q)
    (hbound : q.lt exactBound = true) : p.le q = true := by
  obtain ⟨t, v, ht, hv⟩ := units?_of_mul_lt hb hw hq hbound
  rw [le_iff ha ht] at hab
  have hb' := (zero_le_iff ht).mp hb
  have hw' := (zero_le_iff hv).mp hw
  -- only two integers are multiplied exactly; where one side is and the other is not, the bound
  -- makes the rounded product exact enough
  cases w with
  | float z => exact mul_le_mul_binary hab hb' hw' ha ht hv hp hq fun _ h => by cases h
  | int j =>
    rw [zero_le_int] at hw
    cases a with
    | int i =>
      obtain rfl := Except.ok.inj hp
      cases b with
      | int k =>
        obtain rfl := Except.ok.inj hq
        rw [← le_iff ha ht, int_le_int] at hab
        exact int_le_int.mpr (Int.mul_le_mul_of_nonneg_right hab hw)
      | float y =>
        obtain rfl := Option.some.inj ha
        exact mul_le_mul_exact_binary hab hb' hw ht hq hbound
    | float x =>
      cases b with
      | int k =>
        obtain rfl := Except.ok.inj hq
        obtain rfl := Option.some.inj ht
        exact mul_le_mul_binary_exact hab (zero_le_int.mp hb) hw ha hp hbound
      | float y =>
        exact mul_le_mul_binary hab hb' hw' ha ht hv hp hq
          fun _ _ => ⟨fun _ h => (by cases h), fun _ h => by cases h⟩

end Number

end Questionnaire
