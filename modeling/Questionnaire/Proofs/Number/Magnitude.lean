import Mathlib.Tactic.Ring
import Questionnaire.Proofs.Number.Counted

/-!
How large and how fine numbers get.  Numbers within bounds have sums and products, and a quotient
where the divisor is not too small, as long as the bounds stay within the format; and on multiples
of a power of two the sums stay such multiples, so that a positive one cannot be too small.
-/

namespace Questionnaire

attribute [local instance] Binary64.corePow

namespace Binary64

theorem one_eq : one = 2 ^ (1074 : Nat) := rfl

theorem limit_eq : limit = 2 ^ (2098 : Nat) := rfl

theorem pow_dvd_one {k : Nat} (h : k ≤ 1074) : 2 ^ k ∣ one := by
  have hsplit : one = 2 ^ (k + (1074 - k)) := by rw [one_eq, Nat.add_sub_cancel' h]
  rw [hsplit, Nat.pow_add]
  exact Nat.dvd_mul_right _ _

theorem pow_lt_limit {k : Nat} (h : k < 2098) : 2 ^ k < limit := by
  have hsplit : limit = 2 ^ (k + (2098 - k)) := by rw [limit_eq, Nat.add_sub_cancel' h.le]
  rw [hsplit]
  exact Nat.pow_lt_pow_right (by omega) (by omega)

end Binary64

attribute [local irreducible] Binary64.one Binary64.limit

namespace Binary64

theorem exists_toUnits?_iff {x : Binary64} : (∃ u, x.toUnits? = some u) ↔ x.isFinite = true := by
  cases x <;> simp [toUnits?, isFinite]

theorem toUnits?_of_place? {x : Binary64} {u : Int} (h : x.place? = some (.at u)) :
    x.toUnits? = some u := Number.units?_of_place? (a := .float x) h

/-- A finite number has as many units as its place. -/
theorem units_eq_of_place? {x : Binary64} {u r : Int} (hx : x.toUnits? = some u)
    (hplace : x.place? = some (.ofUnits r)) : u = r := by
  have hfinite := exists_toUnits?_iff.mp ⟨u, hx⟩
  exact Option.some.inj (hx.symm.trans (toUnits?_of_isFinite hfinite hplace))

theorem Place.ofUnits_of_natAbs_lt {u : Int} (h : u.natAbs < limit) : Place.ofUnits u = .at u := by
  unfold Place.ofUnits
  rw [if_neg (by omega), if_neg (by omega)]

theorem toUnits?_of_natAbs_lt {x : Binary64} {u : Int} (hplace : x.place? = some (.ofUnits u))
    (h : u.natAbs < limit) : x.toUnits? = some u :=
  toUnits?_of_place? (Place.ofUnits_of_natAbs_lt h ▸ hplace)

/-- A few times a power of two is counted exactly. -/
theorem fits_mul_pow {i g : Nat} (hi : i ≤ 2 ^ (53 : Nat)) (hg : g + 53 < 2098) :
    Fits (i * 2 ^ g) := by
  refine ⟨step_dvd_mul_step g i hi, ?_⟩
  calc i * 2 ^ g ≤ 2 ^ (53 : Nat) * 2 ^ g := Nat.mul_le_mul_right _ hi
    _ = 2 ^ (53 + g) := (Nat.pow_add 2 53 g).symm
    _ < limit := pow_lt_limit (by omega)

theorem fits_mul_pow_one {i k : Nat} (hi : i ≤ 2 ^ (53 : Nat)) (hk : k ≤ 970) :
    Fits (i * 2 ^ k * one) := by
  have hshift : i * 2 ^ k * one = i * 2 ^ (k + 1074) := by
    rw [one_eq, Nat.mul_assoc, ← Nat.pow_add]
  rw [hshift]
  exact fits_mul_pow hi (by omega)

theorem fits_pow_one {k : Nat} (hk : k ≤ 970) : Fits (2 ^ k * one) := by
  have hfits := fits_mul_pow_one (i := 1) Nat.one_le_two_pow hk
  rwa [Nat.one_mul] at hfits

theorem natAbs_roundSigned (n : Int) (d : Nat) :
    (roundSigned n d).natAbs = roundUnits n.natAbs d := by
  unfold roundSigned
  split <;> simp

/-- What is not above a bound that is counted exactly is not rounded above it. -/
theorem natAbs_roundSigned_le {n : Int} {d bound : Nat} (hd : 0 < d) (hfits : Fits bound)
    (h : n.natAbs ≤ bound * d) : (roundSigned n d).natAbs ≤ bound := by
  have hbound : roundUnits (bound * d) d = bound := by
    have hscaled := roundUnits_mul_right bound 1 hd
    rw [Nat.one_mul, roundUnits_of_fits hfits] at hscaled
    exact hscaled
  rw [natAbs_roundSigned]
  exact (roundUnits_mono d h).trans_eq hbound

/-- A rounded quantity within a bound is a number within the bound. -/
theorem exists_toUnits?_of_place? {x : Binary64} {n : Int} {d bound : Nat} (hd : 0 < d)
    (hfits : Fits bound) (hplace : x.place? = some (.ofUnits (roundSigned n d)))
    (h : n.natAbs ≤ bound * d) : ∃ u, x.toUnits? = some u ∧ u.natAbs ≤ bound := by
  have hbound := natAbs_roundSigned_le hd hfits h
  exact ⟨_, toUnits?_of_natAbs_lt hplace (Nat.lt_of_le_of_lt hbound hfits.2), hbound⟩

/-- Rounding keeps the multiples of a power of two. -/
theorem dvd_roundUnits {g n : Nat} (h : 2 ^ g ∣ n) : 2 ^ g ∣ roundUnits n 1 := by
  rcases Nat.le_total (spacing n) g with hfine | hcoarse
  · rwa [roundUnits_of_dvd (Nat.dvd_trans (Nat.pow_dvd_pow 2 hfine) h)]
  · have hstep : 2 ^ g ∣ 2 ^ spacing (n / 1) := by
      rw [Nat.div_one]
      exact Nat.pow_dvd_pow 2 hcoarse
    exact Nat.dvd_trans hstep (Nat.dvd_mul_left _ _)

theorem dvd_roundSigned {g : Nat} {n : Int} (h : ((2 ^ g : Nat) : Int) ∣ n) :
    ((2 ^ g : Nat) : Int) ∣ roundSigned n 1 := by
  have hrounded : ((2 ^ g : Nat) : Int) ∣ roundUnits n.natAbs 1 :=
    Int.natCast_dvd_natCast.mpr (dvd_roundUnits (Int.natCast_dvd.mp h))
  unfold roundSigned
  split
  · exact (Int.dvd_neg).mpr hrounded
  · exact hrounded

end Binary64

namespace Number

open Binary64

/-- A number of a magnitude that is at most the bound. -/
def Within (bound : Nat) (a : Number) : Prop := ∃ u, a.units? = some u ∧ u.natAbs ≤ bound * one

section Within

variable {a b : Number} {m n : Nat}

theorem Within.mono (h : a.Within m) (hmn : m ≤ n) : a.Within n := by
  obtain ⟨u, hu, hle⟩ := h
  exact ⟨u, hu, hle.trans (Nat.mul_le_mul_right one hmn)⟩

theorem within_int {i : Int} (h : i.natAbs ≤ m) : (Number.int i).Within m := by
  refine ⟨_, units?_int i, ?_⟩
  rw [Int.natAbs_mul, Int.natAbs_natCast]
  exact Nat.mul_le_mul_right one h

theorem units?_tidy (a : Number) : a.tidy.units? = a.units? := by
  have hplace := place?_tidy a
  cases ha : a.units? with
  | some u =>
      rw [place?_of_units? ha] at hplace
      exact units?_of_place? hplace
  | none =>
      cases htidy : a.tidy.units? with
      | none => rfl
      | some u =>
          rw [place?_of_units? htidy] at hplace
          rw [units?_of_place? hplace.symm] at ha
          cases ha

theorem Within.tidy (h : a.Within m) : a.tidy.Within m := by
  rwa [Within, units?_tidy]

theorem exists_toBinary64 (h : a.Within m) (hfits : Fits (m * one)) :
    ∃ x, a.toBinary64 = .ok x ∧ (Number.float x).Within m := by
  obtain ⟨u, hu, hle⟩ := h
  cases a with
  | float x => exact ⟨x, rfl, u, hu, hle⟩
  | int i =>
      obtain rfl := Option.some.inj hu
      have hbound : (i * one : Int).natAbs ≤ m * one * 1 := by rwa [Nat.mul_one]
      obtain ⟨v, hv, hle⟩ :=
        exists_toUnits?_of_place? Nat.one_pos hfits (place?_ofInt i) hbound
      have hfinite : (Binary64.ofInt i).isFinite = true := by
        cases hx : Binary64.ofInt i <;> rw [hx] at hv <;> first | rfl | cases hv
      exact ⟨.ofInt i, if_pos hfinite, v, hv, hle⟩

/-- An operation on numbers with binary counterparts is exact on integers, and rounded on others. -/
theorem combine_cases (exact : Int → Int → Int) (rounded : Binary64 → Binary64 → Binary64)
    {x y : Binary64} (ha : a.toBinary64 = .ok x) (hb : b.toBinary64 = .ok y) :
    (∃ i j, a = .int i ∧ b = .int j ∧ combine exact rounded a b = .ok (.int (exact i j)))
      ∨ combine exact rounded a b = .ok (.float (rounded x y)) := by
  have hfloat : (do return .float (rounded (← a.toBinary64) (← b.toBinary64)) : Except Fault Number)
      = .ok (.float (rounded x y)) := by
    rw [ha, hb]
    rfl
  cases a with
  | int i =>
      cases b with
      | int j => exact .inl ⟨i, j, rfl, rfl, rfl⟩
      | float z => exact .inr hfloat
  | float z => exact .inr hfloat

theorem add_within (ha : a.Within m) (hb : b.Within n) (hm : Fits (m * one)) (hn : Fits (n * one))
    (hsum : Fits ((m + n) * one)) : ∃ c, a.add b = .ok c ∧ c.Within (m + n) := by
  obtain ⟨x, hx, v, hv, hvm⟩ := exists_toBinary64 ha hm
  obtain ⟨y, hy, w, hw, hwn⟩ := exists_toBinary64 hb hn
  rcases combine_cases (· + ·) (· + ·) hx hy with ⟨i, j, rfl, rfl, hadd⟩ | hadd
  · obtain ⟨s, hs, hsm⟩ := ha
    obtain ⟨t, ht, htn⟩ := hb
    obtain rfl := Option.some.inj hs
    obtain rfl := Option.some.inj ht
    refine ⟨.int (i + j), hadd, _, units?_int _, ?_⟩
    rw [Int.add_mul, Nat.add_mul]
    exact (Int.natAbs_add_le _ _).trans (Nat.add_le_add hsm htn)
  · have hbound : (v + w).natAbs ≤ (m + n) * one * 1 := by
      rw [Nat.mul_one, Nat.add_mul]
      exact (Int.natAbs_add_le _ _).trans (Nat.add_le_add hvm hwn)
    exact ⟨.float (x + y), hadd, exists_toUnits?_of_place? Nat.one_pos hsum (place?_add hv hw)
      hbound⟩

theorem mul_within (ha : a.Within m) (hb : b.Within n) (hm : Fits (m * one)) (hn : Fits (n * one))
    (hproduct : Fits (m * n * one)) : ∃ c, a.mul b = .ok c ∧ c.Within (m * n) := by
  obtain ⟨x, hx, v, hv, hvm⟩ := exists_toBinary64 ha hm
  obtain ⟨y, hy, w, hw, hwn⟩ := exists_toBinary64 hb hn
  rcases combine_cases (· * ·) (· * ·) hx hy with ⟨i, j, rfl, rfl, hmul⟩ | hmul
  · obtain ⟨s, hs, hsm⟩ := ha
    obtain ⟨t, ht, htn⟩ := hb
    obtain rfl := Option.some.inj hs
    obtain rfl := Option.some.inj ht
    rw [Int.natAbs_mul, Int.natAbs_natCast] at hsm htn
    refine ⟨.int (i * j), hmul, within_int ?_⟩
    rw [Int.natAbs_mul]
    exact Nat.mul_le_mul (Nat.le_of_mul_le_mul_right hsm Binary64.one_pos)
      (Nat.le_of_mul_le_mul_right htn Binary64.one_pos)
  · have hbound : (v * w).natAbs ≤ m * n * one * one := by
      rw [Int.natAbs_mul]
      calc v.natAbs * w.natAbs ≤ m * one * (n * one) := Nat.mul_le_mul hvm hwn
        _ = m * n * one * one := by ring
    exact ⟨.float (x * y), hmul, exists_toUnits?_of_place? Binary64.one_pos
      hproduct (place?_mul hv hw) hbound⟩

/-- What holds of no numbers' sum, and after each further number of the next sum, holds of the sum
of all. -/
theorem exists_sum_of_step (Holds : Nat → Number → Prop) {numbers : List Number} (hzero : Holds 0 0)
    (hstep : ∀ (count : Nat) (sum a : Number), count < numbers.length → a ∈ numbers →
      Holds count sum → ∃ next, sum.add a = .ok next ∧ Holds (count + 1) next) :
    ∃ total, Number.sum numbers = .ok total ∧ Holds numbers.length total := by
  have hfold (seen rest : List Number) (sum : Number) (hsplit : numbers = seen ++ rest)
      (hsum : Holds seen.length sum) :
      ∃ total, rest.foldlM Number.add sum = .ok total ∧ Holds numbers.length total := by
    induction rest generalizing seen sum with
    | nil =>
        rw [List.append_nil] at hsplit
        exact ⟨sum, rfl, hsplit ▸ hsum⟩
    | cons a rest ih =>
        have hlength : numbers.length = seen.length + (rest.length + 1) := by
          rw [hsplit, List.length_append, List.length_cons]
        have hmem : a ∈ numbers := hsplit ▸ List.mem_append_right seen List.mem_cons_self
        obtain ⟨next, hadd, hnext⟩ := hstep seen.length sum a (by omega) hmem hsum
        obtain ⟨total, htotal, hall⟩ := ih (seen ++ [a]) next (by simp [hsplit])
          (by simpa using hnext)
        rw [List.foldlM_cons, hadd]
        exact ⟨total, htotal, hall⟩
  exact hfold [] numbers 0 rfl hzero

/-- A few numbers within a bound have a sum, within as many times the bound. -/
theorem sum_within {numbers : List Number} {k : Nat} (h : ∀ a ∈ numbers, a.Within (2 ^ k))
    (hlength : numbers.length ≤ 2 ^ (53 : Nat)) (hk : k ≤ 970) :
    ∃ total, Number.sum numbers = .ok total ∧ total.Within (2 ^ (53 : Nat) * 2 ^ k) := by
  have hsum : ∃ total, Number.sum numbers = .ok total
      ∧ total.Within (numbers.length * 2 ^ k) := by
    refine exists_sum_of_step (fun count sum => sum.Within (count * 2 ^ k))
      ⟨0, units?_zero, Nat.zero_le _⟩ fun count sum a hcount ha hwithin => ?_
    have hnext : (count + 1) * 2 ^ k = count * 2 ^ k + 2 ^ k := Nat.succ_mul _ _
    have hfits : Fits ((count + 1) * 2 ^ k * one) := fits_mul_pow_one (by omega) hk
    rw [hnext] at hfits ⊢
    exact add_within hwithin (h a ha) (fits_mul_pow_one (by omega) hk) (fits_pow_one hk) hfits
  obtain ⟨total, htotal, hle⟩ := hsum
  exact ⟨total, htotal, hle.mono (Nat.mul_le_mul_right _ hlength)⟩

/-- A number that is kept between zero and a bound is within the bound. -/
theorem clamp_within {value upper : Number} (h : upper.Within m) :
    (value.clamp upper).Within m := by
  obtain ⟨u, hu, hle⟩ := h
  have hzero : (0 : Number).Within m := ⟨0, units?_zero, Nat.zero_le _⟩
  rw [clamp, Number.max, Number.min]
  by_cases hover : upper.lt value = true
  · rw [if_pos hover]
    split
    · exact ⟨u, hu, hle⟩
    · exact hzero
  · rw [if_neg hover]
    split
    · rename_i hpositive
      have hcounted : value.IsCounted := isCounted_of_between hpositive hover ⟨u, hu⟩
      obtain ⟨v, hv⟩ := hcounted
      have hbelow := le_of_not_lt (IsCounted.place?_ne_none ⟨u, hu⟩)
        (IsCounted.place?_ne_none ⟨v, hv⟩) hover
      have habove := le_of_lt hpositive
      rw [le_iff hv hu] at hbelow
      rw [zero_le_iff hv] at habove
      exact ⟨v, hv, by omega⟩
    · exact hzero

/-- A number that is within the bound if it is an integer. -/
def IntWithin (bound : Nat) (a : Number) : Prop := ∀ i : Int, a = .int i → i.natAbs ≤ bound

theorem IntWithin.exists_toBinary64 (h : a.IntWithin m) (hfits : Fits (m * one)) :
    ∃ x, a.toBinary64 = .ok x := by
  cases a with
  | float x => exact ⟨x, rfl⟩
  | int i =>
      obtain ⟨x, hx, -⟩ := Number.exists_toBinary64 (within_int (h i rfl)) hfits
      exact ⟨x, hx⟩

theorem exists_add (ha : a.IntWithin m) (hb : b.IntWithin n) (hm : Fits (m * one))
    (hn : Fits (n * one)) : ∃ c, a.add b = .ok c ∧ c.IntWithin (m + n) := by
  obtain ⟨x, hx⟩ := ha.exists_toBinary64 hm
  obtain ⟨y, hy⟩ := hb.exists_toBinary64 hn
  rcases combine_cases (· + ·) (· + ·) hx hy with ⟨i, j, rfl, rfl, hadd⟩ | hadd
  · refine ⟨.int (i + j), hadd, ?_⟩
    rintro _ ⟨rfl⟩
    exact (Int.natAbs_add_le i j).trans (Nat.add_le_add (ha i rfl) (hb j rfl))
  · exact ⟨.float (x + y), hadd, nofun⟩

/-- A few numbers have a sum if the integers among them are within a bound. -/
theorem exists_sum {numbers : List Number} {k : Nat} (h : ∀ a ∈ numbers, a.IntWithin (2 ^ k))
    (hlength : numbers.length ≤ 2 ^ (53 : Nat)) (hk : k ≤ 970) :
    ∃ total, Number.sum numbers = .ok total := by
  have hzero : (0 : Number).IntWithin (0 * 2 ^ k) := by
    rintro _ ⟨rfl⟩
    exact Nat.zero_le _
  have hsum : ∃ total, Number.sum numbers = .ok total
      ∧ total.IntWithin (numbers.length * 2 ^ k) := by
    refine exists_sum_of_step (fun count sum => sum.IntWithin (count * 2 ^ k)) hzero
      fun count sum a hcount ha hwithin => ?_
    rw [Nat.succ_mul]
    exact exists_add hwithin (h a ha) (fits_mul_pow_one (by omega) hk) (fits_pow_one hk)
  exact hsum.imp fun total htotal => htotal.1

end Within

/-- A multiple of `2 ^ -places`, if it is finite. -/
def OnGrid (places : Nat) (a : Number) : Prop :=
  ∀ u, a.units? = some u → ((2 ^ (1074 - places) : Nat) : Int) ∣ u

section Grid

variable {a b c : Number} {p q : Nat}

theorem OnGrid.mono (h : a.OnGrid p) (hpq : p ≤ q) : a.OnGrid q := fun u hu =>
  Int.dvd_trans (Int.natCast_dvd_natCast.mpr (Nat.pow_dvd_pow 2 (by omega))) (h u hu)

theorem onGrid_int (i : Int) : (Number.int i).OnGrid p := by
  intro u hu
  obtain rfl := Option.some.inj hu
  have hone : 2 ^ (1074 - p) ∣ one := pow_dvd_one (Nat.sub_le _ _)
  exact Int.dvd_mul_of_dvd_right (Int.natCast_dvd_natCast.mpr hone)

theorem OnGrid.tidy (h : a.OnGrid p) : a.tidy.OnGrid p := by
  rwa [OnGrid, units?_tidy]

theorem OnGrid.toBinary64 (h : a.OnGrid p) {x : Binary64} (hx : a.toBinary64 = .ok x) :
    (Number.float x).OnGrid p := by
  cases a with
  | float y => exact Except.ok.inj hx ▸ h
  | int i =>
      intro u hu
      have hunits := toUnits?_toBinary64 (units?_int i) hx
      obtain rfl := Option.some.inj (hunits.symm.trans hu)
      exact dvd_roundSigned (h _ (units?_int i))

/-- The result of an operation is exact on integers, and rounded on others. -/
theorem of_combine {exact : Int → Int → Int} {rounded : Binary64 → Binary64 → Binary64}
    (h : combine exact rounded a b = .ok c) :
    (∃ i j, a = .int i ∧ b = .int j ∧ c = .int (exact i j))
      ∨ ∃ x y, a.toBinary64 = .ok x ∧ b.toBinary64 = .ok y ∧ c = .float (rounded x y) := by
  by_cases hint : ∃ i j, a = .int i ∧ b = .int j
  · obtain ⟨i, j, rfl, rfl⟩ := hint
    exact .inl ⟨i, j, rfl, rfl, (Except.ok.inj h).symm⟩
  · have hfloat : (do return .float (rounded (← a.toBinary64) (← b.toBinary64))) = Except.ok c := by
      cases a with
      | float x => exact h
      | int i =>
          cases b with
          | float y => exact h
          | int j => exact absurd ⟨i, j, rfl, rfl⟩ hint
    obtain ⟨x, hx, hfloat⟩ := bind_eq_ok.mp hfloat
    obtain ⟨y, hy, hfloat⟩ := bind_eq_ok.mp hfloat
    exact .inr ⟨x, y, hx, hy, (Except.ok.inj hfloat).symm⟩

/-- A finite sum is one of finite numbers. -/
theorem finite_of_add {x y : Binary64} {u : Int} (h : (x + y).toUnits? = some u) :
    ∃ v w, x.toUnits? = some v ∧ y.toUnits? = some w := by
  cases x with
  | nan => cases h
  | infinite s =>
      cases y with
      | nan => cases h
      | infinite t =>
          change (if s = t then infinite s else nan : Binary64).toUnits? = some u at h
          split at h <;> cases h
      | finite t w fits => cases h
  | finite s v fits =>
      cases y with
      | nan => cases h
      | infinite t => cases h
      | finite t w fits' => exact ⟨_, _, rfl, rfl⟩

/-- A finite product is one of finite numbers. -/
theorem finite_of_mul {x y : Binary64} {u : Int} (h : (x * y).toUnits? = some u) :
    ∃ v w, x.toUnits? = some v ∧ y.toUnits? = some w := by
  cases x with
  | nan => cases h
  | infinite s =>
      cases y with
      | nan => cases h
      | infinite t => cases h
      | finite t w fits =>
          change (if w = 0 then nan else infinite (s != t) : Binary64).toUnits? = some u at h
          split at h <;> cases h
  | finite s v fits =>
      cases y with
      | nan => cases h
      | infinite t =>
          change (if v = 0 then nan else infinite (s != t) : Binary64).toUnits? = some u at h
          split at h <;> cases h
      | finite t w fits' => exact ⟨_, _, rfl, rfl⟩

theorem add_onGrid (ha : a.OnGrid p) (hb : b.OnGrid p) (h : a.add b = .ok c) : c.OnGrid p := by
  rcases of_combine h with ⟨i, j, rfl, rfl, rfl⟩ | ⟨x, y, hx, hy, rfl⟩
  · exact onGrid_int (i + j)
  · intro u hu
    obtain ⟨v, w, hv, hw⟩ := finite_of_add hu
    obtain rfl := units_eq_of_place? hu (place?_add hv hw)
    exact dvd_roundSigned (Int.dvd_add (ha.toBinary64 hx v hv) (hb.toBinary64 hy w hw))

/-- Multiples of two powers of two have a product that is a multiple of the product of these. -/
theorem mul_onGrid (ha : a.OnGrid p) (hb : b.OnGrid q) (h : a.mul b = .ok c)
    (hpq : p + q ≤ 1074) : c.OnGrid (p + q) := by
  rcases of_combine h with ⟨i, j, rfl, rfl, rfl⟩ | ⟨x, y, hx, hy, rfl⟩
  · exact onGrid_int (i * j)
  · intro u hu
    obtain ⟨v, w, hv, hw⟩ := finite_of_mul hu
    obtain rfl := units_eq_of_place? hu (place?_mul hv hw)
    obtain ⟨s, rfl⟩ := ha.toBinary64 hx v hv
    obtain ⟨t, rfl⟩ := hb.toBinary64 hy w hw
    have hsteps : 2 ^ (1074 - p) * 2 ^ (1074 - q) = 2 ^ (1074 - (p + q)) * one := by
      rw [one_eq, ← Nat.pow_add, ← Nat.pow_add]
      congr 1
      omega
    have hproduct : ((2 ^ (1074 - p) : Nat) : Int) * s * (((2 ^ (1074 - q) : Nat) : Int) * t)
        = ((2 ^ (1074 - (p + q)) : Nat) : Int) * (s * t) * one := by
      calc _ = ((2 ^ (1074 - p) * 2 ^ (1074 - q) : Nat) : Int) * (s * t) := by push_cast; ring
        _ = _ := by rw [hsteps]; push_cast; ring
    rw [hproduct, roundSigned_mul_one]
    exact dvd_roundSigned (Int.dvd_mul_right _ _)

theorem foldlM_add_onGrid {numbers : List Number} {start total : Number} (hstart : start.OnGrid p)
    (h : ∀ a ∈ numbers, a.OnGrid p) (htotal : numbers.foldlM Number.add start = .ok total) :
    total.OnGrid p := by
  induction numbers generalizing start with
  | nil => exact Except.ok.inj htotal ▸ hstart
  | cons a rest ih =>
      rw [List.foldlM_cons] at htotal
      obtain ⟨next, hadd, hrest⟩ := bind_eq_ok.mp htotal
      exact ih (add_onGrid hstart (h a List.mem_cons_self) hadd)
        (fun b hb => h b (List.mem_cons_of_mem a hb)) hrest

theorem sum_onGrid {numbers : List Number} {total : Number} (h : ∀ a ∈ numbers, a.OnGrid p)
    (htotal : Number.sum numbers = .ok total) : total.OnGrid p :=
  foldlM_add_onGrid (onGrid_int 0) h htotal

end Grid

/-- A number of a magnitude that is at most `2 ^ bits`. -/
def Bounded (bits : Nat) (a : Number) : Prop := a.Within (2 ^ bits)

/-- A multiple of `2 ^ -places` of a magnitude that is at most `2 ^ bits`. -/
structure Measured (places bits : Nat) (a : Number) : Prop where
  bounded : a.Bounded bits
  onGrid : a.OnGrid places

section Measured

variable {a b : Number} {p q j k : Nat}

theorem Bounded.mono (h : a.Bounded j) (hjk : j ≤ k) : a.Bounded k :=
  Within.mono h (Nat.pow_le_pow_right (by omega) hjk)

theorem Measured.mono (h : a.Measured p j) (hpq : p ≤ q) (hjk : j ≤ k) : a.Measured q k :=
  ⟨h.bounded.mono hjk, h.onGrid.mono hpq⟩

theorem Measured.tidy (h : a.Measured p k) : a.tidy.Measured p k :=
  ⟨Within.tidy h.bounded, h.onGrid.tidy⟩

theorem measured_int {i : Int} (h : i.natAbs ≤ 2 ^ k) : (Number.int i).Measured p k :=
  ⟨within_int h, onGrid_int i⟩

theorem measured_zero : (0 : Number).Measured p k := measured_int (Nat.zero_le _)

theorem bounded_zero : (0 : Number).Bounded k := (measured_zero (p := 0)).bounded

theorem mul_bounded (ha : a.Bounded j) (hb : b.Bounded k) (hjk : j + k ≤ 970) :
    ∃ c, a.mul b = .ok c ∧ c.Bounded (j + k) := by
  have hfits := fits_pow_one hjk
  unfold Bounded
  rw [Nat.pow_add] at hfits ⊢
  exact mul_within ha hb (fits_pow_one (by omega)) (fits_pow_one (by omega)) hfits

theorem mul_measured (ha : a.Measured p j) (hb : b.Measured q k) (hpq : p + q ≤ 1074)
    (hjk : j + k ≤ 970) : ∃ c, a.mul b = .ok c ∧ c.Measured (p + q) (j + k) := by
  obtain ⟨c, hmul, hbounded⟩ := mul_bounded ha.bounded hb.bounded hjk
  exact ⟨c, hmul, hbounded, mul_onGrid ha.onGrid hb.onGrid hmul hpq⟩

theorem sum_bounded {numbers : List Number} (h : ∀ a ∈ numbers, a.Bounded k)
    (hlength : numbers.length ≤ 2 ^ (53 : Nat)) (hk : k ≤ 970) :
    ∃ total, Number.sum numbers = .ok total ∧ total.Bounded (53 + k) := by
  obtain ⟨total, htotal, hwithin⟩ := sum_within h hlength hk
  rw [← Nat.pow_add] at hwithin
  exact ⟨total, htotal, hwithin⟩

theorem sum_measured {numbers : List Number} (h : ∀ a ∈ numbers, a.Measured p k)
    (hlength : numbers.length ≤ 2 ^ (53 : Nat)) (hk : k ≤ 970) :
    ∃ total, Number.sum numbers = .ok total ∧ total.Measured p (53 + k) := by
  obtain ⟨total, htotal, hbounded⟩ := sum_bounded (fun a ha => (h a ha).bounded) hlength hk
  exact ⟨total, htotal, hbounded, sum_onGrid (fun a ha => (h a ha).onGrid) htotal⟩

end Measured

section Quotient

variable {a b : Number} {m n k : Nat}

theorem place?_ofRatio (score : Int) {most : Int} (hmost : 0 < most) :
    (ofRatio (decide (score < 0) != decide (most < 0)) score.natAbs most.natAbs).place?
      = some (.ofUnits (roundSigned (score * one) most.natAbs)) := by
  have hsign : decide (most < 0) = false := decide_eq_false (by omega)
  have habs : (score * one : Int).natAbs = score.natAbs * one := by
    rw [Int.natAbs_mul, Int.natAbs_natCast]
  rw [ofRatio, place?_ofUnits, roundSigned, habs, hsign, Bool.bne_false]
  simp only [mul_natCast_neg_iff Binary64.one_pos, decide_eq_true_eq]

theorem place?_div {x : Binary64} {u : Int} (hx : x.toUnits? = some u) {v : Nat} (fits : Fits v)
    (hv : 0 < v) :
    (x / finite false v fits).place? = some (.ofUnits (roundSigned (u * one) v)) := by
  cases x with
  | nan => cases hx
  | infinite negative => cases hx
  | finite negative units fits' =>
      rw [← Option.some.inj hx]
      change (if v = 0 then _ else ofRatio (negative != false) units v : Binary64).place? = _
      have hsigned : (if negative then -(units : Int) else units) * one
          = if negative then -((units * one : Nat) : Int) else (units * one : Nat) := by
        cases negative <;> simp
      rw [if_neg hv.ne', ofRatio, place?_ofUnits, hsigned, roundSigned_signed, Bool.bne_false]

theorem eq_finite_of_pos {x : Binary64} {v : Int} (hx : x.toUnits? = some v) (hv : 0 < v) :
    ∃ fits, x = .finite false v.toNat fits := by
  cases x with
  | nan => cases hx
  | infinite negative => cases hx
  | finite negative units fits =>
      obtain rfl := Option.some.inj hx
      cases negative with
      | true => exact absurd hv (by simp)
      | false => exact ⟨fits, rfl⟩

/-- Two numbers that are not both integers are divided in binary. -/
theorem div_of_toBinary64 {x y : Binary64} (ha : a.toBinary64 = .ok x) (hb : b.toBinary64 = .ok y)
    (hint : ¬ ∃ i j, a = .int i ∧ b = .int j) : a.div b = .ok (x / y) := by
  have hfloat : (do return (← a.toBinary64) / (← b.toBinary64) : Except Fault Binary64)
      = .ok (x / y) := by
    rw [ha, hb]
    rfl
  cases a with
  | float z => exact hfloat
  | int i =>
      cases b with
      | float z => exact hfloat
      | int j => exact absurd ⟨i, j, rfl, rfl⟩ hint

/-- A number within a bound has a quotient with one that is `2 ^ -k` or more. -/
theorem div_within (ha : a.Within m) (hb : b.Within n) {v : Int} (hunits : b.units? = some v)
    (hlarge : ((2 ^ (1074 - k) : Nat) : Int) ≤ v) (hk : k ≤ 1074) (hm : Fits (m * one))
    (hn : Fits (n * one)) (hquotient : Fits (m * 2 ^ k * one)) :
    ∃ x, a.div b = .ok x ∧ (Number.float x).Within (m * 2 ^ k) := by
  have hstep : 0 < 2 ^ (1074 - k) := Nat.pow_pos (by omega)
  have hone : one = 2 ^ k * 2 ^ (1074 - k) := by
    rw [one_eq, ← Nat.pow_add, Nat.add_sub_cancel' hk]
  have hfits : Fits (2 ^ (1074 - k)) := by
    have hcounted := fits_mul_pow (i := 1) (g := 1074 - k) Nat.one_le_two_pow (by omega)
    rwa [Nat.one_mul] at hcounted
  generalize 2 ^ (1074 - k) = least at hlarge hstep hone hfits
  by_cases hint : ∃ i j, a = .int i ∧ b = .int j
  · obtain ⟨i, j, rfl, rfl⟩ := hint
    obtain ⟨u, hu, hle⟩ := ha
    obtain rfl := Option.some.inj hu
    obtain rfl := Option.some.inj hunits
    have hj : 0 < j := by
      refine Int.lt_of_mul_lt_mul_right ?_ (Int.natCast_nonneg one)
      rw [Int.zero_mul]
      omega
    have hbound : (i * one : Int).natAbs ≤ m * 2 ^ k * one * j.natAbs := by
      calc (i * one : Int).natAbs ≤ m * one := hle
        _ ≤ m * 2 ^ k * one :=
          Nat.mul_le_mul_right one (Nat.le_mul_of_pos_right m (Nat.pow_pos (by omega)))
        _ ≤ m * 2 ^ k * one * j.natAbs := Nat.le_mul_of_pos_right _ (Int.natAbs_pos.mpr hj.ne')
    obtain ⟨w, hw, hwithin⟩ := exists_toUnits?_of_place? (Int.natAbs_pos.mpr hj.ne') hquotient
      (place?_ofRatio i hj) hbound
    refine ⟨_, ?_, w, hw, hwithin⟩
    simp only [Number.div, if_neg hj.ne', exists_toUnits?_iff.mp ⟨w, hw⟩, if_true]
  · obtain ⟨x, hx, u, hu, hum⟩ := exists_toBinary64 ha hm
    obtain ⟨y, hy, -⟩ := exists_toBinary64 hb hn
    -- rounding does not make the divisor smaller than the least one
    have hleast : roundSigned least 1 = least := by
      rw [roundSigned, if_neg (Int.not_lt.mpr (Int.natCast_nonneg least)), Int.natAbs_natCast,
        roundUnits_of_fits hfits]
    have hrounded := toUnits?_toBinary64 hunits hy
    have hlarge : (least : Int) ≤ roundSigned v 1 := hleast ▸ roundSigned_mono 1 hlarge
    generalize roundSigned v 1 = divisor at hrounded hlarge
    obtain ⟨fits, rfl⟩ := eq_finite_of_pos hrounded (by omega)
    have hbound : (u * one : Int).natAbs ≤ m * 2 ^ k * one * divisor.toNat := by
      rw [Int.natAbs_mul, Int.natAbs_natCast]
      calc u.natAbs * one ≤ m * one * (2 ^ k * least) := Nat.mul_le_mul hum hone.le
        _ = m * 2 ^ k * one * least := by ring
        _ ≤ m * 2 ^ k * one * divisor.toNat := Nat.mul_le_mul_left _ (by omega)
    exact ⟨_, div_of_toBinary64 hx hy hint, exists_toUnits?_of_place? (by omega) hquotient
      (place?_div hu fits (by omega)) hbound⟩

end Quotient

end Number

end Questionnaire
