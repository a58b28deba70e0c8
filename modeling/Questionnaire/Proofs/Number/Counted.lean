import Questionnaire.Proofs.Number.Order

/-!
Numbers with a count of units: their order, the greatest of several, numbers kept within a range,
and sums.  Integers are added up without rounding.
-/

namespace Questionnaire

attribute [local irreducible] Binary64.one Binary64.limit

namespace Number

/-- A number with a count of units. -/
def IsCounted (a : Number) : Prop := ∃ units, a.units? = some units

instance (a : Number) : Decidable a.IsCounted :=
  decidable_of_iff (a.units?.isSome = true) Option.isSome_iff_exists

theorem isCounted_int (i : Int) : (Number.int i).IsCounted := ⟨_, units?_int i⟩

theorem isCounted_zero : (0 : Number).IsCounted := ⟨_, units?_zero⟩

variable {a b c : Number}

theorem IsCounted.place?_ne_none (ha : a.IsCounted) : a.place? ≠ none := by
  obtain ⟨u, hu⟩ := ha
  simp [place?_of_units? hu]

theorem floor_of_units? {u : Int} (h : a.units? = some u) :
    a.floor = .ok (u.fdiv Binary64.one) := by
  cases a with
  | int i =>
    have hone : (Binary64.one : Int) ≠ 0 := by exact_mod_cast Binary64.one_pos.ne'
    obtain rfl := Option.some.inj h
    rw [Int.mul_fdiv_cancel _ hone]
    rfl
  | float x =>
    cases x with
    | nan => cases h
    | infinite negative => cases h
    | finite negative units fits =>
      obtain rfl := Option.some.inj h
      rfl

/-- The units of a number with a count of them. -/
def units (a : Number) : Int := a.units?.getD 0

theorem IsCounted.units?_eq (ha : a.IsCounted) : a.units? = some a.units := by
  obtain ⟨u, hu⟩ := ha
  rw [units, hu]
  rfl

theorem IsCounted.le_iff (ha : a.IsCounted) (hb : b.IsCounted) :
    a.le b = true ↔ a.units ≤ b.units := Number.le_iff ha.units?_eq hb.units?_eq

theorem IsCounted.lt_iff (ha : a.IsCounted) (hb : b.IsCounted) :
    a.lt b = true ↔ a.units < b.units := by
  rw [lt_iff_not_le ha.place?_ne_none hb.place?_ne_none, hb.le_iff ha, not_le]

/-- A number with a count of units has a greatest integer that is not above it. -/
theorem IsCounted.exists_floor (ha : a.IsCounted) :
    ∃ whole, a.floor = .ok whole ∧ ∀ i : Int, (Number.int i).le a = true ↔ i ≤ whole := by
  have hone : (0 : Int) < Binary64.one := by exact_mod_cast Binary64.one_pos
  obtain ⟨u, hu⟩ := ha
  have hfloor : a.floor = .ok (u.fdiv Binary64.one) := floor_of_units? hu
  refine ⟨_, hfloor, fun i => ?_⟩
  rw [Number.le_iff (units?_int i) hu, Int.fdiv_eq_ediv_of_nonneg _ hone.le,
    Int.le_ediv_iff_mul_le hone]

/-- The greater of two numbers is one of them and not below either. -/
theorem max_spec (ha : a.IsCounted) (hb : b.IsCounted) :
    (a.max b).IsCounted ∧ a.le (a.max b) = true ∧ b.le (a.max b) = true := by
  rw [max]
  by_cases hlt : a.lt b = true
  · rw [if_pos hlt]
    exact ⟨hb, le_of_lt hlt, le_refl hb.place?_ne_none⟩
  · rw [if_neg hlt]
    exact ⟨ha, le_refl ha.place?_ne_none,
      le_of_not_lt ha.place?_ne_none hb.place?_ne_none hlt⟩

theorem foldl_max_mem (first : Number) (rest : List Number) :
    rest.foldl Number.max first ∈ first :: rest := by
  induction rest generalizing first with
  | nil => exact List.mem_cons_self
  | cons next rest ih =>
      rcases List.mem_cons.mp (ih (first.max next)) with hhead | hrest
      · rw [List.foldl_cons, hhead, Number.max]
        split
        · exact List.mem_cons_of_mem first List.mem_cons_self
        · exact List.mem_cons_self
      · exact List.mem_cons_of_mem first (List.mem_cons_of_mem next hrest)

theorem foldl_max_spec (values : List Number) (hvalues : ∀ value ∈ values, value.IsCounted)
    (first : Number) (hfirst : first.IsCounted) :
    (values.foldl Number.max first).IsCounted
      ∧ ∀ value ∈ first :: values, value.le (values.foldl Number.max first) = true := by
  induction values generalizing first with
  | nil =>
    refine ⟨hfirst, fun value hvalue => ?_⟩
    rw [List.mem_singleton.mp hvalue]
    exact le_refl hfirst.place?_ne_none
  | cons next rest ih =>
    have hnext := hvalues next (List.mem_cons_self ..)
    have hrest := fun value hvalue => hvalues value (List.mem_cons_of_mem next hvalue)
    obtain ⟨hmax, hlow, hhigh⟩ := max_spec hfirst hnext
    obtain ⟨hcounted, hle⟩ := ih hrest (first.max next) hmax
    have hstep := hle (first.max next) (List.mem_cons_self ..)
    refine ⟨hcounted, fun value hvalue => ?_⟩
    rcases List.mem_cons.mp hvalue with rfl | hvalue
    · exact le_trans hlow hstep
    · rcases List.mem_cons.mp hvalue with rfl | hvalue
      · exact le_trans hhigh hstep
      · exact hle value (List.mem_cons_of_mem _ hvalue)

/-- What is above zero and not above a number with a count of units has one too. -/
theorem isCounted_of_between (hpositive : Number.lt 0 a = true) (hover : ¬ b.lt a = true)
    (hb : b.IsCounted) : a.IsCounted := by
  obtain ⟨v, hv⟩ := hb
  rw [lt, place?_of_units? units?_zero] at hpositive
  rw [lt, place?_of_units? hv] at hover
  cases hplace : a.place? with
  | none =>
    rw [hplace] at hpositive
    cases hpositive
  | some place =>
    rw [hplace] at hpositive hover
    cases place with
    | below => cases hpositive
    | «at» units => exact ⟨units, units?_of_place? hplace⟩
    | above => exact absurd rfl hover

/-- A number kept within a range does not lie above it. -/
theorem clamp_spec {value upper : Number} (hupper : upper.IsCounted)
    (hnonneg : Number.le 0 upper = true) :
    (value.clamp upper).IsCounted ∧ (value.clamp upper).le upper = true := by
  have hkept {c : Number} (hc : c.IsCounted) (hle : c.le upper = true) :
      (Number.max 0 c).IsCounted ∧ (Number.max 0 c).le upper = true := by
    refine ⟨(max_spec isCounted_zero hc).1, ?_⟩
    rw [max]
    split
    · exact hle
    · exact hnonneg
  rw [clamp, min]
  by_cases hover : upper.lt value = true
  · rw [if_pos hover]
    exact hkept hupper (le_refl hupper.place?_ne_none)
  · rw [if_neg hover, max]
    by_cases hpositive : Number.lt 0 value = true
    · rw [if_pos hpositive]
      have hvalue : value.IsCounted := isCounted_of_between hpositive hover hupper
      exact ⟨hvalue, le_of_not_lt hupper.place?_ne_none hvalue.place?_ne_none hover⟩
    · rw [if_neg hpositive]
      exact ⟨isCounted_zero, hnonneg⟩

/-- A number kept within a range from zero is not below zero, whatever it was. -/
theorem zero_le_clamp (value : Number) {upper : Number} :
    Number.le 0 (value.clamp upper) = true := by
  rw [clamp, max]
  split
  · rename_i hpositive
    exact le_of_lt hpositive
  · exact le_refl isCounted_zero.place?_ne_none

theorem toBinary64_zero :
    (0 : Number).toBinary64 = .ok (.finite false 0 Binary64.fits_zero) := by
  decide +kernel

theorem tidy_of_units?_zero (h : a.units? = some 0) : a.tidy = 0 := by
  cases a with
  | int i =>
    have hone : (Binary64.one : Int) ≠ 0 := by exact_mod_cast Binary64.one_pos.ne'
    obtain rfl := (Int.mul_eq_zero.mp (Option.some.inj h)).resolve_right hone
    rfl
  | float x =>
    have hwhole : x.toInt? = some 0 := by
      rw [Binary64.toInt?, show x.toUnits? = some 0 from h]
      simp
    rw [tidy, hwhole]
    rfl

/-- Nothing is nothing under every finite weight. -/
theorem exists_zero_mul (hb : b.IsCounted) :
    ∃ product, (0 : Number).mul b = .ok product ∧ product.tidy = 0 := by
  obtain ⟨v, hv⟩ := hb
  cases b with
  | int j => exact ⟨_, rfl, congrArg Number.int (Int.zero_mul j)⟩
  | float y =>
    have hzero : (Binary64.finite false 0 Binary64.fits_zero).toUnits? = some 0 := rfl
    have hproduct : (0 : Number).mul (.float y)
        = .ok (.float (Binary64.finite false 0 Binary64.fits_zero * y)) :=
      bind_eq_ok.mpr ⟨_, toBinary64_zero, rfl⟩
    have hplace := Binary64.place?_mul hzero hv
    rw [Int.zero_mul, Binary64.roundSigned_zero, Binary64.Place.ofUnits_of_toUnits? hzero] at hplace
    exact ⟨_, hproduct, tidy_of_units?_zero (units?_of_place? hplace)⟩

/-- Nothing and a number together are that number. -/
theorem zero_add_spec {sum : Number} (ha : a.IsCounted) (h : (0 : Number).add a = .ok sum) :
    sum.units? = a.units? := by
  cases a with
  | int i =>
    obtain rfl := Except.ok.inj h
    change (int (0 + i)).units? = _
    rw [Int.zero_add]
  | float x =>
    change (do return .float ((← (0 : Number).toBinary64) + x)) = Except.ok sum at h
    rw [toBinary64_zero] at h
    obtain rfl := Except.ok.inj h
    obtain ⟨u, hu⟩ := ha
    have hplace := Binary64.place?_add
      (show (Binary64.finite false 0 Binary64.fits_zero).toUnits? = some 0 from rfl) hu
    rw [Int.zero_add, Binary64.roundSigned_of_toUnits? hu, Binary64.Place.ofUnits_of_toUnits? hu]
      at hplace
    rw [hu]
    exact units?_of_place? hplace

/-- Integers are added up exactly. -/
theorem sum_int (values : List Int) : Number.sum (values.map .int) = .ok (.int values.sum) := by
  have hfold (start : Int) : (values.map Number.int).foldlM Number.add (.int start)
      = .ok (.int (start + values.sum)) := by
    induction values generalizing start with
    | nil => simp [pure, Except.pure]
    | cons value rest ih =>
      change (rest.map Number.int).foldlM Number.add (.int (start + value)) = _
      rw [ih, List.sum_cons, Int.add_assoc]
  have hzero := hfold 0
  rwa [Int.zero_add] at hzero

theorem exists_foldl_max_int (first : Int) (values : List Int) :
    ∃ best, (values.map Number.int).foldl Number.max (.int first) = .int best := by
  induction values generalizing first with
  | nil => exact ⟨first, rfl⟩
  | cons value rest ih =>
    rw [List.map_cons, List.foldl_cons, max]
    split
    · exact ih value
    · exact ih first

end Number

end Questionnaire
