import Questionnaire.Proofs.Number.Product

/-!
The order of all numbers, infinite ones included.
-/

namespace Questionnaire

attribute [local irreducible] Binary64.one Binary64.limit

namespace Binary64.Place

variable {p q r : Place}

theorem lt_of_not_le (h : ¬ p.le q = true) : q.lt p = true := by simpa [le] using h

theorem le_of_not_lt (h : ¬ p.lt q = true) : q.le p = true := by simpa [le] using h

theorem lt_of_lt_of_le (hpq : p.lt q = true) (hqr : q.le r = true) : p.lt r = true := by
  have hback : ¬ r.lt q = true := by simpa [le] using hqr
  rcases lt_trichotomy q r with hlt | rfl | hgt
  · exact lt_trans hpq hlt
  · exact hpq
  · exact absurd hgt hback

theorem lt_asymm (h : p.lt q = true) : q.lt p = false := by
  rw [← Bool.not_eq_true]
  intro hback
  simpa [lt_irrefl] using lt_trans h hback

theorem le_iff_lt_or_eq : p.le q = true ↔ p.lt q = true ∨ p = q := by
  rw [le, Bool.not_eq_true']
  constructor
  · intro hback
    rcases lt_trichotomy p q with hlt | heq | hgt
    · exact .inl hlt
    · exact .inr heq
    · rw [hback] at hgt
      cases hgt
  · rintro (hlt | rfl)
    · exact lt_asymm hlt
    · exact lt_irrefl p

/-- Of two places the first is above, at or below the second, and only one of these. -/
theorem count_standing (p q : Place) : [q.lt p, decide (p = q), p.lt q].count true = 1 := by
  rcases lt_trichotomy p q with hlt | rfl | hgt
  · have hne : p ≠ q := by
      rintro rfl
      simp [lt_irrefl] at hlt
    simp [hlt, hne, lt_asymm hlt]
  · simp [lt_irrefl]
  · have hne : p ≠ q := by
      rintro rfl
      simp [lt_irrefl] at hgt
    simp [hgt, hne, lt_asymm hgt]

theorem le_trans (hpq : p.le q = true) (hqr : q.le r = true) : p.le r = true := by
  by_contra hlt
  have hrq := lt_of_lt_of_le (lt_of_not_le hlt) hpq
  simp [le, hrq] at hqr

end Binary64.Place

namespace Number

open Binary64

variable {a b c : Number}

/-- Only what is not a number has no place. -/
theorem place?_eq_none_iff : a.place? = none ↔ a.isNaN = true := by
  cases a with
  | int value => simp [place?, isNaN]
  | float x => cases x <;> simp [place?, Binary64.place?, isNaN, Binary64.isNaN]

theorem place?_ne_none_iff : a.place? ≠ none ↔ a.isNaN = false := by
  rw [Ne, place?_eq_none_iff, Bool.not_eq_true]

theorem lt_of_not_le (ha : a.place? ≠ none) (hb : b.place? ≠ none) (h : ¬ a.le b = true) :
    b.lt a = true := by
  obtain ⟨p, hp⟩ := Option.ne_none_iff_exists'.mp ha
  obtain ⟨q, hq⟩ := Option.ne_none_iff_exists'.mp hb
  rw [le, hp, hq] at h
  rw [lt, hp, hq]
  exact Place.lt_of_not_le h

theorem le_of_not_lt (ha : a.place? ≠ none) (hb : b.place? ≠ none) (h : ¬ a.lt b = true) :
    b.le a = true := by
  obtain ⟨p, hp⟩ := Option.ne_none_iff_exists'.mp ha
  obtain ⟨q, hq⟩ := Option.ne_none_iff_exists'.mp hb
  rw [lt, hp, hq] at h
  rw [le, hp, hq]
  exact Place.le_of_not_lt h

theorem exists_place?_of_le (h : a.le b = true) :
    ∃ p q, a.place? = some p ∧ b.place? = some q ∧ p.le q = true := by
  unfold le at h
  split at h
  · rename_i p q hp hq
    exact ⟨p, q, hp, hq, h⟩
  · cases h

theorem exists_place?_of_lt (h : a.lt b = true) :
    ∃ p q, a.place? = some p ∧ b.place? = some q ∧ p.lt q = true := by
  unfold lt at h
  split at h
  · rename_i p q hp hq
    exact ⟨p, q, hp, hq, h⟩
  · cases h

theorem le_of_place? {p q : Place} (ha : a.place? = some p) (hb : b.place? = some q)
    (h : p.le q = true) : a.le b = true := by
  rw [le, ha, hb]
  exact h

/-- What is compared has a place. -/
theorem place?_ne_none_of_le (h : a.le b = true) : a.place? ≠ none ∧ b.place? ≠ none := by
  obtain ⟨p, q, hp, hq, -⟩ := exists_place?_of_le h
  simp [hp, hq]

theorem le_refl (ha : a.place? ≠ none) : a.le a = true := by
  obtain ⟨p, hp⟩ := Option.ne_none_iff_exists'.mp ha
  exact le_of_place? hp hp (by simp [Place.le, Place.lt_irrefl])

theorem le_of_lt (h : a.lt b = true) : a.le b = true := by
  obtain ⟨p, q, hp, hq, hpq⟩ := exists_place?_of_lt h
  refine le_of_place? hp hq (Place.le_of_not_lt fun hqp => ?_)
  simpa [Place.lt_irrefl] using Place.lt_trans hpq hqp

/-- Of two numbers with places one is below the other exactly if that one is not up to it. -/
theorem lt_iff_not_le (ha : a.place? ≠ none) (hb : b.place? ≠ none) :
    a.lt b = true ↔ ¬ b.le a = true := by
  obtain ⟨p, hp⟩ := Option.ne_none_iff_exists'.mp ha
  obtain ⟨q, hq⟩ := Option.ne_none_iff_exists'.mp hb
  rw [le, lt, hp, hq]
  simp [Place.le]

theorem le_trans (hab : a.le b = true) (hbc : b.le c = true) : a.le c = true := by
  obtain ⟨p, q, hp, hq, hpq⟩ := exists_place?_of_le hab
  obtain ⟨q', r, hq', hr, hqr⟩ := exists_place?_of_le hbc
  cases hq.symm.trans hq'
  exact le_of_place? hp hr (Place.le_trans hpq hqr)

theorem lt_of_lt_of_le (hab : a.lt b = true) (hbc : b.le c = true) : a.lt c = true := by
  obtain ⟨p, q, hp, hq, hpq⟩ := exists_place?_of_lt hab
  obtain ⟨q', r, hq', hr, hqr⟩ := exists_place?_of_le hbc
  cases hq.symm.trans hq'
  rw [lt, hp, hr]
  exact Place.lt_of_lt_of_le hpq hqr

theorem lt_of_le_of_lt (hab : a.le b = true) (hbc : b.lt c = true) : a.lt c = true := by
  have ha := (place?_ne_none_of_le hab).1
  have hc := (place?_ne_none_of_le (le_of_lt hbc)).2
  rw [lt_iff_not_le ha hc]
  intro hca
  have hbb := lt_of_lt_of_le hbc (le_trans hca hab)
  exact (lt_iff_not_le (place?_ne_none_of_le hab).2 (place?_ne_none_of_le hab).2).mp hbb
    (le_refl (place?_ne_none_of_le hab).2)

theorem max_le_iff (ha : a.place? ≠ none) (hb : b.place? ≠ none) :
    (a.max b).le c = true ↔ a.le c = true ∧ b.le c = true := by
  rw [max]
  by_cases hlt : a.lt b = true
  · rw [if_pos hlt]
    exact ⟨fun hbc => ⟨le_trans (le_of_lt hlt) hbc, hbc⟩, fun h => h.2⟩
  · rw [if_neg hlt]
    exact ⟨fun hac => ⟨hac, le_trans (le_of_not_lt ha hb hlt) hac⟩, fun h => h.1⟩

theorem le_min_iff (ha : a.place? ≠ none) (hb : b.place? ≠ none) :
    c.le (a.min b) = true ↔ c.le a = true ∧ c.le b = true := by
  rw [min]
  by_cases hlt : b.lt a = true
  · rw [if_pos hlt]
    exact ⟨fun hcb => ⟨le_trans hcb (le_of_lt hlt), hcb⟩, fun h => h.2⟩
  · rw [if_neg hlt]
    exact ⟨fun hca => ⟨hca, le_trans hca (le_of_not_lt hb ha hlt)⟩, fun h => h.1⟩

theorem le_iff_lt_or_same : a.le b = true ↔ a.lt b = true ∨ a.same b = true := by
  rw [le, lt, same]
  cases a.place? with
  | none => simp
  | some p =>
      cases b.place? with
      | none => simp
      | some q => simpa using Place.le_iff_lt_or_eq

theorem same_comm : a.same b = b.same a := by
  rw [same, same]
  cases a.place? with
  | none => cases b.place? <;> rfl
  | some p =>
      cases b.place? with
      | none => rfl
      | some q => exact decide_eq_decide.mpr eq_comm

/-- Of two numbers the first is above, at or below the second, and only one of these. -/
theorem count_standing (ha : a.place? ≠ none) (hb : b.place? ≠ none) :
    [b.lt a, a.same b, a.lt b].count true = 1 := by
  obtain ⟨p, hp⟩ := Option.ne_none_iff_exists'.mp ha
  obtain ⟨q, hq⟩ := Option.ne_none_iff_exists'.mp hb
  rw [lt, same, lt, hp, hq]
  exact Place.count_standing p q

/-- What is not a number is neither above nor at nor below a number. -/
theorem count_standing_of_isNaN (ha : a.isNaN = true) :
    [b.lt a, a.same b, a.lt b].count true = 0 := by
  rw [lt, same, lt, place?_eq_none_iff.mpr ha]
  cases b.place? <;> rfl

/-- What is not a number does not become one by an addition. -/
theorem place?_of_add_one {x next : Number} (hx : x.isNaN = true) (h : x.add 1 = .ok next) :
    next.place? = none := by
  cases x with
  | int value => cases hx
  | float x =>
    cases x with
    | nan =>
      obtain ⟨_, hx, h⟩ := bind_eq_ok.mp h
      cases hx
      obtain ⟨y, hy, h⟩ := bind_eq_ok.mp h
      cases h
      cases y <;> rfl
    | infinite negative => cases hx
    | finite negative units fits => cases hx

end Number

end Questionnaire
