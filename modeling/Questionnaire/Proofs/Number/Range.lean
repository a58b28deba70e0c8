import Questionnaire.Proofs.Number.Counted

/-!
The range of the binary format.  An integer has a finite binary counterpart exactly if its magnitude
is below `firstTooLarge`, and from there on the integers lie beyond every finite binary number.
-/

namespace Questionnaire

attribute [local instance] Binary64.corePow

attribute [local irreducible] Binary64.one Binary64.limit

/-- The first integer that is not rounded to a finite number. -/
def firstTooLarge : Nat := 2 ^ (1024 : Nat) - 2 ^ (970 : Nat)

theorem isFinite_ofInt_iff {i : Int} :
    (Binary64.ofInt i).isFinite = true ↔ i.natAbs < firstTooLarge := by
  have hfinite : (Binary64.ofInt i).isFinite = true ↔
      Binary64.roundUnits (i.natAbs * Binary64.one) 1 < Binary64.limit := by
    unfold Binary64.ofInt Binary64.ofUnits
    split <;> simp [Binary64.isFinite, *]
  have hlast : Binary64.roundUnits ((firstTooLarge - 1) * Binary64.one) 1 < Binary64.limit := by
    decide +kernel
  have hfirst : Binary64.limit ≤ Binary64.roundUnits (firstTooLarge * Binary64.one) 1 := by
    decide +kernel
  rw [hfinite]
  constructor
  · intro hrounded
    by_contra hlarge
    have hmono := Binary64.roundUnits_mono 1
      (Nat.mul_le_mul_right Binary64.one (Nat.le_of_not_lt hlarge))
    omega
  · intro hsmall
    have hmono := Binary64.roundUnits_mono 1
      (Nat.mul_le_mul_right Binary64.one (Nat.le_sub_one_of_lt hsmall))
    omega

theorem ofUnits_of_not_isFinite {negative : Bool} {n d : Nat}
    (h : ¬ (Binary64.ofUnits negative n d).isFinite = true) :
    Binary64.ofUnits negative n d = .infinite negative := by
  rw [Binary64.ofUnits] at h ⊢
  by_cases hlt : Binary64.roundUnits n d < Binary64.limit
  · rw [dif_pos hlt] at h
    exact absurd rfl h
  · rw [dif_neg hlt]

theorem ofInt_of_firstTooLarge_le {i : Int} (h : firstTooLarge ≤ i.natAbs) :
    Binary64.ofInt i = .infinite (decide (i < 0)) := by
  apply ofUnits_of_not_isFinite
  intro hfinite
  exact Nat.not_lt.mpr h (isFinite_ofInt_iff.mp hfinite)

/-- An integer is not too large to be compared in binary; any other number can be. -/
def Number.IsUsable (limit : Number) : Prop := ∀ i, limit = .int i → i.natAbs < firstTooLarge

theorem Number.toBinary64_eq_error_iff {a : Number} {cause : Fault} :
    a.toBinary64 = .error cause ↔ cause = .outOfRange ∧ ¬ a.IsUsable := by
  cases a with
  | float x => simp [toBinary64, IsUsable]
  | int i =>
      rw [toBinary64, IsUsable]
      simp only [isFinite_ofInt_iff]
      split
      · rename_i hsmall
        simp [hsmall]
      · rename_i hlarge
        simp [hlarge, eq_comm]

theorem Number.exists_toBinary64_iff {a : Number} :
    (∃ x, a.toBinary64 = .ok x) ↔ a.IsUsable := by
  cases h : a.toBinary64 with
  | ok x =>
      refine ⟨fun _ => ?_, fun _ => ⟨x, rfl⟩⟩
      by_contra hunusable
      cases h.symm.trans (toBinary64_eq_error_iff.mpr ⟨rfl, hunusable⟩)
  | error cause => simp [(toBinary64_eq_error_iff.mp h).2]

namespace Number

variable {a b : Number}

theorem toBinary64_failsOnly : FailsOnly [.outOfRange] a.toBinary64 :=
  fun _ hcause => List.mem_singleton.mpr (toBinary64_eq_error_iff.mp hcause).1

theorem combine_failsOnly {exact : Int → Int → Int} {rounded : Binary64 → Binary64 → Binary64} :
    FailsOnly [.outOfRange] (combine exact rounded a b) := by
  have hfloat : FailsOnly [.outOfRange]
      (do return .float (rounded (← a.toBinary64) (← b.toBinary64)) : Except Fault Number) :=
    toBinary64_failsOnly.bind fun _ _ => toBinary64_failsOnly.bind fun _ _ => .ok
  cases a with
  | float x => exact hfloat
  | int i =>
      cases b with
      | float y => exact hfloat
      | int j => exact .ok

theorem compactText_failsOnly : FailsOnly [.outOfRange] a.compactText := toBinary64_failsOnly.map

/-- A number has a compact text exactly if it has a binary counterpart. -/
theorem exists_compactText_iff : (∃ text, a.compactText = .ok text) ↔ a.IsUsable := by
  rw [← exists_toBinary64_iff]
  simp only [compactText, map_eq_ok]
  constructor
  · rintro ⟨text, x, hx, -⟩
    exact ⟨x, hx⟩
  · rintro ⟨x, hx⟩
    exact ⟨_, x, hx, rfl⟩

/-- What is made of two compact texts exists exactly if both numbers have a binary counterpart. -/
theorem exists_compactTexts_iff {α : Type} {f : String → String → α} :
    (∃ x, (do return f (← a.compactText) (← b.compactText)) = Except.ok x)
      ↔ a.IsUsable ∧ b.IsUsable := by
  simp only [bind_eq_ok, ← exists_compactText_iff]
  constructor
  · rintro ⟨_, start, hstart, stop, hstop, -⟩
    exact ⟨⟨start, hstart⟩, stop, hstop⟩
  · rintro ⟨⟨start, hstart⟩, stop, hstop⟩
    exact ⟨_, start, hstart, stop, hstop, rfl⟩

theorem isUsable_of_between (hlow : Number.le 0 a = true)
    (hhigh : a.lt (.int firstTooLarge) = true) : a.IsUsable := by
  rintro i rfl
  have := zero_le_int.mp hlow
  have := int_lt_int.mp hhigh
  omega

/-- A finite binary number is below the integers that are too large for the format. -/
theorem float_lt_int {x : Binary64} (hx : (Number.float x).IsCounted) {i : Int}
    (h : firstTooLarge ≤ i) : (Number.float x).lt (.int i) = true := by
  have hbound : Binary64.greatest < firstTooLarge * Binary64.one := by decide +kernel
  have hlarge : (firstTooLarge * Binary64.one : Int) ≤ i * Binary64.one :=
    Int.mul_le_mul_of_nonneg_right h (Int.natCast_nonneg _)
  cases x with
  | nan =>
      obtain ⟨u, hu⟩ := hx
      cases hu
  | infinite negative =>
      obtain ⟨u, hu⟩ := hx
      cases hu
  | finite negative units fits =>
      have hunits := Binary64.le_greatest fits
      have hlt : (if negative then -(units : Int) else units) < i * Binary64.one := by
        split <;> omega
      simpa [lt, place?, Binary64.place?, Binary64.Place.lt] using hlt

end Number

end Questionnaire
