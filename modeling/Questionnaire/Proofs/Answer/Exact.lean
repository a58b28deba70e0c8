import Mathlib.Data.Set.List
import Questionnaire.Proofs.Answer.Verdict
import Questionnaire.Proofs.Number.Denotation

/-!
How exact the checks of steps and totals are.  Within the working precision of decimal arithmetic
they are: a value is on a step if its distance from the lower end is a whole multiple of the step,
and points make up a total if their exact sum is the total, in whatever order they are listed.  Past
the precision they are not.
-/

namespace Questionnaire.AnswerCheck

open Decimal (IsPrecise precision value)

section Steps

variable {low step : Number} {x : Binary64} {l s v : ℚ}

theorem onStep_eq_valid_iff :
    onStep low step x = .valid x ↔ isOnStep low step (.float x) = .ok true := by
  rw [onStep, byRule_eq_valid_iff]
  cases isOnStep low step (.float x) with
  | error cause => simp [bind, Except.bind]
  | ok reached => cases reached <;> simp [bind, Except.bind, pure, Except.pure, Validated.issue]

theorem onStep_eq_fault_iff_isOnStep {cause : Fault} : onStep low step x = .fault cause ↔
    isOnStep low step (.float x) = .error cause ∧ cause ≠ .noSuchValue := by
  rw [onStep_eq_fault_iff, isOnStep_eq_error_iff]

/-- A distance that the precision has digits enough for is exact. -/
theorem exists_isOnStep_eq (hlow : low.denoted? = some l) (hstep : step.HasText)
    (hvalue : (Number.float x).denoted? = some v) (hprecise : IsPrecise (v - l)) :
    ∃ distance : Decimal, distance.toRat? = some (v - l)
      ∧ isOnStep low step (.float x) = distance.isMultipleOf (.ofNumber step) := by
  obtain ⟨hshort, hlow⟩ := Number.denoted?_eq_some_iff.mp hlow
  obtain ⟨-, hvalue⟩ := Number.denoted?_eq_some_iff.mp hvalue
  obtain ⟨distance, rounded, hsub, hrounded, hrounds⟩ := Decimal.exists_sub hvalue hlow
  rw [hrounds.eq_of_isPrecise hprecise] at hrounded
  refine ⟨distance, hrounded, ?_⟩
  rw [isOnStep_of_hasText hshort, hsub, decimalOf_of_hasText hstep]
  rfl

/-- The steps to a value are counted exactly, unless there are too many of them. -/
theorem onStep_exact (hlow : low.denoted? = some l) (hstep : step.denoted? = some s)
    (hvalue : (Number.float x).denoted? = some v) (hprecise : IsPrecise (v - l)) :
    (∀ cause, onStep low step x = .fault cause ↔
        cause = .noDecimalResult ∧ 10 ^ precision * |s| ≤ |v - l|)
      ∧ (onStep low step x = .valid x ↔
        |v - l| < 10 ^ precision * |s| ∧ ∃ k : ℤ, v - l = k * s) := by
  obtain ⟨hshort, hstep⟩ := Number.denoted?_eq_some_iff.mp hstep
  obtain ⟨distance, hdistance, hcheck⟩ := exists_isOnStep_eq hlow hshort hvalue hprecise
  constructor
  · intro cause
    rw [onStep_eq_fault_iff_isOnStep, hcheck, Decimal.isMultipleOf_eq_error_iff,
      Decimal.lacksRemainder_iff hdistance hstep, and_iff_left_iff_imp]
    rintro ⟨rfl, -⟩
    nofun
  · rw [onStep_eq_valid_iff, hcheck, Decimal.isMultipleOf_eq_true_iff hdistance hstep]

end Steps

/-- The sum of what the points of an allocation denote. -/
def exactTotal (allocation : Entries Number) : ℚ :=
  (allocation.map fun entry => entry.2.denoted?.getD 0).sum

section Totals

variable {total : Number} {allocation : Entries Number} {unit : ℤ}

theorem sumsTo_eq_valid_iff : sumsTo total allocation = .valid allocation ↔
    (∀ entry ∈ allocation, ¬ entry.2.lt 0 = true) ∧ (∀ entry ∈ allocation, entry.2.HasText)
      ∧ total.HasText ∧ ∃ allocated,
        Decimal.sum (allocation.map fun entry => .ofNumber entry.2) = .ok allocated
          ∧ allocated.same (.ofNumber total) = true := by
  unfold sumsTo
  split
  · rename_i hbelow
    obtain ⟨entry, hentry, hlt⟩ := List.any_eq_true.mp hbelow
    exact iff_of_false nofun fun h => h.1 entry hentry hlt
  · rename_i hnonneg
    have hall : ∀ entry ∈ allocation, ¬ entry.2.lt 0 = true := fun entry hentry hlt =>
      hnonneg (List.any_eq_true.mpr ⟨entry, hentry, hlt⟩)
    rw [and_iff_right hall, byRule_eq_valid_iff]
    constructor
    · intro hvalid
      obtain ⟨terms, hterms, hvalid⟩ := bind_eq_ok.mp hvalid
      obtain ⟨allocated, hsum, hvalid⟩ := bind_eq_ok.mp hvalid
      obtain ⟨most, hmost, hvalid⟩ := bind_eq_ok.mp hvalid
      obtain ⟨hshort, rfl⟩ := mapM_decimalOf_eq_ok_iff.mp hterms
      obtain ⟨htotal, rfl⟩ := decimalOf_eq_ok_iff.mp hmost
      split at hvalid
      · rename_i hsame
        exact ⟨hshort, htotal, allocated, hsum, hsame⟩
      · cases hvalid
    · rintro ⟨hshort, htotal, allocated, hsum, hsame⟩
      refine bind_eq_ok.mpr ⟨_, mapM_decimalOf_eq_ok_iff.mpr ⟨hshort, rfl⟩,
        bind_eq_ok.mpr ⟨allocated, hsum,
          bind_eq_ok.mpr ⟨_, decimalOf_of_hasText htotal, ?_⟩⟩⟩
      rw [if_pos hsame]
      rfl

/-- Points that count one power of ten and are not negative are counted by natural numbers. -/
theorem exists_counts
    (hgrid : ∀ entry ∈ allocation, ∃ k : ℤ, entry.2.denoted? = some (value k unit))
    (hnonneg : ∀ entry ∈ allocation, ∀ q, entry.2.denoted? = some q → 0 ≤ q) :
    ∃ counts : List ℕ, (allocation.map fun entry => entry.2.denoted?)
      = counts.map fun (count : ℕ) => some (value count unit) := by
  have hrange : (allocation.map fun entry => entry.2.denoted?)
      ∈ Set.range (List.map fun (count : ℕ) => some (value count unit)) := by
    rw [Set.range_list_map]
    intro quantity hquantity
    obtain ⟨entry, hentry, rfl⟩ := List.mem_map.mp hquantity
    obtain ⟨k, hk⟩ := hgrid entry hentry
    have hle := hnonneg entry hentry _ hk
    rw [value, mul_nonneg_iff_of_pos_right (Decimal.ten_zpow_pos unit)] at hle
    obtain ⟨count, rfl⟩ := Int.eq_ofNat_of_zero_le (show 0 ≤ k by exact_mod_cast hle)
    exact ⟨count, hk.symm⟩
  obtain ⟨counts, hcounts⟩ := hrange
  exact ⟨counts, hcounts.symm⟩

/-- Points on a common grid are added up exactly below the power of ten where the precision ends. -/
theorem sumsTo_exact
    (hgrid : ∀ entry ∈ allocation, ∃ k : ℤ, entry.2.denoted? = some (value k unit))
    (htotal : ∀ t, total.denoted? = some t → t < (10 : ℚ) ^ (precision + unit)) :
    sumsTo total allocation = .valid allocation ↔
      (∀ entry ∈ allocation, ∀ q, entry.2.denoted? = some q → 0 ≤ q)
        ∧ total.denoted? = some (exactTotal allocation) := by
  have hsign : (∀ entry ∈ allocation, ¬ entry.2.lt 0 = true)
      ↔ ∀ entry ∈ allocation, ∀ q, entry.2.denoted? = some q → 0 ≤ q := by
    refine forall₂_congr fun entry hentry => ?_
    obtain ⟨k, hk⟩ := hgrid entry hentry
    rw [Number.lt_zero_iff hk, not_lt, hk]
    simp
  have hshort : ∀ entry ∈ allocation, entry.2.HasText := fun entry hentry =>
    (hgrid entry hentry).elim fun _ hk => (Number.denoted?_eq_some_iff.mp hk).1
  rw [sumsTo_eq_valid_iff, hsign, and_iff_right hshort]
  refine and_congr_right fun hnonneg => ?_
  by_cases hwritten : total.HasText
  case neg =>
    exact iff_of_false (fun h => hwritten h.1)
      (fun h => hwritten (Number.denoted?_eq_some_iff.mp h).1)
  obtain ⟨counts, hcounts⟩ := exists_counts hgrid hnonneg
  have hexact : exactTotal allocation = value (counts.sum : ℕ) unit := by
    have hsum := congrArg (fun quantities => (quantities.map fun q => q.getD 0).sum) hcounts
    rw [List.map_map, List.map_map] at hsum
    rw [← Decimal.sum_map_value]
    exact hsum
  have hterms : (allocation.map fun entry => Decimal.ofNumber entry.2).map Decimal.toRat?
      = counts.map fun (count : ℕ) => some (value count unit) := by
    rw [← hcounts, List.map_map]
    exact List.map_congr_left fun entry hentry =>
      (Number.denoted?_of_hasText (hshort entry hentry)).symm
  obtain ⟨sum, rounded, hsum, hrounded, htracks⟩ := Decimal.exists_sum_counts hterms
  have hrounds : (∃ allocated,
      Decimal.sum (allocation.map fun entry => Decimal.ofNumber entry.2) = .ok allocated
        ∧ allocated.same (.ofNumber total) = true) ↔ total.denoted? = some rounded := by
    simp [hsum, Number.same_ofNumber_iff hrounded hwritten]
  rw [and_iff_right hwritten, hrounds, hexact]
  cases hdenoted : total.denoted? with
  | none => simp
  | some t =>
      rw [Option.some.injEq, Option.some.injEq, eq_comm, htracks.eq_iff (htotal t hdenoted),
        eq_comm]

theorem exactTotal_of_perm {other : Entries Number} (h : other.Perm allocation) :
    exactTotal other = exactTotal allocation := (h.map _).sum_eq

end Totals

/-- Within the working precision the checks of steps and totals are exact, reading each number as
the decimal that its text denotes, for numbers that have a text.  A finite value whose distance from
the lower end has at most 28 significant digits is on a step exactly if the distance is a whole
multiple of the step, unless it is too many steps away to be checked at all.  Points that are
multiples of one power of ten make up a total below the 28th power above it exactly if none is
negative and their sum is the total; their order makes no difference, and the check never fails. -/
theorem exact_within_precision (low step : Number) (x : Binary64) (total : Number)
    (allocation : Entries Number) :
    (∀ l s v : ℚ, low.denoted? = some l → step.denoted? = some s →
        (Number.float x).denoted? = some v → IsPrecise (v - l) →
          (∀ cause, onStep low step x = .fault cause ↔
              cause = .noDecimalResult ∧ 10 ^ precision * |s| ≤ |v - l|)
            ∧ (onStep low step x = .valid x ↔
              |v - l| < 10 ^ precision * |s| ∧ ∃ k : ℤ, v - l = k * s))
      ∧ ∀ unit : ℤ,
        (∀ entry ∈ allocation, ∃ k : ℤ, entry.2.denoted? = some (k * (10 : ℚ) ^ unit)) →
        (∀ t, total.denoted? = some t → t < (10 : ℚ) ^ (precision + unit)) →
        ∀ other : Entries Number, other.Perm allocation →
          (sumsTo total other).Faultless
            ∧ (sumsTo total other = .valid other ↔
              (∀ entry ∈ allocation, ∀ q, entry.2.denoted? = some q → 0 ≤ q)
                ∧ total.denoted? = some (exactTotal allocation)) := by
  refine ⟨fun l s v => onStep_exact, fun unit hgrid htotal other hperm =>
    ⟨sumsTo_faultless _ other, ?_⟩⟩
  have hother := sumsTo_exact (fun entry hentry => hgrid entry (hperm.mem_iff.mp hentry)) htotal
  rw [hother, exactTotal_of_perm hperm]
  simp only [hperm.mem_iff]

namespace Sample

/-- The binary number nearest to a decimal. -/
def near (coefficient : Nat) (exponent : Int) : Binary64 :=
  Digits.toBinary64 false ⟨coefficient, exponent⟩

/-- Points that are shared out in halves. -/
def halves : Entries Number :=
  [("A", 60), ("B", .float (near 395 (-1))), ("C", .float (near 5 (-1)))]

/-- The least step of the 30th decimal place. -/
def tiny : Number := .float (near 1 (-30))

/-- A total of points to share out. -/
def sharing (total : Number) : Question :=
  { Survey.Sample.plain "q1" [] with kind := .constantSum, totalPoints := some total }

/-- A slider in whole steps from just above zero. -/
def offsetSlider : Question :=
  { Survey.Sample.plain "q1" [] with
    kind := .slider, min := some tiny, max := some 100, step := some 1 }

/-- Points with one large share. -/
def uneven : Entries Json :=
  [("A", .num (.int (5 * 10 ^ 27))), ("B", .num (.float (near 5 (-1)))),
    ("C", .num (.float (near 5 (-1))))]

end Sample

open AnswerCheck.Sample

theorem exact_within_precision_tenths :
    (Number.denoted? 0 = some 0 ∧ (Number.float (near 1 (-1))).denoted? = some (1 / 10)
        ∧ (Number.float (near 3 (-1))).denoted? = some (3 / 10) ∧ IsPrecise (3 / 10 - 0)
        ∧ (100 : Number).denoted? = some 100)
      ∧ onStep 0 (.float (near 1 (-1))) (near 3 (-1)) = .valid (near 3 (-1))
      ∧ sumsTo 100 halves = .valid halves := by
  have hzero : Number.denoted? 0 = some 0 :=
    Number.denoted?_of_digits 0 0 (by decide +kernel) (by decide +kernel) (by norm_num [value])
  have htenth : (Number.float (near 1 (-1))).denoted? = some (1 / 10) :=
    Number.denoted?_of_digits 1 (-1) (by decide +kernel) (by decide +kernel) (by norm_num [value])
  have hthree : (Number.float (near 3 (-1))).denoted? = some (3 / 10) :=
    Number.denoted?_of_digits 3 (-1) (by decide +kernel) (by decide +kernel) (by norm_num [value])
  have hprecise : IsPrecise (3 / 10 - 0) := ⟨3, -1, by decide, by norm_num [value]⟩
  have hsixty : (60 : Number).denoted? = some 60 :=
    Number.denoted?_of_digits 60 0 (by decide +kernel) (by decide +kernel) (by norm_num [value])
  have hmost : (Number.float (near 395 (-1))).denoted? = some (79 / 2) :=
    Number.denoted?_of_digits 395 (-1) (by decide +kernel) (by decide +kernel) (by norm_num [value])
  have hhalf : (Number.float (near 5 (-1))).denoted? = some (1 / 2) :=
    Number.denoted?_of_digits 5 (-1) (by decide +kernel) (by decide +kernel) (by norm_num [value])
  have htotal : (100 : Number).denoted? = some 100 :=
    Number.denoted?_of_digits 100 0 (by decide +kernel) (by decide +kernel) (by norm_num [value])
  have hgrid : ∀ entry ∈ halves, ∃ k : ℤ,
      entry.2.denoted? = some (k * (10 : ℚ) ^ (-1 : ℤ)) := by
    simp only [halves, List.forall_mem_cons, hsixty, hmost, hhalf, Option.some.injEq]
    exact ⟨⟨600, by norm_num⟩, ⟨395, by norm_num⟩, ⟨5, by norm_num⟩, List.forall_mem_nil _⟩
  have hbound : ∀ t, (100 : Number).denoted? = some t →
      t < (10 : ℚ) ^ (precision + (-1 : ℤ)) := by
    intro t ht
    obtain rfl := Option.some.inj (htotal.symm.trans ht)
    norm_num [precision]
  obtain ⟨hsteps, hsums⟩ :=
    exact_within_precision 0 (.float (near 1 (-1))) (near 3 (-1)) 100 halves
  refine ⟨⟨hzero, htenth, hthree, hprecise, htotal⟩, ?_, ?_⟩
  · rw [(hsteps 0 (1 / 10) (3 / 10) hzero htenth hthree hprecise).2]
    refine ⟨?_, 3, by norm_num⟩
    norm_num [precision, abs_of_pos]
  · rw [(hsums (-1) hgrid hbound halves (.refl _)).2]
    constructor
    · simp only [halves, List.forall_mem_cons, hsixty, hmost, hhalf, Option.some.injEq]
      norm_num
    · rw [htotal, exactTotal, halves]
      simp only [List.map_cons, List.map_nil, hsixty, hmost, hhalf, Option.getD_some]
      norm_num

/-- Past the precision the checks are not exact.  Points that make up a little more than the total
are accepted, as is a value a little off its step, and whether points make up the total may depend
on their order. -/
theorem inexact_past_precision :
    ((sharing 100).validate (.obj [("A", .num 100), ("B", .num tiny)]) = .ok []
        ∧ (100 : Number).denoted? = some 100 ∧ exactTotal [("A", 100), ("B", tiny)] ≠ 100)
      ∧ (offsetSlider.validate (.num 100) = .ok [] ∧ tiny.denoted? = some (1 / 10 ^ 30)
        ∧ ¬ ∃ k : ℤ, (100 - 1 / 10 ^ 30 : ℚ) = k * 1)
      ∧ (sharing (.int (5 * 10 ^ 27 + 1))).validate (.obj uneven) ≠ .ok []
      ∧ (sharing (.int (5 * 10 ^ 27 + 1))).validate (.obj uneven.reverse) = .ok [] := by
  have htotal : (100 : Number).denoted? = some 100 :=
    Number.denoted?_of_digits 100 0 (by decide +kernel) (by decide +kernel) (by norm_num [value])
  have htiny : tiny.denoted? = some (1 / 10 ^ 30) :=
    Number.denoted?_of_digits 1 (-30) (by decide +kernel) (by decide +kernel) (by norm_num [value])
  refine ⟨⟨by decide +kernel, htotal, ?_⟩, ⟨by decide +kernel, htiny, ?_⟩, by decide +kernel,
    by decide +kernel⟩
  · rw [exactTotal]
    simp only [List.map_cons, List.map_nil, htotal, htiny, Option.getD_some]
    norm_num
  · rintro ⟨k, hk⟩
    have hscaled : (100 * 10 ^ 30 - 1 : ℚ) = k * 10 ^ 30 := by
      rw [← mul_one (k : ℚ), ← hk]
      norm_num
    have hwhole : (100 * 10 ^ 30 - 1 : ℤ) = k * 10 ^ 30 := by exact_mod_cast hscaled
    omega

end Questionnaire.AnswerCheck
