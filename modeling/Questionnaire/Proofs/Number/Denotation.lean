import Questionnaire.Json.Display
import Questionnaire.Proofs.Number.Counted
import Questionnaire.Proofs.Number.Precision
import Questionnaire.Proofs.Number.Written

/-!
What the text of a number denotes.  Decimal arithmetic takes a number in as the quantity that its
plain text stands for, and as nothing finite if the text has no digits; the sign of the quantity is
that of the number.
-/

namespace Questionnaire

attribute [local instance] Binary64.corePow

attribute [local irreducible] Binary64.one Binary64.limit

open Decimal (value)

namespace Digits

/-- The quantity that digits stand for. -/
def toRat (d : Digits) : ℚ := value d.coefficient d.exponent

theorem SameQuantity.toRat_eq {a b : Digits} (h : a.SameQuantity b) : a.toRat = b.toRat := by
  obtain ⟨m, ha, hb, hcount⟩ := h
  have hscaled (d : Digits) (hd : 0 ≤ d.exponent + m) :
      d.toRat = value (d.coefficient * 10 ^ (d.exponent + m).toNat : ℕ) (-m) := by
    have hsplit : d.exponent = -m + (d.exponent + m).toNat := by omega
    rw [toRat]
    conv => lhs; rw [hsplit]
    rw [Decimal.value_add]
    push_cast
    rfl
  rw [hscaled a ha, hscaled b hb, hcount]

theorem toRat_pos_iff {d : Digits} : 0 < d.toRat ↔ 0 < d.coefficient := by
  rw [toRat, value, mul_pos_iff_of_pos_right (Decimal.ten_zpow_pos d.exponent)]
  exact_mod_cast Iff.rfl

theorem toRat_nonneg (d : Digits) : 0 ≤ d.toRat := Decimal.value_nonneg

/-- Only zero has no digits but zeros. -/
theorem coefficient_shortest_pos_iff {u : Nat} (h : Binary64.Fits u) :
    0 < (shortest u).coefficient ↔ 0 < u := by
  rw [Nat.pos_iff_ne_zero, Nat.pos_iff_ne_zero, not_iff_not]
  constructor
  · intro hzero
    have hunits : (shortest u).inUnits.1 = 0 := by
      unfold inUnits
      split <;> simp [hzero]
    rw [← units_shortest h, units, hunits, Binary64.roundUnits_zero]
  · rintro rfl
    rfl

end Digits

/-- The quantity that a text of digits with a sign stands for. -/
def Numeral.quantity? (text : List Char) : Option ℚ :=
  (decimal? (sign text).2).map fun d => if (sign text).1 then -d.toRat else d.toRat

namespace Number

open Numeral

variable {a : Number} {q : ℚ}

/-- The quantity that the text of a number denotes, if there is a text and it is of digits. -/
def denoted? (a : Number) : Option ℚ :=
  (Json.numberText a).toOption.bind fun text => quantity? text.toList

theorem value_signed (negative : Bool) (n : Nat) (exponent : Int) :
    value (if negative then -(n : Int) else n) exponent
      = if negative then -value n exponent else value n exponent := by
  cases negative <;> simp [value]

/-- A binary number enters decimal arithmetic as its digits under its sign. -/
theorem toRat?_ofNumber_finite (negative : Bool) {units : Nat} (fits : Binary64.Fits units) :
    (Decimal.ofNumber (.float (.finite negative units fits))).toRat?
      = some (if negative then -(Digits.shortest units).toRat
        else (Digits.shortest units).toRat) := by
  let digits := Digits.shortest units
  unfold Decimal.ofNumber
  dsimp only
  split
  · rename_i hwhole
    have hsplit : digits.exponent = -1 + (digits.exponent.toNat + 1 : ℕ) := by
      have hexponent : 0 ≤ digits.exponent := hwhole.1
      omega
    have hpoint : value (digits.coefficient * 10 ^ (digits.exponent.toNat + 1) : ℕ) (-1)
        = digits.toRat := by
      rw [Digits.toRat]
      conv => rhs; rw [hsplit]
      rw [Decimal.value_add]
      push_cast
      rfl
    rw [Decimal.toRat?, value_signed, hpoint]
  · rw [Decimal.toRat?, value_signed]
    rfl

/-- Decimal arithmetic takes a number in as what its digits denote. -/
theorem quantity?_text (a : Number) : quantity? a.text.toList = (Decimal.ofNumber a).toRat? := by
  cases a with
  | int i =>
      have hread := decimal?_whole (Nat.toDigits 10 i.natAbs) []
        (fun _ hc => isDigit_of_mem_toDigits hc) (Digits.toDigits_ne_nil _) (by simp)
      rw [List.append_nil, digitsValue_toDigits] at hread
      rw [quantity?, sign_int, hread]
      change some (if decide (i < 0) then -value i.natAbs 0 else value i.natAbs 0)
        = some (value i 0)
      rw [← value_signed]
      simp only [decide_eq_true_eq]
      congr 2
      split <;> omega
  | float x =>
      cases x with
      | nan => decide
      | infinite negative => cases negative <;> decide
      | finite negative units fits =>
          obtain ⟨read, hread, hsame⟩ := (Digits.shortest units).decimal?_text
          rw [toRat?_ofNumber_finite, ← hsame.toRat_eq]
          change quantity? ((Binary64.finite negative units fits).text .plain).toList = _
          rw [Binary64.text_finite, quantity?]
          cases negative with
          | true =>
              rw [if_pos rfl, sign, hread]
              rfl
          | false =>
              rw [if_neg Bool.false_ne_true, Binary64.sign_of_decimal? hread, hread]
              rfl

theorem denoted?_of_hasText (h : a.HasText) : a.denoted? = (Decimal.ofNumber a).toRat? := by
  rw [denoted?, Json.numberText_eq_ok_iff.mpr ⟨h, rfl⟩, ← quantity?_text]
  rfl

/-- A number denotes what decimal arithmetic takes it in as, if it has a text. -/
theorem denoted?_eq_some_iff :
    a.denoted? = some q ↔ a.HasText ∧ (Decimal.ofNumber a).toRat? = some q := by
  by_cases hshort : a.HasText
  · rw [denoted?_of_hasText hshort, and_iff_right hshort]
  · rw [denoted?, Json.numberText_eq_error_iff.mpr ⟨rfl, hshort⟩]
    exact iff_of_false nofun fun h => hshort h.1

theorem denoted?_of_digits (coefficient exponent : Int) (hshort : a.HasText)
    (h : Decimal.ofNumber a = .finite coefficient exponent) (hq : value coefficient exponent = q) :
    a.denoted? = some q := by
  rw [denoted?_of_hasText hshort, h, ← hq]
  rfl

/-- The sign of what a number denotes is its own. -/
theorem lt_zero_iff (h : a.denoted? = some q) : a.lt 0 = true ↔ q < 0 := by
  replace h := (denoted?_eq_some_iff.mp h).2
  cases a with
  | int i =>
      obtain rfl := Option.some.inj h
      rw [show (0 : Number) = .int 0 from rfl, int_lt_int, value]
      simp
  | float x =>
      cases x with
      | nan => cases h
      | infinite negative => cases h
      | finite negative units fits =>
          rw [toRat?_ofNumber_finite] at h
          obtain rfl := Option.some.inj h
          have hpos : 0 < (Digits.shortest units).toRat ↔ 0 < units :=
            Digits.toRat_pos_iff.trans (Digits.coefficient_shortest_pos_iff fits)
          have hnonneg := (Digits.shortest units).toRat_nonneg
          have hunits : Number.units? (.float (.finite negative units fits))
              = some (if negative then -(units : Int) else units) := rfl
          rw [lt, place?_of_units? hunits, place?_of_units? units?_zero]
          change decide ((if negative then -(units : Int) else units) < 0) = true ↔ _
          rw [decide_eq_true_eq]
          cases negative with
          | true =>
              rw [if_pos rfl, if_pos rfl, neg_lt_zero, neg_lt_zero, hpos]
              omega
          | false =>
              rw [if_neg Bool.false_ne_true, if_neg Bool.false_ne_true]
              exact iff_of_false (by omega) hnonneg.not_gt

/-- A sum equals a number that has a text exactly if the number denotes it. -/
theorem same_ofNumber_iff {x : Decimal} (hx : x.toRat? = some q) (hshort : a.HasText) :
    x.same (.ofNumber a) = true ↔ a.denoted? = some q := by
  rw [denoted?_of_hasText hshort]
  cases ha : (Decimal.ofNumber a).toRat? with
  | some p => rw [Decimal.same_iff hx ha, Option.some.injEq, eq_comm]
  | none =>
      obtain ⟨coefficient, exponent, rfl, -⟩ := Decimal.toRat?_eq_some_iff.mp hx
      cases hdecimal : Decimal.ofNumber a with
      | finite b f =>
          rw [hdecimal] at ha
          cases ha
      | nan => simp [Decimal.same]
      | infinite negative => simp [Decimal.same]

end Number

end Questionnaire
