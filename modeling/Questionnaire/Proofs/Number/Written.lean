import Mathlib.Tactic.Ring
import Questionnaire.Number.Basic
import Questionnaire.Number.Numeral
import Questionnaire.Proofs.Number.Rounding

/-!
Numbers that are written down are read back.  The digits of a text stand for the quantity that was
written, in whatever form, and the digits chosen for a binary number stand for it alone, so that no
two numbers have one text.
-/

namespace Questionnaire

namespace Numeral

theorem digitsValue_eq (n : Nat) (s : List Char) : digitsValue n s = Nat.ofDigitChars 10 s n := by
  rw [digitsValue, Nat.ofDigitChars_eq_foldl]
  congr 1
  funext value c
  rw [Nat.mul_comm]
  rfl

@[simp] theorem digitsValue_toDigits (n : Nat) : digitsValue 0 (Nat.toDigits 10 n) = n := by
  rw [digitsValue_eq, Nat.ofDigitChars_ten_toDigits]

theorem digitsValue_append (n : Nat) (s t : List Char) :
    digitsValue n (s ++ t) = digitsValue (digitsValue n s) t := List.foldl_append

@[simp] theorem digitsValue_zeros (n k : Nat) :
    digitsValue n (List.replicate k '0') = n * 10 ^ k := by
  rw [digitsValue_eq, Nat.ofDigitChars_replicate_zero, Nat.mul_comm]

theorem isDigit_of_mem_toDigits {n : Nat} {c : Char} (h : c ∈ Nat.toDigits 10 n) :
    isDigit c = true := Nat.isDigit_of_mem_toDigits (by decide) (by decide) h

theorem isDigit_of_mem_zeros {k : Nat} {c : Char} (h : c ∈ List.replicate k '0') :
    isDigit c = true := by
  rw [List.eq_of_mem_replicate h]
  rfl

theorem takeWhile_append_of_head? {p : Char → Bool} {s rest : List Char}
    (hs : ∀ c ∈ s, p c = true) (hrest : ∀ c ∈ rest.head?, p c = false) :
    (s ++ rest).takeWhile p = s ∧ (s ++ rest).dropWhile p = rest := by
  rw [List.takeWhile_append_of_pos hs, List.dropWhile_append_of_pos hs]
  cases rest with
  | nil => simp
  | cons c rest =>
      have hc := hrest c rfl
      simp [hc]

/-- Digits without a fraction are read up to the exponent. -/
theorem decimal?_whole (whole rest : List Char) (hwhole : ∀ c ∈ whole, isDigit c = true)
    (hne : whole ≠ []) (hrest : ∀ c ∈ rest.head?, isDigit c = false ∧ c ≠ '.') :
    decimal? (whole ++ rest) = (exponent? rest).map fun e => ⟨digitsValue 0 whole, e⟩ := by
  obtain ⟨htake, hdrop⟩ := takeWhile_append_of_head? hwhole fun c hc => (hrest c hc).1
  unfold decimal?
  rw [htake, hdrop]
  cases rest with
  | nil => simp [hne]
  | cons c rest =>
      have hc : c ≠ '.' := (hrest c rfl).2
      simp [hc, hne]

/-- Digits with a fraction are read up to the exponent. -/
theorem decimal?_fraction (whole fraction rest : List Char)
    (hwhole : ∀ c ∈ whole, isDigit c = true) (hne : whole ≠ [])
    (hfraction : ∀ c ∈ fraction, isDigit c = true) (hrest : ∀ c ∈ rest.head?, isDigit c = false) :
    decimal? (whole ++ '.' :: (fraction ++ rest)) = (exponent? rest).map fun e =>
      ⟨digitsValue 0 (whole ++ fraction), e - fraction.length⟩ := by
  have hpoint : ∀ c ∈ ('.' :: (fraction ++ rest)).head?, isDigit c = false := by
    intro c hc
    cases hc
    rfl
  obtain ⟨htake, hdrop⟩ := takeWhile_append_of_head? hwhole hpoint
  obtain ⟨htake', hdrop'⟩ := takeWhile_append_of_head? hfraction hrest
  unfold decimal?
  rw [htake, hdrop]
  simp [htake', hdrop', hne]

/-- The exponent that is written is read back. -/
theorem exponent?_exponentPart (e : Int) : exponent? (Digits.exponentPart e) = some e := by
  have hdigits : (List.replicate (2 - (Nat.toDigits 10 e.natAbs).length) '0'
      ++ Nat.toDigits 10 e.natAbs).all isDigit = true := by
    rw [List.all_eq_true]
    intro c hc
    rcases List.mem_append.mp hc with hzero | hdigit
    · exact isDigit_of_mem_zeros hzero
    · exact isDigit_of_mem_toDigits hdigit
  have hvalue : digitsValue 0 (List.replicate (2 - (Nat.toDigits 10 e.natAbs).length) '0'
      ++ Nat.toDigits 10 e.natAbs) = e.natAbs := by
    rw [digitsValue_append, digitsValue_zeros, Nat.zero_mul, digitsValue_toDigits]
  have hpart : Digits.exponentPart e = 'e' :: (if e < 0 then '-' else '+')
      :: (List.replicate (2 - (Nat.toDigits 10 e.natAbs).length) '0'
        ++ Nat.toDigits 10 e.natAbs) := rfl
  have hne : Nat.toDigits 10 e.natAbs ≠ [] := List.ne_nil_of_length_pos Nat.length_toDigits_pos
  rw [hpart]
  by_cases hnegative : e < 0
  · rw [if_pos hnegative]
    simp [exponent?, sign, hdigits, hvalue, hne, -Nat.cast_natAbs]
    omega
  · rw [if_neg hnegative]
    simp [exponent?, sign, hdigits, hvalue, hne, -Nat.cast_natAbs]
    omega

end Numeral

namespace Digits

open Numeral

attribute [local instance] Binary64.corePow

/-- The quantity counted in a power of ten that is small enough for it. -/
theorem inUnits_mul_pow (d : Digits) {m : Nat} (h : 0 ≤ d.exponent + m) :
    d.inUnits.1 * 10 ^ m
      = d.coefficient * 10 ^ (d.exponent + m).toNat * Binary64.one * d.inUnits.2 := by
  unfold inUnits
  split
  · rename_i hwhole
    have hsplit : (d.exponent + m).toNat = d.exponent.toNat + m := by omega
    rw [hsplit, Nat.pow_add, Nat.mul_one]
    ring
  · rename_i hfraction
    have hsplit : m = (d.exponent + m).toNat + (-d.exponent).toNat := by omega
    conv => lhs; rw [hsplit]
    rw [Nat.pow_add]
    ring

theorem inUnits_pos (d : Digits) : 0 < d.inUnits.2 := by
  unfold inUnits
  split
  · exact Nat.one_pos
  · exact Nat.pow_pos (by decide)

/-- Digits of the same quantity are read as the same number. -/
theorem units_congr {a b : Digits} (m : Nat) (ha : 0 ≤ a.exponent + m) (hb : 0 ≤ b.exponent + m)
    (h : a.coefficient * 10 ^ (a.exponent + m).toNat
      = b.coefficient * 10 ^ (b.exponent + m).toNat) :
    a.units = b.units := by
  apply Binary64.roundUnits_congr a.inUnits_pos b.inUnits_pos
  have hpow : 0 < 10 ^ m := Nat.pow_pos (by decide)
  apply Nat.eq_of_mul_eq_mul_right hpow
  calc a.inUnits.1 * b.inUnits.2 * 10 ^ m
      = a.inUnits.1 * 10 ^ m * b.inUnits.2 := by ring
    _ = b.inUnits.1 * 10 ^ m * a.inUnits.2 := by
        rw [inUnits_mul_pow a ha, inUnits_mul_pow b hb, h]
        ring
    _ = b.inUnits.1 * a.inUnits.2 * 10 ^ m := by ring

/-- Digits of the same quantity, counted in a power of ten that is small enough for both. -/
def SameQuantity (a b : Digits) : Prop := ∃ m : Nat, 0 ≤ a.exponent + m ∧ 0 ≤ b.exponent + m
  ∧ a.coefficient * 10 ^ (a.exponent + m).toNat = b.coefficient * 10 ^ (b.exponent + m).toNat

theorem SameQuantity.refl (d : Digits) : d.SameQuantity d :=
  ⟨(-d.exponent).toNat, by omega, by omega, rfl⟩

theorem SameQuantity.units_eq {a b : Digits} (h : a.SameQuantity b) : a.units = b.units := by
  obtain ⟨m, ha, hb, hcount⟩ := h
  exact units_congr m ha hb hcount

theorem toDigits_ne_nil (n : Nat) : Nat.toDigits 10 n ≠ [] :=
  List.ne_nil_of_length_pos Nat.length_toDigits_pos

section Positional

variable (d : Digits)

theorem isDigit_coefficient : ∀ c ∈ Nat.toDigits 10 d.coefficient, isDigit c = true :=
  fun _ hc => isDigit_of_mem_toDigits hc

/-- A whole number is written with zeros for its exponent and a point at the end. -/
theorem decimal?_whole_point (h : 0 ≤ d.exponent) :
    ∃ read, decimal? (Nat.toDigits 10 d.coefficient ++ List.replicate d.exponent.toNat '0'
      ++ ['.', '0']) = some read ∧ read.SameQuantity d := by
  have hdigits : ∀ c ∈ Nat.toDigits 10 d.coefficient ++ List.replicate d.exponent.toNat '0',
      isDigit c = true :=
    List.forall_mem_append.mpr ⟨d.isDigit_coefficient, fun _ hc => isDigit_of_mem_zeros hc⟩
  have hne : Nat.toDigits 10 d.coefficient ++ List.replicate d.exponent.toNat '0' ≠ [] :=
    List.append_ne_nil_of_left_ne_nil (toDigits_ne_nil _) _
  have hread := decimal?_fraction _ ['0'] [] hdigits hne (List.forall_mem_singleton.mpr rfl)
    (by simp)
  have hvalue : digitsValue 0 (Nat.toDigits 10 d.coefficient ++ List.replicate d.exponent.toNat '0'
      ++ ['0']) = d.coefficient * 10 ^ d.exponent.toNat * 10 := by
    rw [digitsValue_append, digitsValue_append, digitsValue_toDigits, digitsValue_zeros]
    rfl
  have hpow : (d.exponent + (1 : Nat)).toNat = d.exponent.toNat + 1 := by omega
  refine ⟨_, hread, 1, by simp, by omega, ?_⟩
  rw [hvalue, hpow, Nat.pow_succ]
  simp [Nat.mul_assoc]

/-- The point stands among the digits. -/
theorem decimal?_inner_point (h : d.exponent < 0)
    (hinner : (-d.exponent).toNat < (Nat.toDigits 10 d.coefficient).length) :
    let place := (Nat.toDigits 10 d.coefficient).length - (-d.exponent).toNat
    decimal? ((Nat.toDigits 10 d.coefficient).take place
      ++ '.' :: (Nat.toDigits 10 d.coefficient).drop place) = some d := by
  intro place
  have hdigits := d.isDigit_coefficient
  have hne : (Nat.toDigits 10 d.coefficient).take place ≠ [] := by
    apply List.ne_nil_of_length_pos
    rw [List.length_take]
    omega
  have hread := decimal?_fraction _ ((Nat.toDigits 10 d.coefficient).drop place) []
    (fun c hc => hdigits c (List.mem_of_mem_take hc)) hne
    (fun c hc => hdigits c (List.mem_of_mem_drop hc)) (by simp)
  have hexponent : (0 : Int) - ((Nat.toDigits 10 d.coefficient).drop place).length
      = d.exponent := by
    rw [List.length_drop]
    omega
  rw [List.append_nil, List.take_append_drop, digitsValue_toDigits] at hread
  rw [hread, exponent?, Option.map_some, hexponent]

/-- The point stands before the digits, with zeros between. -/
theorem decimal?_leading_point (h : d.exponent < 0)
    (houter : (Nat.toDigits 10 d.coefficient).length ≤ (-d.exponent).toNat) :
    decimal? ('0' :: '.' :: List.replicate
      ((-d.exponent).toNat - (Nat.toDigits 10 d.coefficient).length) '0'
        ++ Nat.toDigits 10 d.coefficient) = some d := by
  let zeros := List.replicate ((-d.exponent).toNat - (Nat.toDigits 10 d.coefficient).length) '0'
  have hdigits : ∀ c ∈ zeros ++ Nat.toDigits 10 d.coefficient, isDigit c = true :=
    List.forall_mem_append.mpr ⟨fun _ hc => isDigit_of_mem_zeros hc, d.isDigit_coefficient⟩
  have hread := decimal?_fraction ['0'] (zeros ++ Nat.toDigits 10 d.coefficient) []
    (List.forall_mem_singleton.mpr rfl) (List.cons_ne_nil '0' []) hdigits (by simp)
  have hvalue : digitsValue 0 (['0'] ++ (zeros ++ Nat.toDigits 10 d.coefficient))
      = d.coefficient := by
    rw [digitsValue_append, digitsValue_append, digitsValue_zeros]
    exact (congrArg (digitsValue · _) (Nat.zero_mul _)).trans (digitsValue_toDigits _)
  have hexponent : (0 : Int) - (zeros ++ Nat.toDigits 10 d.coefficient).length = d.exponent := by
    rw [List.length_append, List.length_replicate]
    omega
  rw [List.append_nil, hvalue, exponent?, Option.map_some, hexponent] at hread
  exact hread

/-- Without an exponent the quantity that is written is read back. -/
theorem decimal?_positionalText :
    ∃ read, decimal? (d.positionalText true) = some read ∧ read.SameQuantity d := by
  unfold positionalText
  dsimp only
  split
  · rename_i hwhole
    exact d.decimal?_whole_point hwhole
  · rename_i hnegative
    split
    · rename_i hinner
      exact ⟨d, d.decimal?_inner_point (by omega) hinner, .refl d⟩
    · rename_i houter
      exact ⟨d, d.decimal?_leading_point (by omega) (by omega), .refl d⟩

end Positional

/-- With an exponent the digits that are written are read back. -/
theorem decimal?_scientificText (d : Digits) : decimal? d.scientificText = some d := by
  have hpoint : ∀ c ∈ (exponentPart d.leading).head?, isDigit c = false ∧ c ≠ '.' := by
    intro c hc
    cases hc
    exact ⟨rfl, by decide⟩
  have hdigits := d.isDigit_coefficient
  have hvalue := digitsValue_toDigits d.coefficient
  have hleading : d.leading = d.exponent + (Nat.toDigits 10 d.coefficient).length - 1 := rfl
  unfold scientificText
  dsimp only
  split
  · rename_i first second rest hsplit
    rw [hsplit] at hdigits hvalue hleading
    have hread := decimal?_fraction [first] (second :: rest) (exponentPart d.leading)
      (fun c hc => hdigits c (List.mem_cons.mpr (Or.inl (List.mem_singleton.mp hc))))
      (List.cons_ne_nil first []) (fun c hc => hdigits c (List.mem_cons_of_mem first hc))
      fun c hc => (hpoint c hc).1
    have hexponent : d.leading - (second :: rest).length = d.exponent := by
      rw [hleading]
      simp only [List.length_cons]
      omega
    rw [exponent?_exponentPart, Option.map_some, hexponent] at hread
    rw [show digitsValue 0 ([first] ++ second :: rest) = _ from hvalue] at hread
    exact hread
  · rename_i hshort
    have hlength : (Nat.toDigits 10 d.coefficient).length = 1 := by
      match hall : Nat.toDigits 10 d.coefficient with
      | [] => exact absurd hall (toDigits_ne_nil d.coefficient)
      | [digit] => rfl
      | first :: second :: rest => exact (hshort first second rest hall).elim
    have hexponent : d.leading = d.exponent := by
      rw [hleading, hlength]
      omega
    have hread := decimal?_whole _ (exponentPart d.leading) hdigits (toDigits_ne_nil _) hpoint
    rw [exponent?_exponentPart, Option.map_some, hvalue] at hread
    rw [hread, hexponent]

theorem decimal?_text (d : Digits) :
    ∃ read, decimal? (d.text .plain) = some read ∧ read.SameQuantity d := by
  unfold text
  dsimp only [NumberStyle.plain]
  split
  · exact d.decimal?_positionalText
  · exact ⟨d, d.decimal?_scientificText, .refl d⟩

/-- A neighbour is only taken if it is read as the magnitude. -/
theorem units_of_neighbour? {u k : Nat} {d : Digits} (h : neighbour? u k = some d) :
    d.units = u := by
  unfold neighbour? at h
  have hread := List.find?_some h
  exact of_decide_eq_true hread

/-- A magnitude on the grid is what its digits written out in full are read as. -/
theorem units_exact {u : Nat} (h : Binary64.Fits u) : (exact u).units = u := by
  have hunits : (exact u).inUnits
      = (u * 5 ^ (1074 : Nat) * Binary64.one, 10 ^ (1074 : Nat)) := by
    have hnegative : ¬(0 : Int) ≤ -1074 := by decide
    unfold inUnits exact
    rw [if_neg hnegative]
    rfl
  -- For every count of places, so that no power is computed.
  have hround (k : Nat) : Binary64.roundUnits (u * 5 ^ k * 2 ^ k) (10 ^ k)
      = Binary64.roundUnits u 1 := by
    refine Binary64.roundUnits_congr (Nat.pow_pos (by decide)) Nat.one_pos ?_
    rw [Nat.mul_one, Nat.mul_assoc, ← Nat.mul_pow]
  unfold units
  rw [hunits]
  unfold Binary64.one
  exact (hround 1074).trans (Binary64.roundUnits_of_fits h)

/-- The fewest digits of a magnitude on the grid are read as the magnitude. -/
theorem units_shortest {u : Nat} (h : Binary64.Fits u) : (shortest u).units = u := by
  unfold shortest
  split
  · rename_i hzero
    rw [hzero]
    unfold units inUnits
    simp [Binary64.roundUnits, Binary64.divHalfEven]
  · cases hfound : ((List.range 17).map (· + 1)).findSome? (neighbour? u) with
    | none => exact units_exact h
    | some d =>
        obtain ⟨k, _, hk⟩ := List.exists_of_findSome?_eq_some hfound
        exact units_of_neighbour? hk

end Digits

namespace Binary64

open Numeral

theorem sign_of_decimal? {s : List Char} {d : Digits} (h : decimal? s = some d) :
    sign s = (false, s) := by
  unfold sign
  split
  · simp [decimal?, isDigit] at h
  · simp [decimal?, isDigit] at h
  · rfl

/-- The sign and the magnitude that a text stands for. -/
def readText (s : List Char) : Bool × Option Nat :=
  ((sign s).1, (decimal? (sign s).2).map Digits.units)

theorem text_finite (negative : Bool) (units : Nat) (fits : Fits units) :
    ((finite negative units fits).text .plain).toList
      = if negative then '-' :: (Digits.shortest units).text .plain
        else (Digits.shortest units).text .plain := String.toList_ofList

/-- The sign and the magnitude of a finite number are read back from its text. -/
theorem readText_finite (negative : Bool) {units : Nat} (fits : Fits units) :
    readText ((finite negative units fits).text .plain).toList = (negative, some units) := by
  obtain ⟨read, hread, hsame⟩ := (Digits.shortest units).decimal?_text
  have hunits := hsame.units_eq
  rw [Digits.units_shortest fits] at hunits
  rw [text_finite, readText]
  cases negative with
  | true =>
      rw [if_pos rfl]
      simp [sign, hread, hunits]
  | false =>
      rw [if_neg Bool.false_ne_true, sign_of_decimal? hread]
      simp [hread, hunits]

theorem readText_infinite (negative : Bool) :
    readText ((infinite negative).text .plain).toList = (negative, none) := by
  cases negative <;> rfl

theorem readText_nan : readText (nan.text .plain).toList = (false, none) := rfl

/-- No two binary numbers have one text. -/
theorem text_plain_injective : Function.Injective fun x : Binary64 => x.text .plain := by
  intro x y h
  have hread := congrArg (fun text => readText text.toList) h
  dsimp only at h hread
  cases x with
  | finite negative units fits =>
      rw [readText_finite] at hread
      cases y with
      | finite other more fits' =>
          rw [readText_finite] at hread
          cases hread
          rfl
      | infinite other =>
          rw [readText_infinite] at hread
          cases hread
      | nan =>
          rw [readText_nan] at hread
          cases hread
  | infinite negative =>
      rw [readText_infinite] at hread
      cases y with
      | finite other units fits =>
          rw [readText_finite] at hread
          cases hread
      | infinite other =>
          rw [readText_infinite] at hread
          cases hread
          rfl
      | nan => cases negative <;> exact absurd h (by decide)
  | nan =>
      rw [readText_nan] at hread
      cases y with
      | finite other units fits =>
          rw [readText_finite] at hread
          cases hread
      | infinite other => cases other <;> exact absurd h (by decide)
      | nan => rfl

end Binary64

namespace Number

open Numeral

/-- The characters that texts of numbers consist of. -/
def isNumberChar (c : Char) : Bool := isDigit c || c ∈ ['+', '-', '.', 'e', 'i', 'n', 'f', 'a']

/-- A whole number is written with digits and a sign alone. -/
def isWholeChar (c : Char) : Bool := isDigit c || c = '-'

theorem isNumberChar_of_isDigit {c : Char} (h : isDigit c = true) : isNumberChar c = true := by
  rw [isNumberChar, h, Bool.true_or]

theorem isNumberChar_of_isWholeChar {c : Char} (h : isWholeChar c = true) :
    isNumberChar c = true := by
  rw [isWholeChar, Bool.or_eq_true, decide_eq_true_eq] at h
  rcases h with hdigit | rfl
  · exact isNumberChar_of_isDigit hdigit
  · rfl

theorem isNumberChar_toDigits (n : Nat) : ∀ c ∈ Nat.toDigits 10 n, isNumberChar c = true :=
  fun _ hc => isNumberChar_of_isDigit (isDigit_of_mem_toDigits hc)

theorem isNumberChar_zeros (k : Nat) : ∀ c ∈ List.replicate k '0', isNumberChar c = true :=
  fun _ hc => isNumberChar_of_isDigit (isDigit_of_mem_zeros hc)

theorem isNumberChar_exponentPart (e : Int) :
    ∀ c ∈ Digits.exponentPart e, isNumberChar c = true := by
  have hsign : isNumberChar (if e < 0 then '-' else '+') = true := by split <;> rfl
  exact List.forall_mem_cons.mpr ⟨rfl, List.forall_mem_cons.mpr ⟨hsign,
    List.forall_mem_append.mpr ⟨isNumberChar_zeros _, isNumberChar_toDigits _⟩⟩⟩

theorem isNumberChar_positionalText (d : Digits) :
    ∀ c ∈ d.positionalText true, isNumberChar c = true := by
  have hdigits := isNumberChar_toDigits d.coefficient
  unfold Digits.positionalText
  dsimp only
  split
  · exact List.forall_mem_append.mpr
      ⟨List.forall_mem_append.mpr ⟨hdigits, isNumberChar_zeros _⟩, List.all_eq_true.mp rfl⟩
  · split
    · exact List.forall_mem_append.mpr ⟨fun c hc => hdigits c (List.mem_of_mem_take hc),
        List.forall_mem_cons.mpr ⟨rfl, fun c hc => hdigits c (List.mem_of_mem_drop hc)⟩⟩
    · exact List.forall_mem_cons.mpr ⟨rfl, List.forall_mem_cons.mpr ⟨rfl,
        List.forall_mem_append.mpr ⟨isNumberChar_zeros _, hdigits⟩⟩⟩

theorem isNumberChar_scientificText (d : Digits) :
    ∀ c ∈ d.scientificText, isNumberChar c = true := by
  have hdigits := isNumberChar_toDigits d.coefficient
  unfold Digits.scientificText
  dsimp only
  refine List.forall_mem_append.mpr ⟨?_, isNumberChar_exponentPart _⟩
  split
  · rename_i first second rest hsplit
    rw [hsplit] at hdigits
    obtain ⟨hfirst, hrest⟩ := List.forall_mem_cons.mp hdigits
    exact List.forall_mem_cons.mpr ⟨hfirst, List.forall_mem_cons.mpr ⟨rfl, hrest⟩⟩
  · exact hdigits

theorem isNumberChar_digitsText (d : Digits) : ∀ c ∈ d.text .plain, isNumberChar c = true := by
  unfold Digits.text
  dsimp only [NumberStyle.plain]
  split
  · exact isNumberChar_positionalText d
  · exact isNumberChar_scientificText d

/-- The digits of a binary number are written with a point or an exponent. -/
theorem exists_not_isWholeChar_digitsText (d : Digits) :
    ∃ c ∈ d.text .plain, isWholeChar c = false := by
  unfold Digits.text
  dsimp only [NumberStyle.plain]
  split
  · refine ⟨'.', ?_, rfl⟩
    unfold Digits.positionalText
    dsimp only
    split
    · simp
    · split
      · simp
      · simp
  · refine ⟨'e', ?_, rfl⟩
    unfold Digits.scientificText Digits.exponentPart
    simp

theorem isNumberChar_float (x : Binary64) :
    ∀ c ∈ (x.text .plain).toList, isNumberChar c = true := by
  cases x with
  | nan => exact List.all_eq_true.mp rfl
  | infinite negative => cases negative <;> exact List.all_eq_true.mp rfl
  | finite negative units fits =>
      rw [Binary64.text_finite]
      cases negative with
      | true => exact List.forall_mem_cons.mpr ⟨rfl, isNumberChar_digitsText _⟩
      | false => exact isNumberChar_digitsText _

theorem exists_not_isWholeChar_float (x : Binary64) :
    ∃ c ∈ (x.text .plain).toList, isWholeChar c = false := by
  cases x with
  | nan => exact ⟨'n', by decide, rfl⟩
  | infinite negative => exact ⟨'n', by cases negative <;> decide, rfl⟩
  | finite negative units fits =>
      obtain ⟨c, hc, hwhole⟩ := exists_not_isWholeChar_digitsText (Digits.shortest units)
      rw [Binary64.text_finite]
      cases negative with
      | true => exact ⟨c, List.mem_cons_of_mem _ hc, hwhole⟩
      | false => exact ⟨c, hc, hwhole⟩

theorem text_int (value : Int) : (Number.int value).text.toList
    = if 0 ≤ value then Nat.toDigits 10 value.natAbs
      else '-' :: Nat.toDigits 10 value.natAbs := by
  change (toString value).toList = _
  rw [Int.toString_eq_repr, Int.repr_eq_if]
  split
  · rename_i hwhole
    rw [Nat.repr_eq_ofList_toDigits, String.toList_ofList]
    congr 1
    omega
  · rename_i hnegative
    have habs : (-value).toNat = value.natAbs := by omega
    rw [String.toList_append, habs, Nat.repr_eq_ofList_toDigits]
    simp only [String.toList_ofList]
    rfl

theorem isWholeChar_int (value : Int) :
    ∀ c ∈ (Number.int value).text.toList, isWholeChar c = true := by
  have hdigits : ∀ c ∈ Nat.toDigits 10 value.natAbs, isWholeChar c = true := by
    intro c hc
    rw [isWholeChar, isDigit_of_mem_toDigits hc, Bool.true_or]
  rw [text_int]
  split
  · exact hdigits
  · exact List.forall_mem_cons.mpr ⟨rfl, hdigits⟩

/-- The sign and the digits of an integer are told apart in its text. -/
theorem sign_int (value : Int) :
    sign (Number.int value).text.toList
      = (decide (value < 0), Nat.toDigits 10 value.natAbs) := by
  have hread : decimal? (Nat.toDigits 10 value.natAbs) = some ⟨value.natAbs, 0⟩ := by
    have hwhole := decimal?_whole (Nat.toDigits 10 value.natAbs) []
      (fun _ hc => isDigit_of_mem_toDigits hc) (Digits.toDigits_ne_nil _) (by simp)
    rw [List.append_nil, digitsValue_toDigits] at hwhole
    exact hwhole
  rw [text_int]
  split
  · rename_i hwhole
    rw [Binary64.sign_of_decimal? hread, decide_eq_false (by omega)]
  · rename_i hnegative
    rw [sign, decide_eq_true (by omega)]

/-- Texts of numbers are made of the characters of numbers. -/
theorem isNumberChar_text (n : Number) : ∀ c ∈ n.text.toList, isNumberChar c = true := by
  cases n with
  | int value => exact fun c hc => isNumberChar_of_isWholeChar (isWholeChar_int value c hc)
  | float x => exact isNumberChar_float x

theorem text_toList_ne_nil (n : Number) : n.text.toList ≠ [] := by
  cases n with
  | int value =>
      rw [text_int]
      split
      · exact Digits.toDigits_ne_nil _
      · exact List.cons_ne_nil _ _
  | float x =>
      obtain ⟨c, hc, _⟩ := exists_not_isWholeChar_float x
      exact List.ne_nil_of_mem hc

/-- No two numbers have one text, and the texts of integers are told apart from those of binary
numbers. -/
theorem text_injective : Function.Injective Number.text := by
  have hkinds (value : Int) (x : Binary64) : (Number.int value).text ≠ (Number.float x).text := by
    intro h
    obtain ⟨c, hc, hwhole⟩ := exists_not_isWholeChar_float x
    change c ∈ (Number.float x).text.toList at hc
    rw [← h] at hc
    rw [isWholeChar_int value c hc] at hwhole
    cases hwhole
  intro a b h
  cases a with
  | int value =>
      cases b with
      | int other =>
          have hread := congrArg (fun text => sign text.toList) h
          rw [sign_int, sign_int] at hread
          obtain ⟨hsign, hdigits⟩ := Prod.mk.inj hread
          have habs := congrArg (digitsValue 0) hdigits
          rw [digitsValue_toDigits, digitsValue_toDigits] at habs
          have hnegative : value < 0 ↔ other < 0 := decide_eq_decide.mp hsign
          have hsame : value = other := by omega
          rw [hsame]
      | float y => exact absurd h (hkinds value y)
  | float x =>
      cases b with
      | int other => exact absurd h.symm (hkinds other x)
      | float y => exact congrArg Number.float (Binary64.text_plain_injective h)

theorem isNumberChar_head? (c : Char) (h : isNumberChar c = false) (rest : List Char) :
    ∀ d ∈ (c :: rest).head?, isNumberChar d = false := by
  intro d hd
  cases hd
  exact h

/-- The text of a number ends where something else begins. -/
theorem text_append_inj {a b : Number} {rest other : List Char}
    (hrest : ∀ c ∈ rest.head?, isNumberChar c = false)
    (hother : ∀ c ∈ other.head?, isNumberChar c = false)
    (h : a.text.toList ++ rest = b.text.toList ++ other) : a = b ∧ rest = other := by
  obtain ⟨htake, hdrop⟩ := takeWhile_append_of_head? (isNumberChar_text a) hrest
  obtain ⟨htake', hdrop'⟩ := takeWhile_append_of_head? (isNumberChar_text b) hother
  have htext : a.text.toList = b.text.toList := by rw [← htake, ← htake', h]
  exact ⟨text_injective (String.toList_inj.mp htext), by rw [← hdrop, ← hdrop', h]⟩

end Number

end Questionnaire
