import Questionnaire.Json.Reader
import Questionnaire.Json.Writer
import Questionnaire.Proofs.Json.Everywhere
import Questionnaire.Proofs.Number.Denotation
import Questionnaire.Proofs.Number.Magnitude

/-!
Numbers in documents are read back.  A binary number is written with a fraction or an exponent and
without an idle zero in front, so that it is read whole and told from an integer, and its digits are
read as the number they were chosen for, whatever form they are written in.
-/

namespace Questionnaire

open Numeral

attribute [local instance] Binary64.corePow

attribute [local irreducible] Binary64.one Binary64.limit

namespace Digits

theorem pow_count_le {n : Nat} (h : n ≠ 0) : 10 ^ (count n - 1) ≤ n := by
  by_contra hsmall
  by_cases hone : count n = 1
  · rw [hone] at hsmall
    exact hsmall (Nat.pos_of_ne_zero h)
  · have hsome : 0 < count n := Nat.length_toDigits_pos
    have hle := (Nat.length_toDigits_le_iff (b := 10) (by decide) (by omega)).mpr
      (Nat.lt_of_not_le hsmall)
    rw [count] at hone hsome hle
    omega

theorem lt_pow_count (n : Nat) : n < 10 ^ count n :=
  (Nat.length_toDigits_le_iff (by decide) Nat.length_toDigits_pos).mp (Nat.le_refl _)

/-- A quantity is at least the power of ten of its leading digit. -/
theorem pow_leading_le_inUnits {d : Digits} (hd : d.coefficient ≠ 0) {k : Nat}
    (h : k ≤ d.leading) : 10 ^ k * Binary64.one * d.inUnits.2 ≤ d.inUnits.1 := by
  let m := (-d.exponent).toNat
  have hexponent : k + m ≤ count d.coefficient - 1 + (d.exponent + m).toNat := by
    rw [leading] at h
    omega
  have hcount : 10 ^ k * 10 ^ m ≤ d.coefficient * 10 ^ (d.exponent + m).toNat := by
    rw [← Nat.pow_add]
    apply (Nat.pow_le_pow_right (by decide) hexponent).trans
    rw [Nat.pow_add]
    exact Nat.mul_le_mul_right _ (pow_count_le hd)
  apply Nat.le_of_mul_le_mul_right _ (Nat.pow_pos (by decide) : 0 < 10 ^ m)
  calc 10 ^ k * Binary64.one * d.inUnits.2 * 10 ^ m
      = 10 ^ k * 10 ^ m * (Binary64.one * d.inUnits.2) := by ring
    _ ≤ d.coefficient * 10 ^ (d.exponent + m).toNat * (Binary64.one * d.inUnits.2) :=
        Nat.mul_le_mul_right _ hcount
    _ = d.inUnits.1 * 10 ^ m := by
        rw [inUnits_mul_pow d (by omega)]
        ring

/-- What is past the limit by its leading digit is past it in units. -/
theorem limit_le_units {d : Digits} (hd : d.coefficient ≠ 0) (h : 309 ≤ d.leading) :
    Binary64.limit ≤ d.units := by
  have hlimit : Binary64.limit ≤ 10 ^ (309 : Nat) * Binary64.one := by
    unfold Binary64.limit Binary64.one
    decide +kernel
  have hgrid : Binary64.roundUnits (Binary64.limit * d.inUnits.2) d.inUnits.2 = Binary64.limit := by
    conv => lhs; arg 2; rw [← Nat.one_mul d.inUnits.2]
    rw [Binary64.roundUnits_mul_right _ _ d.inUnits_pos, Binary64.limit_eq]
    apply Binary64.roundUnits_of_dvd
    apply Nat.pow_dvd_pow
    rw [Binary64.spacing, Nat.log2_two_pow]
    decide
  calc Binary64.limit = Binary64.roundUnits (Binary64.limit * d.inUnits.2) d.inUnits.2 := hgrid.symm
    _ ≤ d.units := Binary64.roundUnits_mono _
        ((Nat.mul_le_mul_right _ hlimit).trans (pow_leading_le_inUnits hd h))

/-- A quantity is less than the power of ten after its leading digit. -/
theorem coefficient_mul_pow_lt {d : Digits} {k : Nat} (h : d.leading < -k) :
    d.coefficient * 10 ^ k < 10 ^ (-d.exponent).toNat := by
  have hexponent : count d.coefficient + k ≤ (-d.exponent).toNat := by
    rw [leading] at h
    omega
  calc d.coefficient * 10 ^ k < 10 ^ count d.coefficient * 10 ^ k :=
        Nat.mul_lt_mul_of_pos_right (lt_pow_count _) (Nat.pow_pos (by decide))
    _ = 10 ^ (count d.coefficient + k) := (Nat.pow_add ..).symm
    _ ≤ 10 ^ (-d.exponent).toNat := Nat.pow_le_pow_right (by decide) hexponent

/-- What is nearer to zero than to the first unit by its leading digit is no unit. -/
theorem units_eq_zero_of_leading {d : Digits} (h : d.leading < -324) : d.units = 0 := by
  have htiny : 2 * Binary64.one ≤ 10 ^ (324 : Nat) := by
    unfold Binary64.one
    decide +kernel
  have hsome : 0 < count d.coefficient := Nat.length_toDigits_pos
  have hnegative : ¬ 0 ≤ d.exponent := by
    rw [leading] at h
    omega
  have hhalf : 2 * (d.coefficient * Binary64.one) < 10 ^ (-d.exponent).toNat :=
    calc 2 * (d.coefficient * Binary64.one) = d.coefficient * (2 * Binary64.one) := by ring
      _ ≤ d.coefficient * 10 ^ (324 : Nat) := Nat.mul_le_mul_left _ htiny
      _ < 10 ^ (-d.exponent).toNat := coefficient_mul_pow_lt h
  have hbelow : d.coefficient * Binary64.one < 10 ^ (-d.exponent).toNat := by omega
  rw [units, inUnits, if_neg hnegative]
  simp [Binary64.roundUnits, Binary64.divHalfEven, Nat.div_eq_of_lt hbelow, Binary64.spacing,
    Nat.mod_eq_of_lt hbelow, hhalf]

/-- Digits are read as the number that they are in units, whichever digits they are. -/
theorem toBinary64_of_units {d : Digits} {u : Nat} (hunits : d.units = u) (hfits : Binary64.Fits u)
    (negative : Bool) : d.toBinary64 negative = .finite negative u hfits := by
  subst hunits
  have hzero (h : d.units = 0) :
      Binary64.finite negative 0 Binary64.fits_zero = .finite negative d.units hfits := by
    simp only [h]
  unfold toBinary64
  split
  · rename_i hnone
    apply hzero
    have hcount : d.inUnits.1 = 0 := by
      unfold inUnits
      split <;> simp [hnone]
    rw [units, hcount, Binary64.roundUnits_zero]
  · rename_i hsome
    split
    · rename_i hlarge
      exact absurd hfits.2 (Nat.not_lt.mpr (limit_le_units hsome hlarge))
    · split
      · rename_i hsmall
        exact hzero (units_eq_zero_of_leading hsmall)
      · exact dif_pos hfits.2

end Digits

namespace Json

variable {whole fraction s rest : List Char} {most : Option Nat}

/-- Digits without an idle zero in front. -/
structure IsWhole (whole : List Char) : Prop where
  digits : ∀ c ∈ whole, isDigit c = true
  ne_nil : whole ≠ []
  noIdleZero : whole.head? = some '0' → whole = ['0']

/-- What stands after a number does not go on with it. -/
def EndsNumber (rest : List Char) : Prop :=
  ∀ c ∈ rest.head?, isDigit c = false ∧ c ≠ '.' ∧ c ≠ 'e' ∧ c ≠ 'E'

theorem EndsNumber.head?_not_digit (h : EndsNumber rest) : ∀ c ∈ rest.head?, isDigit c = false :=
  fun c hc => (h c hc).1

/-- The first character is a digit. -/
def BeginsWithDigit (s : List Char) : Prop := ∃ c tail, s = c :: tail ∧ isDigit c = true

theorem IsWhole.beginsWithDigit (h : IsWhole whole) : BeginsWithDigit whole := by
  cases whole with
  | nil => exact absurd rfl h.ne_nil
  | cons c tail => exact ⟨c, tail, rfl, h.digits c List.mem_cons_self⟩

/-- The digits before a point, an exponent or the end are read. -/
theorem wholePart_append (h : IsWhole whole) (hrest : ∀ c ∈ rest.head?, isDigit c = false) :
    wholePart (whole ++ rest) = whole := by
  have htake := (takeWhile_append_of_head? h.digits hrest).1
  unfold wholePart
  split
  · rename_i tail hsplit
    have hhead : (whole ++ rest).head? = whole.head? :=
      List.head?_append_of_ne_nil whole h.ne_nil
    rw [hsplit] at hhead
    exact (h.noIdleZero hhead.symm).symm
  · exact htake

theorem fractionPart_point (hne : fraction ≠ []) (hdigits : ∀ c ∈ fraction, isDigit c = true)
    (hrest : ∀ c ∈ rest.head?, isDigit c = false) :
    fractionPart ('.' :: (fraction ++ rest)) = (fraction, rest) := by
  obtain ⟨htake, hdrop⟩ := takeWhile_append_of_head? hdigits hrest
  rw [fractionPart, htake, hdrop, List.isEmpty_eq_false_iff.mpr hne]
  rfl

theorem fractionPart_of_head? (h : ∀ c ∈ rest.head?, c ≠ '.') : fractionPart rest = ([], rest) := by
  unfold fractionPart
  split
  · exact absurd rfl (h '.' rfl)
  · rfl

/-- The exponent that is written is read back. -/
theorem exponentPart_append (e : Int) (hrest : ∀ c ∈ rest.head?, isDigit c = false) :
    exponentPart (Digits.exponentPart e ++ rest) = (some e, rest) := by
  let digits := List.replicate (2 - (Nat.toDigits 10 e.natAbs).length) '0'
    ++ Nat.toDigits 10 e.natAbs
  have hdigits : ∀ c ∈ digits, isDigit c = true := List.forall_mem_append.mpr
    ⟨fun _ hc => isDigit_of_mem_zeros hc, fun _ hc => isDigit_of_mem_toDigits hc⟩
  have hne : digits ≠ [] := List.append_ne_nil_of_right_ne_nil _ (Digits.toDigits_ne_nil _)
  have hvalue : digitsValue 0 digits = e.natAbs := by
    rw [digitsValue_append, digitsValue_zeros, Nat.zero_mul, digitsValue_toDigits]
  have hsign : sign ((if e < 0 then '-' else '+') :: (digits ++ rest))
      = (decide (e < 0), digits ++ rest) := by
    by_cases hnegative : e < 0
    · rw [if_pos hnegative, decide_eq_true hnegative]
      rfl
    · rw [if_neg hnegative, decide_eq_false hnegative]
      rfl
  obtain ⟨htake, hdrop⟩ := takeWhile_append_of_head? hdigits hrest
  have hpart : Digits.exponentPart e ++ rest
      = 'e' :: (if e < 0 then '-' else '+') :: (digits ++ rest) := rfl
  rw [hpart, exponentPart, if_pos (Or.inl rfl), hsign]
  dsimp only
  rw [htake, hdrop, hvalue, List.isEmpty_eq_false_iff.mpr hne, if_neg Bool.false_ne_true]
  simp only [decide_eq_true_eq]
  congr 2
  split <;> omega

theorem exponentPart_of_endsNumber (h : EndsNumber rest) : exponentPart rest = (none, rest) := by
  cases rest with
  | nil => rfl
  | cons c tail =>
      obtain ⟨-, -, hsmall, hcapital⟩ := h c rfl
      exact if_neg (not_or.mpr ⟨hsmall, hcapital⟩)

/-- The digits of a positive number do not begin with a zero. -/
theorem head?_toDigits {n : Nat} (h : 0 < n) : (Nat.toDigits 10 n).head? ≠ some '0' := by
  induction n using Nat.strong_induction_on with
  | h n ih =>
      rw [Nat.toDigits_eq_if (by decide)]
      split
      · rename_i hsmall
        have hdigit : ∀ d < 10, 0 < d → [Nat.digitChar d].head? ≠ some '0' := by decide
        exact hdigit n hsmall h
      · rw [List.head?_append_of_ne_nil _ (Digits.toDigits_ne_nil _)]
        exact ih (n / 10) (by omega) (by omega)

theorem isWhole_toDigits (n : Nat) : IsWhole (Nat.toDigits 10 n) := by
  refine ⟨fun _ hc => isDigit_of_mem_toDigits hc, Digits.toDigits_ne_nil n, fun hzero => ?_⟩
  rcases Nat.eq_zero_or_pos n with rfl | hpos
  · rfl
  · exact absurd hzero (head?_toDigits hpos)

theorem isWhole_singleton {c : Char} (h : isDigit c = true) : IsWhole [c] := by
  refine ⟨List.forall_mem_singleton.mpr h, List.cons_ne_nil c [], fun hzero => ?_⟩
  rw [Option.some.inj hzero]

/-- The digits of an integer are read, if there are not too many. -/
theorem unsigned?_whole (negative : Bool) (n : Nat) (hrest : EndsNumber rest)
    (hmost : ∀ limit ∈ most, (Nat.toDigits 10 n).length ≤ limit) :
    unsigned? most negative (Nat.toDigits 10 n ++ rest)
      = some (.ok (.int (if negative then -(n : Int) else n), rest)) := by
  have hshort : most.any (· < (Nat.toDigits 10 n).length) = false := by
    cases most with
    | none => rfl
    | some limit => exact decide_eq_false (Nat.not_lt.mpr (hmost limit rfl))
  rw [unsigned?, wholePart_append (isWhole_toDigits n) hrest.head?_not_digit]
  dsimp only
  rw [List.isEmpty_eq_false_iff.mpr (Digits.toDigits_ne_nil n), List.drop_left' rfl,
    fractionPart_of_head? fun c hc => (hrest c hc).2.1]
  dsimp only
  rw [exponentPart_of_endsNumber hrest, hshort, digitsValue_toDigits]
  rfl

/-- Digits with a fraction or an exponent, as a binary number is written. -/
inductive IsFractional : List Char → Prop
  | point {whole fraction exponent : List Char} (hwhole : IsWhole whole) (hne : fraction ≠ [])
      (hfraction : ∀ c ∈ fraction, isDigit c = true)
      (hexponent : exponent = [] ∨ ∃ e, exponent = Digits.exponentPart e) :
      IsFractional (whole ++ '.' :: (fraction ++ exponent))
  | exponent {whole : List Char} (hwhole : IsWhole whole) (e : Int) :
      IsFractional (whole ++ Digits.exponentPart e)

theorem IsFractional.beginsWithDigit (h : IsFractional s) : BeginsWithDigit s := by
  cases h with
  | point hwhole _ _ _ =>
      obtain ⟨c, tail, rfl, hc⟩ := hwhole.beginsWithDigit
      exact ⟨c, _, rfl, hc⟩
  | exponent hwhole e =>
      obtain ⟨c, tail, rfl, hc⟩ := hwhole.beginsWithDigit
      exact ⟨c, _, rfl, hc⟩

theorem head?_exponentPart (e : Int) (rest : List Char) :
    ∀ c ∈ (Digits.exponentPart e ++ rest).head?, isDigit c = false ∧ c ≠ '.' := by
  intro c hc
  cases hc
  exact ⟨rfl, by decide⟩

/-- After a fraction the exponent is read, if there is one. -/
theorem unsigned?_point (hwhole : IsWhole whole) (hne : fraction ≠ [])
    (hfraction : ∀ c ∈ fraction, isDigit c = true) (hrest : ∀ c ∈ rest.head?, isDigit c = false)
    (negative : Bool) : unsigned? most negative (whole ++ '.' :: (fraction ++ rest))
      = some (.ok (.float (Digits.toBinary64 negative ⟨digitsValue 0 (whole ++ fraction),
        (exponentPart rest).1.getD 0 - fraction.length⟩), (exponentPart rest).2)) := by
  have hpoint : ∀ c ∈ ('.' :: (fraction ++ rest)).head?, isDigit c = false := by
    intro c hc
    cases hc
    rfl
  rw [unsigned?, wholePart_append hwhole hpoint]
  dsimp only
  rw [List.isEmpty_eq_false_iff.mpr hwhole.ne_nil, List.drop_left' rfl,
    fractionPart_point hne hfraction hrest, if_neg Bool.false_ne_true]
  dsimp only
  rw [List.isEmpty_eq_false_iff.mpr hne, Bool.false_and, if_neg Bool.false_ne_true]

theorem unsigned?_exponent (hwhole : IsWhole whole) (e : Int)
    (hrest : ∀ c ∈ rest.head?, isDigit c = false) (negative : Bool) :
    unsigned? most negative (whole ++ (Digits.exponentPart e ++ rest))
      = some (.ok (.float (Digits.toBinary64 negative ⟨digitsValue 0 whole, e⟩), rest)) := by
  have hmark := head?_exponentPart e rest
  rw [unsigned?, wholePart_append hwhole fun c hc => (hmark c hc).1]
  dsimp only
  rw [List.isEmpty_eq_false_iff.mpr hwhole.ne_nil, List.drop_left' rfl,
    fractionPart_of_head? fun c hc => (hmark c hc).2, if_neg Bool.false_ne_true]
  dsimp only
  rw [exponentPart_append e hrest, List.append_nil]
  simp

/-- Digits with a fraction or an exponent are read in a document as they are on their own. -/
theorem unsigned?_of_decimal? (hs : IsFractional s) {d : Digits} (hd : decimal? s = some d)
    (negative : Bool) (hrest : EndsNumber rest) :
    unsigned? most negative (s ++ rest) = some (.ok (.float (d.toBinary64 negative), rest)) := by
  have hmark (e : Int) := head?_exponentPart e []
  simp only [List.append_nil] at hmark
  cases hs with
  | @point whole fraction exponent hwhole hne hfraction hexponent =>
      rw [List.append_assoc, List.cons_append, List.append_assoc]
      rcases hexponent with rfl | ⟨e, rfl⟩
      · rw [decimal?_fraction whole fraction [] hwhole.digits hwhole.ne_nil hfraction
          (by simp)] at hd
        cases hd
        rw [List.nil_append, unsigned?_point hwhole hne hfraction hrest.head?_not_digit,
          exponentPart_of_endsNumber hrest]
        rfl
      · rw [decimal?_fraction whole fraction _ hwhole.digits hwhole.ne_nil hfraction
          fun c hc => (hmark e c hc).1, exponent?_exponentPart] at hd
        cases hd
        rw [unsigned?_point hwhole hne hfraction fun c hc => (head?_exponentPart e rest c hc).1,
          exponentPart_append e hrest.head?_not_digit]
        rfl
  | @exponent whole hwhole e =>
      rw [decimal?_whole whole _ hwhole.digits hwhole.ne_nil (hmark e),
        exponent?_exponentPart] at hd
      cases hd
      rw [List.append_assoc, unsigned?_exponent hwhole e hrest.head?_not_digit]

/-- The digits before a point that stands among them. -/
theorem isWhole_take_toDigits {n place : Nat} (hn : 0 < n) (hplace : 0 < place) :
    IsWhole ((Nat.toDigits 10 n).take place) := by
  refine ⟨fun c hc => isDigit_of_mem_toDigits (List.mem_of_mem_take hc), ?_, fun hhead => ?_⟩
  · apply List.ne_nil_of_length_pos
    rw [List.length_take]
    exact Nat.lt_min.mpr ⟨hplace, Nat.length_toDigits_pos⟩
  · rw [List.head?_take, if_neg hplace.ne'] at hhead
    exact absurd hhead (head?_toDigits hn)

/-- The digits before the point of a whole number. -/
theorem isWhole_toDigits_zeros {n k : Nat} (h : n = 0 → k = 0) :
    IsWhole (Nat.toDigits 10 n ++ List.replicate k '0') := by
  have hwhole := isWhole_toDigits n
  rcases Nat.eq_zero_or_pos n with hzero | hpos
  · rwa [h hzero, List.replicate_zero, List.append_nil]
  · refine ⟨List.forall_mem_append.mpr ⟨hwhole.digits, fun _ hc => isDigit_of_mem_zeros hc⟩,
      List.append_ne_nil_of_left_ne_nil hwhole.ne_nil _, fun hhead => ?_⟩
    rw [List.head?_append_of_ne_nil _ hwhole.ne_nil] at hhead
    exact absurd hhead (head?_toDigits hpos)

theorem isFractional_positionalText {d : Digits} (hzero : d.coefficient = 0 → d.exponent = 0) :
    IsFractional (d.positionalText true) := by
  have hdigits := d.isDigit_coefficient
  -- without an exponent nothing follows the fraction
  have hform {whole fraction : List Char} (hwhole : IsWhole whole) (hne : fraction ≠ [])
      (hfraction : ∀ c ∈ fraction, isDigit c = true) : IsFractional (whole ++ '.' :: fraction) := by
    have hpoint : IsFractional (whole ++ '.' :: (fraction ++ [])) :=
      .point hwhole hne hfraction (.inl rfl)
    rwa [List.append_nil] at hpoint
  unfold Digits.positionalText
  dsimp only
  split
  · have hwhole : IsWhole (Nat.toDigits 10 d.coefficient ++ List.replicate d.exponent.toNat '0') :=
      isWhole_toDigits_zeros fun hnone => by rw [hzero hnone]; rfl
    exact hform hwhole (List.cons_ne_nil '0' []) (List.forall_mem_singleton.mpr rfl)
  · rename_i hnegative
    split
    · rename_i hinner
      have hpos : 0 < d.coefficient := Nat.pos_of_ne_zero fun hnone => hnegative (hzero hnone).ge
      apply hform (isWhole_take_toDigits hpos (by omega))
      · apply List.ne_nil_of_length_pos
        rw [List.length_drop]
        omega
      · exact fun c hc => hdigits c (List.mem_of_mem_drop hc)
    · apply hform (isWhole_singleton (c := '0') rfl)
      · exact List.append_ne_nil_of_right_ne_nil _ (Digits.toDigits_ne_nil _)
      · exact List.forall_mem_append.mpr ⟨fun _ hc => isDigit_of_mem_zeros hc, hdigits⟩

theorem isFractional_scientificText (d : Digits) : IsFractional d.scientificText := by
  have hdigits := d.isDigit_coefficient
  unfold Digits.scientificText
  dsimp only
  split
  · rename_i first second others hsplit
    rw [hsplit] at hdigits
    obtain ⟨hfirst, hothers⟩ := List.forall_mem_cons.mp hdigits
    exact .point (isWhole_singleton hfirst) (List.cons_ne_nil second others) hothers
      (.inr ⟨d.leading, rfl⟩)
  · exact .exponent (isWhole_toDigits d.coefficient) d.leading

/-- Digits are written with a fraction or an exponent. -/
theorem isFractional_text {d : Digits} (hzero : d.coefficient = 0 → d.exponent = 0) :
    IsFractional (d.text .plain) := by
  unfold Digits.text
  dsimp only [NumberStyle.plain]
  split
  · exact isFractional_positionalText hzero
  · exact isFractional_scientificText d

/-- Only zero has no digits but zeros, and it is written as one. -/
theorem isFractional_shortest {units : Nat} (fits : Binary64.Fits units) :
    IsFractional ((Digits.shortest units).text .plain) := by
  apply isFractional_text
  intro hnone
  rcases Nat.eq_zero_or_pos units with hunits | hunits
  · rw [hunits]
    rfl
  · exact absurd hnone ((Digits.coefficient_shortest_pos_iff fits).mpr hunits).ne'

/-- The digits that are chosen for a number are read as the number. -/
theorem unsigned?_shortest (negative : Bool) {units : Nat} (fits : Binary64.Fits units)
    (hrest : EndsNumber rest) :
    unsigned? most negative ((Digits.shortest units).text .plain ++ rest)
      = some (.ok (.float (.finite negative units fits), rest)) := by
  obtain ⟨d, hd, hsame⟩ := (Digits.shortest units).decimal?_text
  have hunits : d.units = units := hsame.units_eq.trans (Digits.units_shortest fits)
  rw [unsigned?_of_decimal? (isFractional_shortest fits) hd negative hrest,
    Digits.toBinary64_of_units hunits fits]

theorem ne_of_isDigit {c d : Char} (hc : isDigit c = true) (hd : isDigit d = false) : c ≠ d := by
  rintro rfl
  rw [hc] at hd
  cases hd

/-- No word begins with a digit, under a sign or not. -/
theorem word?_of_isDigit {c : Char} (hc : isDigit c = true) (tail : List Char) :
    word? (c :: tail) = none ∧ word? ('-' :: c :: tail) = none := by
  constructor <;> (unfold word?; split)
  any_goals rfl
  all_goals
    rename_i hword
    simp only [List.cons.injEq, Char.reduceEq, false_and, true_and] at hword
  all_goals exact absurd hword.1 (ne_of_isDigit hc (by decide))

/-- What begins with a digit, under a sign or not, is a number. -/
theorem value_of_unsigned? {n : Number} {c : Char} {tail : List Char} {negative : Bool}
    (hc : isDigit c = true) (h : unsigned? most negative (c :: tail) = some (.ok (n, rest)))
    (fuel : Nat) : value ⟨most, none⟩ (fuel + 1) (if negative then '-' :: c :: tail else c :: tail)
      = .ok (.num n, rest) := by
  obtain ⟨hword, hsigned⟩ := word?_of_isDigit hc tail
  cases negative with
  | true =>
      rw [if_pos rfl, value]
      · rw [hsigned, number?, h]
        rfl
      all_goals exact fun _ heq => absurd (List.cons.inj heq).1 (by decide)
  | false =>
      rw [if_neg Bool.false_ne_true, value]
      · rw [hword, number?, h]
        · rfl
        · exact fun _ heq => absurd (List.cons.inj heq).1 (ne_of_isDigit hc (by decide))
      all_goals exact fun _ heq => absurd (List.cons.inj heq).1 (ne_of_isDigit hc (by decide))

theorem writeNumber_int (i : Int) : writeNumber (.int i)
    = if decide (i < 0) then '-' :: Nat.toDigits 10 i.natAbs else Nat.toDigits 10 i.natAbs := by
  refine (Number.text_int i).trans ?_
  by_cases hi : 0 ≤ i
  · rw [if_pos hi, decide_eq_false (by omega), if_neg Bool.false_ne_true]
  · rw [if_neg hi, decide_eq_true (by omega), if_pos rfl]

theorem writeNumber_finite (negative : Bool) {units : Nat} (fits : Binary64.Fits units) :
    writeNumber (.float (.finite negative units fits))
      = if negative then '-' :: (Digits.shortest units).text .plain
        else (Digits.shortest units).text .plain := Binary64.text_finite negative units fits

/-- A number of a document is read back, an integer if it has not too many digits. -/
theorem value_writeNumber {n : Number} (hmost : ∀ limit ∈ most, integerDigits n ≤ limit)
    (hrest : EndsNumber rest) (fuel : Nat) :
    value ⟨most, none⟩ (fuel + 1) (writeNumber n ++ rest) = .ok (.num n, rest) := by
  have hsigned {body : List Char} {negative : Bool} (hbody : BeginsWithDigit body)
      (h : unsigned? most negative (body ++ rest) = some (.ok (n, rest))) :
      value ⟨most, none⟩ (fuel + 1) ((if negative then '-' :: body else body) ++ rest)
        = .ok (.num n, rest) := by
    obtain ⟨c, tail, rfl, hc⟩ := hbody
    have hread := value_of_unsigned? hc h fuel
    cases negative <;> exact hread
  cases n with
  | int i =>
      have hvalue : (if decide (i < 0) then -(i.natAbs : Int) else i.natAbs) = i := by
        simp only [decide_eq_true_eq]
        split <;> omega
      have hread := unsigned?_whole (decide (i < 0)) i.natAbs hrest hmost
      rw [hvalue] at hread
      rw [writeNumber_int]
      exact hsigned (isWhole_toDigits i.natAbs).beginsWithDigit hread
  | float x =>
      cases x with
      | nan => rfl
      | infinite negative => cases negative <;> rfl
      | finite negative units fits =>
          rw [writeNumber_finite]
          exact hsigned (isFractional_shortest fits).beginsWithDigit
            (unsigned?_shortest negative fits hrest)

end Json

end Questionnaire
