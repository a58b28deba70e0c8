import Mathlib.Data.List.TakeWhile
import Questionnaire.Answer.Basic
import Questionnaire.Proofs.Number.Magnitude
import Questionnaire.Proofs.Number.Range
import Questionnaire.Proofs.Number.Written

/-!
Numerals read in three forms.  A text of the whole form or of the data form is also read in the free
form, as long as its underscores stand between digits: the number of the data form as it is, and the
integer of the whole form as the nearest binary number.
-/

namespace Questionnaire

attribute [local instance] Binary64.corePow

attribute [local irreducible] Binary64.one Binary64.limit

namespace Text

variable {drop : Char → Bool} {s : List Char}

theorem exists_dropWhile_split (drop : Char → Bool) (s : List Char) :
    ∃ after, s.dropWhile drop = trimChars drop s ++ after ∧ ∀ c ∈ after, drop c = true := by
  refine ⟨((s.dropWhile drop).reverse.takeWhile drop).reverse, ?_,
    fun c hc => List.mem_takeWhile_imp (List.mem_reverse.mp hc)⟩
  rw [trimChars, ← List.reverse_append, List.takeWhile_append_dropWhile, List.reverse_reverse]

theorem exists_trimChars_split (drop : Char → Bool) (s : List Char) : ∃ before after,
    s = before ++ (trimChars drop s ++ after)
      ∧ (∀ c ∈ before, drop c = true) ∧ ∀ c ∈ after, drop c = true := by
  obtain ⟨after, hsplit, hafter⟩ := exists_dropWhile_split drop s
  refine ⟨s.takeWhile drop, after, ?_, fun c hc => List.mem_takeWhile_imp hc, hafter⟩
  rw [← hsplit, List.takeWhile_append_dropWhile]

/-- What stands between characters to be dropped is left, if it neither begins nor ends with one. -/
theorem trimChars_append {before after : List Char} (hbefore : ∀ c ∈ before, drop c = true)
    (hafter : ∀ c ∈ after, drop c = true)
    (hhead : ∀ c ∈ s.head?, drop c = false) (hlast : ∀ c ∈ s.getLast?, drop c = false) :
    trimChars drop (before ++ (s ++ after)) = s := by
  by_cases hne : s = []
  · have hall : ∀ c ∈ before ++ after, drop c = true := List.forall_mem_append.mpr ⟨hbefore, hafter⟩
    rw [hne, List.nil_append, trimChars, List.dropWhile_eq_nil_iff.mpr hall]
    rfl
  · have hstart : ∀ c ∈ (s ++ after).head?, drop c = false := by
      rwa [List.head?_append_of_ne_nil _ hne]
    have hback : ∀ c ∈ s.reverse.head?, drop c = false := by
      rwa [List.head?_reverse]
    have hdropped : ∀ c ∈ after.reverse, drop c = true := fun c hc =>
      hafter c (List.mem_reverse.mp hc)
    rw [trimChars, (Numeral.takeWhile_append_of_head? hbefore hstart).2, List.reverse_append,
      (Numeral.takeWhile_append_of_head? hdropped hback).2, List.reverse_reverse]

theorem head?_dropWhile (drop : Char → Bool) (s : List Char) :
    ∀ c ∈ (s.dropWhile drop).head?, drop c = false := by
  intro c hc
  have hnot := List.head?_dropWhile_not drop s
  rw [Option.mem_def.mp hc] at hnot
  exact hnot

theorem getLast?_trimChars (drop : Char → Bool) (s : List Char) :
    ∀ c ∈ (trimChars drop s).getLast?, drop c = false := by
  rw [trimChars, List.getLast?_reverse]
  exact head?_dropWhile drop _

theorem head?_trimChars (drop : Char → Bool) (s : List Char) :
    ∀ c ∈ (trimChars drop s).head?, drop c = false := by
  intro c hc
  obtain ⟨after, hsplit, -⟩ := exists_dropWhile_split drop s
  apply head?_dropWhile drop s
  rw [hsplit, List.head?_append, Option.mem_def.mp hc]
  rfl

theorem trimChars_trimChars (drop : Char → Bool) (s : List Char) :
    trimChars drop (trimChars drop s) = trimChars drop s := by
  have hkept : trimChars drop ([] ++ (trimChars drop s ++ [])) = trimChars drop s :=
    trimChars_append nofun nofun (head?_trimChars drop s) (getLast?_trimChars drop s)
  rwa [List.append_nil, List.nil_append] at hkept

theorem isBlank_of_isSpace {c : Char} (h : isSpace c = true) : isBlank c = true := by
  rw [isBlank, h, Bool.or_true]

/-- Where no blanks are left when white space has been taken off, there were no other blanks at the
ends. -/
theorem toList_trim {text : String}
    (h : ∀ c ∈ trimChars isSpace text.toList, isBlank c = false) :
    (trim text).toList = trimChars isSpace text.toList := by
  obtain ⟨before, after, hsplit, hbefore, hafter⟩ := exists_trimChars_split isSpace text.toList
  rw [trim, String.toList_ofList]
  conv => lhs; rw [hsplit]
  apply trimChars_append
  · exact fun c hc => isBlank_of_isSpace (hbefore c hc)
  · exact fun c hc => isBlank_of_isSpace (hafter c hc)
  · exact fun c hc => h c (List.mem_of_mem_head? hc)
  · exact fun c hc => h c (List.mem_of_mem_getLast? hc)

/-- What holds of the first 128 code points holds of a character that is one of them. -/
theorem ascii_induction {P : Char → Prop} (h : ∀ n, n < 128 → P (Char.ofNat n)) {c : Char}
    (hc : c.toNat < 128) : P c := by
  have hn := h c.toNat hc
  rwa [Char.ofNat_toNat] at hn

end Text

namespace Numeral

open Text

variable {c : Char} {s joined : List Char} {x : Binary64}

/-- The printable ASCII characters but the comma and the underscore; numerals are written with
some of them. -/
def IsPlain (c : Char) : Prop := 0x20 < c.toNat ∧ c.toNat < 0x7F ∧ c ≠ ',' ∧ c ≠ '_'

instance (c : Char) : Decidable (IsPlain c) := inferInstanceAs (Decidable (_ ∧ _))

/-- A plain character, like the underscore, is no blank, is no other script's digit and is kept
where commas become points. -/
theorem isPlain_spec (h : IsPlain c ∨ c = '_') :
    isBlank c = false ∧ plainDigit c = c ∧ (if c = ',' then '.' else c) = c := by
  have hascii : c.toNat < 128 := by
    rcases h with ⟨-, hlast, -⟩ | rfl
    · omega
    · decide
  exact ascii_induction (P := fun c => IsPlain c ∨ c = '_' →
    isBlank c = false ∧ plainDigit c = c ∧ (if c = ',' then '.' else c) = c)
    (by decide +kernel) hascii h

theorem toNat_of_isDigit (h : isDigit c = true) : 48 ≤ c.toNat ∧ c.toNat ≤ 57 := by
  rw [isDigit, Bool.and_eq_true, decide_eq_true_eq, decide_eq_true_eq] at h
  exact ⟨UInt32.le_iff_toNat_le.mp h.1, UInt32.le_iff_toNat_le.mp h.2⟩

theorem isPlain_of_isDigit (h : isDigit c = true) : IsPlain c := by
  obtain ⟨hlow, hhigh⟩ := toNat_of_isDigit h
  refine ⟨by omega, by omega, ?_, ?_⟩
  · rintro rfl
    exact absurd h (by decide)
  · rintro rfl
    exact absurd h (by decide)

/-- The letters of the names of values that are not finite. -/
def nameLetters : List Char := ['n', 'a', 'i', 'f', 't', 'y']

theorem isPlain_of_toLower {name : List Char} (hname : c.toLower ∈ name)
    (h : name.all (· ∈ nameLetters) = true) : IsPlain c := by
  have hletter : c.toLower ∈ nameLetters := of_decide_eq_true (List.all_eq_true.mp h _ hname)
  have hletters : nameLetters.all (fun d => d.toNat < 128) = true := by decide
  have hascii : c.toNat < 128 := by
    by_contra hlarge
    have hlower : c.toLower = c := dif_neg fun hupper => by
      have hbound : c.toNat ≤ 90 := UInt32.le_iff_toNat_le.mp hupper.2
      omega
    exact hlarge (of_decide_eq_true (List.all_eq_true.mp hletters c (hlower ▸ hletter)))
  exact ascii_induction (P := fun c => c.toLower ∈ nameLetters → IsPlain c) (by decide +kernel)
    hascii hletter

theorem isPlain_sign {negative : Bool} {body : List Char} (hsign : sign s = (negative, body))
    (hbody : ∀ c ∈ body, IsPlain c) : ∀ c ∈ s, IsPlain c := by
  unfold sign at hsign
  split at hsign
  · cases hsign
    exact List.forall_mem_cons.mpr ⟨by decide, hbody⟩
  · cases hsign
    exact List.forall_mem_cons.mpr ⟨by decide, hbody⟩
  · cases hsign
    exact hbody

theorem isPlain_exponent? {e : Int} (h : exponent? s = some e) : ∀ c ∈ s, IsPlain c := by
  cases s with
  | nil => nofun
  | cons letter rest =>
      rw [exponent?] at h
      split at h
      · rename_i hletter
        split at h
        rename_i negative digits hsign
        split at h
        · cases h
        · rename_i hdigits
          rw [Bool.or_eq_true, not_or, Bool.not_eq_true', Bool.not_eq_false,
            List.all_eq_true] at hdigits
          have hplain : IsPlain letter := by
            rcases hletter with rfl | rfl <;> decide
          exact List.forall_mem_cons.mpr ⟨hplain,
            isPlain_sign hsign fun c hc => isPlain_of_isDigit (hdigits.2 c hc)⟩
      · cases h

theorem isPlain_decimal? {d : Digits} (h : decimal? s = some d) : ∀ c ∈ s, IsPlain c := by
  have hsplit (t : List Char) (ht : ∀ c ∈ t.dropWhile isDigit, IsPlain c) : ∀ c ∈ t, IsPlain c := by
    rw [← List.takeWhile_append_dropWhile (p := isDigit) (l := t)]
    exact List.forall_mem_append.mpr
      ⟨fun c hc => isPlain_of_isDigit (List.mem_takeWhile_imp hc), ht⟩
  unfold decimal? at h
  apply hsplit s
  generalize s.dropWhile isDigit = rest at h
  dsimp only at h
  split at h
  · rename_i tail
    split at h
    · cases h
    · obtain ⟨e, he, -⟩ := Option.map_eq_some_iff.mp h
      exact List.forall_mem_cons.mpr ⟨by decide, hsplit tail (isPlain_exponent? he)⟩
  · split at h
    · cases h
    · obtain ⟨e, he, -⟩ := Option.map_eq_some_iff.mp h
      exact isPlain_exponent? he

/-- A numeral is made of plain characters. -/
theorem isPlain_core? (h : core? s = some x) : ∀ c ∈ s, IsPlain c := by
  unfold core? at h
  split at h
  rename_i negative body hsign
  apply isPlain_sign hsign
  have hname {name : List Char} (hbody : body.map Char.toLower = name)
      (hletters : name.all (· ∈ nameLetters) = true) : ∀ c ∈ body, IsPlain c :=
    fun c hc => isPlain_of_toLower (hbody ▸ List.mem_map_of_mem hc) hletters
  dsimp only at h
  split at h
  · rename_i hnan
    exact hname hnan (by decide)
  · split at h
    · rename_i hinfinite
      rcases hinfinite with hshort | hlong
      · exact hname hshort (by decide)
      · exact hname hlong (by decide)
    · obtain ⟨d, hd, -⟩ := Option.map_eq_some_iff.mp h
      exact isPlain_decimal? hd

theorem joinDigits?_eq_filter {afterDigit : Bool} (h : joinDigits? afterDigit s = some joined) :
    joined = s.filter (· ≠ '_') := by
  fun_induction joinDigits? afterDigit s generalizing joined with
  | case1 => exact (Option.some.inj h).symm
  | case2 afterDigit c rest hdigit ih =>
      obtain ⟨more, hmore, rfl⟩ := Option.map_eq_some_iff.mp h
      have hc : c ≠ '_' := by
        rintro rfl
        simp [isDigit] at hdigit
      simp [hc, ih hmore]
  | case3 => cases h
  | case4 => cases h
  | case5 afterDigit c rest _ hc ih =>
      obtain ⟨more, hmore, rfl⟩ := Option.map_eq_some_iff.mp h
      simp [hc, ih hmore]

/-- A text whose underscores stand between digits does not end with one. -/
theorem getLast?_joinDigits? {afterDigit : Bool} (h : joinDigits? afterDigit s = some joined) :
    joined.getLast? = s.getLast? := by
  fun_induction joinDigits? afterDigit s generalizing joined with
  | case1 => rw [← Option.some.inj h]
  | case2 afterDigit c rest hdigit ih =>
      obtain ⟨more, hmore, rfl⟩ := Option.map_eq_some_iff.mp h
      simp only [List.getLast?_cons, ih hmore, Option.getD_some]
  | case3 => cases h
  | case4 => cases h
  | case5 afterDigit c rest _ hc ih =>
      obtain ⟨more, hmore, rfl⟩ := Option.map_eq_some_iff.mp h
      simp only [List.getLast?_cons, ih hmore]

theorem head?_joinDigits? (h : joinDigits? false s = some joined) : joined.head? = s.head? := by
  unfold joinDigits? at h
  split at h
  · rw [← Option.some.inj h]
  · cases h
  · split at h
    · cases h
    · obtain ⟨more, -, rfl⟩ := Option.map_eq_some_iff.mp h
      rfl

theorem joinDigits?_of_forall_ne (afterDigit : Bool) (h : ∀ c ∈ s, c ≠ '_') :
    joinDigits? afterDigit s = some s := by
  induction s generalizing afterDigit with
  | nil => rfl
  | cons c rest ih =>
      obtain ⟨hc, hrest⟩ := List.forall_mem_cons.mp h
      rw [joinDigits?, if_neg hc, ih _ hrest]
      · rfl
      · intro d more heq
        exact absurd heq hc

theorem joinDigits?_append {afterDigit : Bool} {rest : List Char}
    (h : joinDigits? afterDigit s = some joined) (hrest : ∀ c ∈ rest, c ≠ '_') :
    joinDigits? afterDigit (s ++ rest) = some (joined ++ rest) := by
  fun_induction joinDigits? afterDigit s generalizing joined with
  | case1 =>
      obtain rfl := Option.some.inj h
      exact joinDigits?_of_forall_ne _ hrest
  | case2 afterDigit c tail hdigit ih =>
      obtain ⟨more, hmore, rfl⟩ := Option.map_eq_some_iff.mp h
      rw [List.cons_append, List.cons_append, joinDigits?, if_pos hdigit, ih hmore]
      rfl
  | case3 => cases h
  | case4 => cases h
  | case5 afterDigit c tail hpair hc ih =>
      obtain ⟨more, hmore, rfl⟩ := Option.map_eq_some_iff.mp h
      rw [List.cons_append, joinDigits?, if_neg hc, ih hmore]
      · rfl
      · intro d other heq
        exact absurd heq hc

/-- With underscores between digits only, it makes no difference whether they are taken out before
or after the blanks at the ends. -/
theorem trimChars_filter (h : joinDigits? false (trimChars isSpace s) = some joined) :
    trimChars isSpace (s.filter (· ≠ '_')) = joined := by
  obtain ⟨before, after, hsplit, hbefore, hafter⟩ := exists_trimChars_split isSpace s
  have hspaces {t : List Char} (ht : ∀ c ∈ t, isSpace c = true) : t.filter (· ≠ '_') = t := by
    rw [List.filter_eq_self]
    intro c hc
    rw [decide_eq_true_eq]
    rintro rfl
    exact absurd (ht _ hc) (by decide)
  rw [hsplit, List.filter_append, List.filter_append, hspaces hbefore, hspaces hafter,
    ← joinDigits?_eq_filter h]
  apply trimChars_append hbefore hafter
  · rw [head?_joinDigits? h]
    exact head?_trimChars isSpace s
  · rw [getLast?_joinDigits? h]
    exact getLast?_trimChars isSpace s

/-- The sign stays where it is when the underscores after it are joined. -/
theorem exists_joinDigits?_of_sign {negative : Bool} {body : List Char}
    (hsign : sign s = (negative, body)) (hjoin : joinDigits? false body = some joined)
    (hbody : sign joined = (false, joined)) :
    ∃ whole, joinDigits? false s = some whole ∧ sign whole = (negative, joined) := by
  have hcons {c : Char} (hc : c ≠ '_') (hdigit : isDigit c = false) :
      joinDigits? false (c :: body) = some (c :: joined) := by
    rw [joinDigits?, if_neg hc, hdigit, hjoin]
    · rfl
    · intro d more heq
      exact absurd heq hc
  unfold sign at hsign
  split at hsign
  · cases hsign
    exact ⟨'-' :: joined, hcons (by decide) (by decide), rfl⟩
  · cases hsign
    exact ⟨'+' :: joined, hcons (by decide) (by decide), rfl⟩
  · cases hsign
    exact ⟨joined, hjoin, hbody⟩

/-- A whole number with zeros after the point is at least the power of ten of its leading digit. -/
theorem pow_leading_le {n : Nat} (hn : n ≠ 0) (k : Nat) :
    0 ≤ (⟨n * 10 ^ k, -k⟩ : Digits).leading
      ∧ ∀ m : Nat, m ≤ (⟨n * 10 ^ k, -k⟩ : Digits).leading → 10 ^ m ≤ n := by
  have hpow : 0 < 10 ^ k := Nat.pow_pos (by decide)
  have hcount {m : Nat} (hm : 0 < m) : Digits.count (n * 10 ^ k) ≤ m ↔ n * 10 ^ k < 10 ^ m :=
    Nat.length_toDigits_le_iff (by decide) hm
  have hsome : 0 < Digits.count (n * 10 ^ k) := Nat.length_toDigits_pos
  have hleading : (⟨n * 10 ^ k, -k⟩ : Digits).leading = -k + Digits.count (n * 10 ^ k) - 1 := rfl
  rw [hleading]
  constructor
  · by_contra hnegative
    have hlt := (hcount (m := k) (by omega)).mp (by omega)
    have hle : 10 ^ k ≤ n * 10 ^ k := Nat.le_mul_of_pos_left _ (Nat.pos_of_ne_zero hn)
    exact absurd hlt (Nat.not_lt.mpr hle)
  · intro m hm
    by_contra hsmall
    have hm' : m ≠ 0 := by
      rintro rfl
      exact hsmall (Nat.pos_of_ne_zero hn)
    have hlt : n * 10 ^ k < 10 ^ (m + k) := by
      rw [Nat.pow_add]
      exact Nat.mul_lt_mul_of_pos_right (Nat.lt_of_not_le hsmall) hpow
    have hle := (hcount (by omega)).mpr hlt
    omega

theorem place?_ofInt_signed (negative : Bool) (n : Nat) :
    (Binary64.ofInt (if negative then -(n : Int) else n)).place?
      = some (.ofUnits (if negative then -(Binary64.roundUnits (n * Binary64.one) 1 : Int)
        else Binary64.roundUnits (n * Binary64.one) 1)) := by
  have hscaled : (if negative then -(n : Int) else n) * Binary64.one
      = if negative then -((n * Binary64.one : Nat) : Int) else (n * Binary64.one : Nat) := by
    cases negative <;> simp
  rw [Binary64.place?_ofInt, hscaled, Binary64.roundSigned_signed]

/-- The digits of a whole number with zeros after the point are read as the nearest number. -/
theorem place?_toBinary64_whole (negative : Bool) (n k : Nat) :
    ((⟨n * 10 ^ k, -k⟩ : Digits).toBinary64 negative).place?
      = (Binary64.ofInt (if negative then -(n : Int) else n)).place? := by
  by_cases hzero : n = 0
  · have hunits : Binary64.Place.ofUnits 0 = .at 0 :=
      Binary64.Place.ofUnits_of_natAbs_lt Binary64.limit_pos
    rw [Digits.toBinary64, if_pos (by simp [hzero]), place?_ofInt_signed, hzero, Nat.zero_mul,
      Binary64.roundUnits_zero]
    cases negative <;> simp [Binary64.place?, hunits]
  · have hcoefficient : n * 10 ^ k ≠ 0 :=
      Nat.mul_ne_zero hzero (Nat.pow_pos (by decide : 0 < 10)).ne'
    obtain ⟨hlow, hhigh⟩ := pow_leading_le hzero k
    rw [Digits.toBinary64, if_neg hcoefficient]
    split
    · -- past the range of the format both are infinite
      rename_i hlarge
      have hten : firstTooLarge ≤ 10 ^ (309 : Nat) := by decide +kernel
      have hbeyond : firstTooLarge ≤ (if negative then -(n : Int) else n).natAbs := by
        apply (Nat.le_trans hten (hhigh 309 hlarge)).trans_eq
        cases negative <;> simp
      have hsign : decide ((if negative then -(n : Int) else n) < 0) = negative := by
        cases negative <;> simp [Nat.pos_of_ne_zero hzero]
      rw [ofInt_of_firstTooLarge_le hbeyond, hsign]
    · rw [if_neg (by omega), Binary64.place?_ofUnits, place?_ofInt_signed]
      have hread : (⟨n * 10 ^ k, -k⟩ : Digits).units = (⟨n, 0⟩ : Digits).units :=
        Digits.units_congr k (by simp) (by simp) (by simp)
      have hunits : (⟨n, 0⟩ : Digits).units = Binary64.roundUnits (n * Binary64.one) 1 := by
        simp [Digits.units, Digits.inUnits]
      rw [← hunits, ← hread]
      rfl

/-- Digits with zeros after a point, or without a point. -/
def IsZeroFraction (fraction : List Char) : Prop :=
  fraction = [] ∨ ∃ k, fraction = '.' :: List.replicate k '0'

theorem exists_decimal?_whole {digits fraction : List Char} (hne : digits ≠ [])
    (hdigits : ∀ c ∈ digits, isDigit c = true) (hfraction : IsZeroFraction fraction) :
    ∃ k : Nat, decimal? (digits ++ fraction) = some ⟨digitsValue 0 digits * 10 ^ k, -k⟩ := by
  rcases hfraction with rfl | ⟨k, rfl⟩
  · refine ⟨0, ?_⟩
    rw [decimal?_whole digits [] hdigits hne (by simp)]
    simp [exponent?]
  · refine ⟨k, ?_⟩
    have hread := decimal?_fraction digits (List.replicate k '0') [] hdigits hne
      (fun c hc => isDigit_of_mem_zeros hc) (by simp)
    rw [List.append_nil] at hread
    rw [hread, digitsValue_append, digitsValue_zeros]
    simp [exponent?]

theorem head_of_decimal? {rest : List Char} {d : Digits} (h : decimal? (c :: rest) = some d) :
    isDigit c = true ∨ c = '.' := by
  by_contra hother
  obtain ⟨hdigit, hpoint⟩ := not_or.mp hother
  simp [decimal?, hdigit, hpoint] at h

theorem toLower_of_isDigit (h : isDigit c = true) : c.toLower = c := by
  have hascii : c.toNat < 128 := by
    have := toNat_of_isDigit h
    omega
  exact ascii_induction (P := fun c => isDigit c = true → c.toLower = c) (by decide +kernel)
    hascii h

/-- Digits under a sign are a numeral, and none of the names. -/
theorem core?_of_decimal? {negative : Bool} {body : List Char} {d : Digits}
    (hsign : sign s = (negative, body)) (hbody : decimal? body = some d) :
    core? s = some (d.toBinary64 negative) := by
  have hname (letter : Char) (name : List Char) (hletter : isDigit letter = false)
      (hpoint : letter ≠ '.') : body.map Char.toLower ≠ letter :: name := by
    intro heq
    obtain ⟨c, rest, rfl, rfl, -⟩ := List.map_eq_cons_iff.mp heq
    rcases head_of_decimal? hbody with hdigit | rfl
    · rw [toLower_of_isDigit hdigit, hdigit] at hletter
      cases hletter
    · exact hpoint rfl
  rw [core?, hsign]
  dsimp only
  rw [if_neg (hname 'n' _ (by decide) (by decide)), if_neg, hbody, Option.map_some]
  rintro (hshort | hlong)
  · exact hname 'i' _ (by decide) (by decide) hshort
  · exact hname 'i' _ (by decide) (by decide) hlong

/-- The text of a number is a numeral. -/
theorem exists_core?_text (n : Number) : ∃ x, core? n.text.toList = some x := by
  cases n with
  | int value =>
      have hread := decimal?_whole (Nat.toDigits 10 value.natAbs) []
        (fun _ hc => isDigit_of_mem_toDigits hc) (Digits.toDigits_ne_nil _) (by simp)
      rw [List.append_nil] at hread
      exact ⟨_, core?_of_decimal? (Number.sign_int value) hread⟩
  | float x =>
      change ∃ y, core? (x.text .plain).toList = some y
      cases x with
      | nan => exact ⟨.nan, by decide⟩
      | infinite negative => exact ⟨.infinite negative, by cases negative <;> decide⟩
      | finite negative units fits =>
          obtain ⟨read, hread, -⟩ := (Digits.shortest units).decimal?_text
          rw [Binary64.text_finite]
          cases negative with
          | true => exact ⟨_, core?_of_decimal? (s := '-' :: _) rfl hread⟩
          | false => exact ⟨_, core?_of_decimal? (Binary64.sign_of_decimal? hread) hread⟩

/-- A text that stands for an integer: a sign, digits with underscores between them, and zeros after
the point. -/
def WholeShape (text : String) (i : Int) : Prop :=
  ∃ (negative : Bool) (digits fraction joined : List Char),
    sign (trimChars isSpace text.toList) = (negative, digits ++ fraction)
      ∧ IsZeroFraction fraction ∧ joinDigits? false digits = some joined
      ∧ joined ≠ [] ∧ (∀ c ∈ joined, isDigit c = true)
      ∧ i = if negative then -(digitsValue 0 joined : Int) else digitsValue 0 joined

theorem wholeShape_of_joinDigits? {text : String} {i : Int} {negative zerosOk : Bool}
    {digits fraction joined : List Char}
    (hsign : sign (trimChars isSpace text.toList) = (negative, digits ++ fraction))
    (hfraction : zerosOk = true → IsZeroFraction fraction)
    (hjoin : joinDigits? false digits = some joined)
    (hdigits : (if zerosOk && !joined.isEmpty && joined.all isDigit then
        some (if negative then -(digitsValue 0 joined : Int) else digitsValue 0 joined)
      else none) = some i) : WholeShape text i := by
  split at hdigits
  · rename_i hall
    simp only [Bool.and_eq_true, Bool.not_eq_true', List.isEmpty_eq_false_iff,
      List.all_eq_true] at hall
    exact ⟨negative, digits, fraction, joined, hsign, hfraction hall.1.1, hjoin, hall.1.2, hall.2,
      (Option.some.inj hdigits).symm⟩
  · cases hdigits

theorem wholeShape_of_whole? {text : String} {i : Int} (h : whole? text = some i) :
    WholeShape text i := by
  unfold whole? at h
  split at h
  rename_i negative body hsign
  have hsplit := List.takeWhile_append_dropWhile (p := fun c => decide (c ≠ '.')) (l := body)
  have hpoint := head?_dropWhile (fun c => decide (c ≠ '.')) body
  rw [List.span_eq_takeWhile_dropWhile] at h
  generalize body.takeWhile _ = digits at h hsplit
  generalize body.dropWhile _ = fraction at h hsplit hpoint
  rw [← hsplit] at hsign
  cases fraction with
  | nil =>
      dsimp only at h
      split at h
      · rename_i joined hjoin
        exact wholeShape_of_joinDigits? hsign (fun _ : true = true => .inl rfl) hjoin h
      · cases h
  | cons c zeros =>
      obtain rfl : c = '.' := by simpa using hpoint c rfl
      dsimp only at h
      split at h
      · rename_i joined hjoin
        have hfraction (hok : (!zeros.isEmpty && zeros.all (· = '0')) = true) :
            IsZeroFraction ('.' :: zeros) := by
          rw [Bool.and_eq_true, List.all_eq_true] at hok
          have hzeros : ∀ d ∈ zeros, d = '0' := fun d hd => of_decide_eq_true (hok.2 d hd)
          exact .inr ⟨zeros.length, congrArg _ (List.eq_replicate_of_mem hzeros)⟩
        exact wholeShape_of_joinDigits? hsign hfraction hjoin h
      · cases h

/-- A text that stands for an integer is read as the nearest number once its underscores are
joined. -/
theorem exists_core?_of_wholeShape {text : String} {i : Int} (h : WholeShape text i) :
    ∃ joined x, joinDigits? false (trimChars isSpace text.toList) = some joined
      ∧ core? joined = some x ∧ x.place? = (Binary64.ofInt i).place? := by
  obtain ⟨negative, digits, fraction, joined, hsign, hfraction, hjoin, hne, hdigits, rfl⟩ := h
  obtain ⟨k, hread⟩ := exists_decimal?_whole hne hdigits hfraction
  have hnone : ∀ c ∈ fraction, c ≠ '_' := by
    rcases hfraction with rfl | ⟨k, rfl⟩
    · nofun
    · refine List.forall_mem_cons.mpr ⟨by decide, fun c hc => ?_⟩
      rw [List.eq_of_mem_replicate hc]
      decide
  obtain ⟨whole, hwhole, hsigned⟩ := exists_joinDigits?_of_sign hsign
    (joinDigits?_append hjoin hnone) (Binary64.sign_of_decimal? hread)
  exact ⟨whole, _, hwhole, core?_of_decimal? hsigned hread,
    place?_toBinary64_whole negative (digitsValue 0 joined) k⟩

end Numeral

namespace Json

open Numeral Text

variable {text : String} {x : Binary64}

/-- A text is read in the free form once its underscores are joined. -/
theorem quantity?_of_core? {joined : List Char}
    (hjoin : joinDigits? false (trimChars isSpace text.toList) = some joined)
    (hcore : core? joined = some x) : (Json.str text).quantity? = some (.float x) := by
  let inner := trimChars isSpace text.toList
  -- Plain characters are left alone by everything that is done to a text before it is read.
  have hplain : ∀ c ∈ inner, IsPlain c ∨ c = '_' := by
    intro c hc
    by_cases hscore : c = '_'
    · exact .inr hscore
    · have hmem : c ∈ joined := by
        rw [joinDigits?_eq_filter hjoin]
        exact List.mem_filter.mpr ⟨hc, decide_eq_true hscore⟩
      exact .inl (isPlain_core? hcore c hmem)
  have htrim : (Text.trim text).toList = inner :=
    toList_trim fun c hc => (isPlain_spec (hplain c hc)).1
  have hpoints : inner.map (fun c => if c = ',' then '.' else c) = inner :=
    (List.map_congr_left fun c hc => (isPlain_spec (hplain c hc)).2.2).trans (List.map_id _)
  have hinner : trimChars isSpace inner = inner := trimChars_trimChars isSpace text.toList
  have hdigits : inner.map plainDigit = inner :=
    (List.map_congr_left fun c hc => (isPlain_spec (hplain c hc)).2.1).trans (List.map_id _)
  change ((free? (String.ofList ((Text.trim text).toList.map fun c =>
    if c = ',' then '.' else c))).map Number.float) = _
  rw [htrim, hpoints, free?, String.toList_ofList, hinner, hdigits, hjoin, Option.bind_some, hcore,
    Option.map_some]

/-- A numeral is read in the free form as it is. -/
theorem quantity?_of_core?_toList (hcore : core? text.toList = some x) :
    (Json.str text).quantity? = some (.float x) := by
  have hplain := isPlain_core? hcore
  have hinner : trimChars isSpace text.toList = text.toList := by
    have hspace : ∀ c ∈ text.toList, isSpace c = false := by
      intro c hc
      rw [← Bool.not_eq_true]
      intro hspace
      have hblank := isBlank_of_isSpace hspace
      rw [(isPlain_spec (.inl (hplain c hc))).1] at hblank
      cases hblank
    have hkept : trimChars isSpace ([] ++ (text.toList ++ [])) = text.toList :=
      trimChars_append nofun nofun (fun c hc => hspace c (List.mem_of_mem_head? hc))
        (fun c hc => hspace c (List.mem_of_mem_getLast? hc))
    rwa [List.append_nil, List.nil_append] at hkept
  refine quantity?_of_core? ?_ hcore
  rw [hinner]
  exact joinDigits?_of_forall_ne false fun c hc => (hplain c hc).2.2.2

/-- The text of a number stands for a number. -/
theorem quantity?_text (n : Number) : ∃ x, (Json.str n.text).quantity? = some (.float x) := by
  obtain ⟨x, hx⟩ := exists_core?_text n
  exact ⟨x, quantity?_of_core?_toList hx⟩

/-- Blanks at the ends of a text make no difference to the number it stands for. -/
theorem quantity?_trim (text : String) :
    (Json.str (Text.trim text)).quantity? = (Json.str text).quantity? := by
  have htrim : Text.trim (Text.trim text) = Text.trim text := by
    rw [Text.trim, Text.trim, String.toList_ofList, trimChars_trimChars]
  change numeral? (trim text) = numeral? text
  rw [numeral?, numeral?, htrim]

/-- A text of the data form is read as the same number in the free form, if its underscores stand
between digits. -/
theorem quantity?_of_data? (h : data? text = some x)
    (hscores : (joinDigits? false (trimChars isSpace text.toList)).isSome = true) :
    (Json.str text).quantity? = some (.float x) := by
  obtain ⟨joined, hjoin⟩ := Option.isSome_iff_exists.mp hscores
  apply quantity?_of_core? hjoin
  rw [data?] at h
  split at h
  · rename_i y hy
    have hall := joinDigits?_of_forall_ne false fun c hc => (isPlain_core? hy c hc).2.2.2
    rw [hjoin] at hall
    rw [Option.some.inj hall, hy, h]
  · split at h
    · cases h
    · rwa [trimChars_filter hjoin] at h

/-- A text of the whole form is read as the nearest number in the free form. -/
theorem quantity?_of_whole? {i : Int} (h : whole? text = some i) :
    ∃ x, (Json.str text).quantity? = some (.float x)
      ∧ x.place? = (Binary64.ofInt i).place? := by
  obtain ⟨joined, x, hjoin, hcore, hplace⟩ := exists_core?_of_wholeShape (wholeShape_of_whole? h)
  exact ⟨x, quantity?_of_core? hjoin hcore, hplace⟩

end Json

end Questionnaire
