import Mathlib.Tactic.SplitIfs
import Questionnaire.Json.Reader
import Questionnaire.Json.Writer
import Questionnaire.Proofs.Text.Quoted

/-!
Texts in documents are read back.  What is written of a character is read as its code point, or as
the two halves of a pair of surrogates, which are joined again; no character is written so that a
quote, a backslash or a control character of its own is left inside the quotes.
-/

namespace Questionnaire.Json

open Text (hexDigit hexDigits)

variable {rest : List Char}

theorem hexValue?_hexDigit : ∀ d < 16, hexValue? (hexDigit d) = some d := by decide

/-- The four digits of a code unit are read as the unit. -/
theorem exists_hexDigits_four {n : Nat} (h : n < 0x10000) :
    ∃ a b c d, hexDigits 4 n = [a, b, c, d] ∧ hex4? a b c d = some n := by
  have hdigit (m : Nat) : hexValue? (hexDigit (m % 16)) = some (m % 16) :=
    hexValue?_hexDigit _ (Nat.mod_lt m (by decide))
  refine ⟨_, _, _, _, rfl, ?_⟩
  rw [hex4?, hdigit, hdigit, hdigit, hdigit]
  refine congrArg some ?_
  omega

theorem units_unitEscape (start : Nat) {n : Nat} (h : n < 0x10000) (hrest : rest ≠ []) :
    units start (unitEscape n ++ rest)
      = (units start rest).map fun (ns, after) => (n :: ns, after) := by
  obtain ⟨a, b, c, d, hdigits, hvalue⟩ := exists_hexDigits_four h
  obtain ⟨next, tail, rfl⟩ := List.exists_cons_of_ne_nil hrest
  have hunit : unitEscape n ++ next :: tail = '\\' :: 'u' :: a :: b :: c :: d :: next :: tail := by
    rw [unitEscape, hdigits]
    rfl
  rw [hunit, units, hvalue]

/-- The code units that a character is written as. -/
def codeUnits (ascii : Bool) (c : Char) : List Nat :=
  if ascii = true ∧ 0x10000 ≤ c.toNat then
    [0xD800 + (c.toNat - 0x10000) / 0x400, 0xDC00 + (c.toNat - 0x10000) % 0x400]
  else [c.toNat]

/-- A code point is a scalar value. -/
theorem toNat_valid (c : Char) : c.toNat < 0xD800 ∨ 0xDFFF < c.toNat ∧ c.toNat < 0x110000 :=
  c.valid

theorem units_codeEscape (start : Nat) (c : Char) (hrest : rest ≠ []) :
    units start (codeEscape c.toNat ++ rest)
      = (units start rest).map fun (ns, after) => (codeUnits true c ++ ns, after) := by
  have hvalid := toNat_valid c
  unfold codeEscape codeUnits
  split
  · rename_i hshort
    rw [if_neg fun hlong => Nat.not_le.mpr hshort hlong.2]
    exact units_unitEscape start hshort hrest
  · rename_i hlong
    rw [if_pos ⟨rfl, Nat.not_lt.mp hlong⟩, List.append_assoc,
      units_unitEscape start (by omega) (by simp [unitEscape]),
      units_unitEscape start (by omega) hrest]
    cases units start rest <;> rfl

theorem units_simpleEscape (start : Nat) {mark c : Char} (h : simpleEscape? mark = some c)
    (hmark : mark ≠ 'u') : units start ('\\' :: mark :: rest)
      = (units start rest).map fun (ns, after) => (c.toNat :: ns, after) := by
  rw [units, h]
  · exact fun _ _ _ _ _ _ hunit => absurd hunit hmark
  · exact fun hunit => absurd hunit hmark

/-- The three ways to write a character inside quotes. -/
inductive WrittenChar (ascii : Bool) (c : Char) : List Char → Prop
  | mark {mark : Char} (hmark : simpleEscape? mark = some c) (hunit : mark ≠ 'u')
      (hcode : c.toNat < 0x80) : WrittenChar ascii c ['\\', mark]
  | code (hcode : c.toNat < 0x20 ∨ ascii = true) : WrittenChar ascii c (codeEscape c.toNat)
  | plain (hquote : c ≠ '"') (hescape : c ≠ '\\') (hcontrol : 0x20 ≤ c.toNat)
      (hcode : ascii = true → c.toNat < 0x80) : WrittenChar ascii c [c]

theorem writtenChar_writeChar (ascii : Bool) (c : Char) :
    WrittenChar ascii c (writeChar ascii c) := by
  unfold writeChar
  split_ifs with hquote hescape hnewline hreturn htab hfeed hback hcontrol hascii
  · subst hquote
    exact .mark rfl (by decide) (by decide)
  · subst hescape
    exact .mark rfl (by decide) (by decide)
  · subst hnewline
    exact .mark rfl (by decide) (by decide)
  · subst hreturn
    exact .mark rfl (by decide) (by decide)
  · subst htab
    exact .mark rfl (by decide) (by decide)
  · subst hfeed
    exact .mark rfl (by decide) (by decide)
  · subst hback
    exact .mark rfl (by decide) (by decide)
  · exact .code (.inl hcontrol)
  · exact .code (.inr (Bool.and_eq_true_iff.mp hascii).1)
  · refine .plain hquote hescape (Nat.not_lt.mp hcontrol) fun htrue => ?_
    rw [htrue, Bool.true_and, decide_eq_true_eq] at hascii
    omega

theorem codeUnits_of_short {ascii : Bool} {c : Char} (h : ascii = true → c.toNat < 0x10000) :
    codeUnits ascii c = [c.toNat] :=
  if_neg fun hlong => Nat.not_le.mpr (h hlong.1) hlong.2

/-- A character inside quotes is read as its code units. -/
theorem units_writeChar (start : Nat) (ascii : Bool) (c : Char) (hrest : rest ≠ []) :
    units start (writeChar ascii c ++ rest)
      = (units start rest).map fun (ns, after) => (codeUnits ascii c ++ ns, after) := by
  have hwritten := writtenChar_writeChar ascii c
  generalize writeChar ascii c = written at hwritten ⊢
  cases hwritten with
  | mark hmark hunit hcode =>
      rw [codeUnits_of_short fun _ => by omega]
      exact units_simpleEscape start hmark hunit
  | code hcode =>
      have hunits : codeUnits ascii c = codeUnits true c := by
        rcases hcode with hcontrol | rfl
        · rw [codeUnits_of_short fun _ => by omega, codeUnits_of_short fun _ => by omega]
        · rfl
      rw [units_codeEscape start c hrest, hunits]
  | plain hquote hescape hcontrol hcode =>
      rw [codeUnits_of_short fun htrue => by have := hcode htrue; omega]
      change units start (c :: rest) = _
      rw [units, if_neg (by omega)]
      · rfl
      · exact hquote
      · exact fun hbackslash _ => hescape hbackslash
      · exact fun _ _ _ _ _ _ hbackslash _ => hescape hbackslash
      · exact fun _ hbackslash _ => hescape hbackslash
      · exact fun _ _ hbackslash _ => hescape hbackslash

/-- The halves of a pair are joined to the character, and any other code unit is the character. -/
theorem joinPairs_codeUnits (ascii : Bool) (c : Char) (ns : List Nat) :
    joinPairs (codeUnits ascii c ++ ns) = (joinPairs ns).map (c :: ·) := by
  have hvalid := toNat_valid c
  unfold codeUnits
  split
  · rename_i hlong
    obtain ⟨-, hlong⟩ := hlong
    have hhigh : isHighSurrogate (0xD800 + (c.toNat - 0x10000) / 0x400) = true := by
      simp only [isHighSurrogate, Bool.and_eq_true, decide_eq_true_eq]
      omega
    have hlow : isLowSurrogate (0xDC00 + (c.toNat - 0x10000) % 0x400) = true := by
      simp only [isLowSurrogate, Bool.and_eq_true, decide_eq_true_eq]
      omega
    have hcode : 0x10000 + (0xD800 + (c.toNat - 0x10000) / 0x400 - 0xD800) * 0x400
        + (0xDC00 + (c.toNat - 0x10000) % 0x400 - 0xDC00) = c.toNat := by omega
    change joinPairs (_ :: _ :: ns) = _
    rw [joinPairs, hhigh, hlow, hcode, Char.ofNat_toNat]
    rfl
  · have hhigh : isHighSurrogate c.toNat = false := by
      simp only [isHighSurrogate, Bool.and_eq_false_iff, decide_eq_false_iff_not]
      omega
    have hlow : isLowSurrogate c.toNat = false := by
      simp only [isLowSurrogate, Bool.and_eq_false_iff, decide_eq_false_iff_not]
      omega
    have hscalar : scalar? c.toNat = some c := by
      rw [scalar?, hhigh, hlow]
      exact congrArg some (Char.ofNat_toNat c)
    cases ns with
    | nil =>
        change joinPairs [c.toNat] = some [c]
        rw [joinPairs, hscalar]
        rfl
    | cons next ns =>
        change joinPairs (c.toNat :: next :: ns) = _
        rw [joinPairs, hhigh, hscalar]
        cases joinPairs (next :: ns) <;> rfl

/-- What is written inside quotes is read up to the closing quote. -/
theorem units_flatMap_writeChar (start : Nat) (ascii : Bool) (s rest : List Char) :
    units start (s.flatMap (writeChar ascii) ++ '"' :: rest)
      = .ok (s.flatMap (codeUnits ascii), rest) := by
  induction s with
  | nil => rfl
  | cons c s ih =>
      rw [List.flatMap_cons, List.append_assoc, units_writeChar start ascii c (by simp), ih]
      rfl

theorem joinPairs_flatMap_codeUnits (ascii : Bool) (s : List Char) :
    joinPairs (s.flatMap (codeUnits ascii)) = some s := by
  induction s with
  | nil => rfl
  | cons c s ih =>
      rw [List.flatMap_cons, joinPairs_codeUnits, ih]
      rfl

/-- A text inside quotes is read back, and what follows the closing quote is left. -/
theorem text_flatMap_writeChar (start : Nat) (ascii : Bool) (s : String) (rest : List Char) :
    text start (s.toList.flatMap (writeChar ascii) ++ '"' :: rest) = .ok (s, rest) := by
  have hjoined := joinPairs_flatMap_codeUnits ascii s.toList
  rw [text, units_flatMap_writeChar]
  simp only [bind, Except.bind, hjoined, String.ofList_toList]
  rfl

/-- No control character. -/
def IsPrinted (c : Char) : Prop := 0x20 ≤ c.toNat

instance (c : Char) : Decidable (IsPrinted c) := inferInstanceAs (Decidable (_ ≤ _))

/-- That given characters are printed is seen by going through them. -/
theorem isPrinted_of_all {s : List Char} (h : s.all (IsPrinted ·) = true) : ∀ c ∈ s, IsPrinted c :=
  fun c hc => of_decide_eq_true (List.all_eq_true.mp h c hc)

theorem isPrinted_unitEscape (n : Nat) : ∀ c ∈ unitEscape n, IsPrinted c := by
  have hdigit (m : Nat) : IsPrinted (hexDigit (m % 16)) := by
    have hall : ∀ d < 16, IsPrinted (hexDigit d) := by decide
    exact hall _ (Nat.mod_lt m (by decide))
  have hmarks : ∀ c ∈ ['\\', 'u'], IsPrinted c := isPrinted_of_all rfl
  have hdigits : ∀ c ∈ hexDigits 4 n, IsPrinted c :=
    List.forall_mem_cons.mpr ⟨hdigit _, List.forall_mem_cons.mpr ⟨hdigit _,
      List.forall_mem_cons.mpr ⟨hdigit _, List.forall_mem_singleton.mpr (hdigit _)⟩⟩⟩
  exact List.forall_mem_append.mpr ⟨hmarks, hdigits⟩

/-- Control characters are escaped. -/
theorem isPrinted_writeChar (ascii : Bool) (c : Char) : ∀ d ∈ writeChar ascii c, IsPrinted d := by
  have hwritten := writtenChar_writeChar ascii c
  generalize writeChar ascii c = written at hwritten ⊢
  cases hwritten with
  | @mark mark hmark hunit hcode =>
      have hvisible : IsPrinted mark := by
        unfold simpleEscape? at hmark
        split at hmark <;> first | decide | cases hmark
      exact List.forall_mem_cons.mpr ⟨by decide, List.forall_mem_singleton.mpr hvisible⟩
  | code hcode =>
      unfold codeEscape
      split
      · exact isPrinted_unitEscape _
      · exact List.forall_mem_append.mpr ⟨isPrinted_unitEscape _, isPrinted_unitEscape _⟩
  | plain hquote hescape hcontrol hcode => exact List.forall_mem_singleton.mpr hcontrol

theorem isPrinted_writeText (ascii : Bool) (s : String) : ∀ c ∈ writeText ascii s, IsPrinted c := by
  have hinside : ∀ c ∈ s.toList.flatMap (writeChar ascii), IsPrinted c := by
    intro c hc
    obtain ⟨d, -, hd⟩ := List.mem_flatMap.mp hc
    exact isPrinted_writeChar ascii d c hd
  exact List.forall_mem_append.mpr ⟨List.forall_mem_cons.mpr ⟨by decide, hinside⟩,
    List.forall_mem_singleton.mpr (by decide)⟩

end Questionnaire.Json
