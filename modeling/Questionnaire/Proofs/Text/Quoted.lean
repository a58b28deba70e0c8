import Mathlib.Algebra.Group.Nat.Defs
import Mathlib.Tactic.SplitIfs
import Questionnaire.Text.Quoted

/-!
Quoted texts are read back.  A character that was written inside quotes can be taken off the front
of what follows it, so a quoted text ends where its closing quote says and stands for one text only.
-/

namespace Questionnaire.Text

/-- The value of a hexadecimal digit. -/
def hexValue (c : Char) : Nat := if c.toNat < 58 then c.toNat - 48 else c.toNat - 87

/-- The value of a run of hexadecimal digits. -/
def hexNumber (digits : List Char) : Nat := digits.foldl (fun n c => n * 16 + hexValue c) 0

theorem hexValue_hexDigit : ∀ d < 16, hexValue (hexDigit d) = d := by decide

@[simp] theorem length_hexDigits (width n : Nat) : (hexDigits width n).length = width := by
  induction width generalizing n with
  | zero => rfl
  | succ width ih => rw [hexDigits, List.length_append, ih, List.length_singleton]

theorem hexNumber_hexDigits {width n : Nat} (h : n < 16 ^ width) :
    hexNumber (hexDigits width n) = n := by
  induction width generalizing n with
  | zero =>
      rw [Nat.pow_zero, Nat.lt_one_iff] at h
      rw [h]
      rfl
  | succ width ih =>
      have hquotient : n / 16 < 16 ^ width := by
        rw [Nat.pow_succ] at h
        omega
      have hrest := ih hquotient
      have hlast := hexValue_hexDigit (n % 16) (Nat.mod_lt n (by decide))
      rw [hexDigits, hexNumber, List.foldl_append, List.foldl_cons, List.foldl_nil, hlast]
      rw [hexNumber] at hrest
      rw [hrest]
      omega

/-- How many hexadecimal digits follow the mark of an escape. -/
def escapeWidth? (mark : Char) : Option Nat :=
  if mark = 'x' then some 2
  else if mark = 'u' then some 4
  else if mark = 'U' then some 8
  else none

/-- The character that an escape stands for, and what follows it. -/
def readEscape (mark : Char) (rest : List Char) : Char × List Char :=
  match escapeWidth? mark with
  | some width => (Char.ofNat (hexNumber (rest.take width)), rest.drop width)
  | none =>
    if mark = 'n' then ('\n', rest)
    else if mark = 'r' then ('\r', rest)
    else if mark = 't' then ('\t', rest)
    else (mark, rest)

/-- The first character of what was written inside quotes, and what follows it. -/
def readChar : List Char → Option (Char × List Char)
  | [] => none
  | c :: rest =>
    if c = '\\' then rest.head?.map fun mark => readEscape mark rest.tail else some (c, rest)

theorem readChar_hexDigits (mark : Char) {width : Nat} (hmark : escapeWidth? mark = some width)
    {c : Char} (h : c.toNat < 16 ^ width) (rest : List Char) :
    readChar ('\\' :: mark :: (hexDigits width c.toNat ++ rest)) = some (c, rest) := by
  have hread : readEscape mark (hexDigits width c.toNat ++ rest) = (c, rest) := by
    rw [readEscape, hmark]
    dsimp only
    rw [List.take_left' (length_hexDigits width c.toNat),
      List.drop_left' (length_hexDigits width c.toNat), hexNumber_hexDigits h, Char.ofNat_toNat]
  exact congrArg some hread

section Quote

variable {quote : Char} (hquote : quote = '\'' ∨ quote = '"')

include hquote

/-- A character written inside quotes is read back. -/
theorem readChar_quotedChar (c : Char) (rest : List Char) :
    readChar (quotedChar quote c ++ rest) = some (c, rest) := by
  unfold quotedChar
  split_ifs with hmark hnewline hreturn htab hprintable hbyte hshort
  · have hplain : readEscape c rest = (c, rest) := by
      rcases hmark with rfl | rfl
      · rcases hquote with rfl | rfl <;> rfl
      · rfl
    simp [readChar, hplain]
  · rw [hnewline]
    rfl
  · rw [hreturn]
    rfl
  · rw [htab]
    rfl
  · have hplain : c ≠ '\\' := fun hescape => hmark (Or.inr hescape)
    simp [readChar, hplain]
  · exact readChar_hexDigits 'x' rfl hbyte rest
  · exact readChar_hexDigits 'u' rfl hshort rest
  · have hlong : c.toNat < 16 ^ 8 := by
      have hvalid := c.valid
      simp only [UInt32.isValidChar, Nat.isValidChar] at hvalid
      simp only [Char.toNat]
      omega
    exact readChar_hexDigits 'U' rfl hlong rest

/-- No character is written so that it looks like the closing quote. -/
theorem exists_quotedChar (c : Char) :
    ∃ first rest, quotedChar quote c = first :: rest ∧ first ≠ quote := by
  have hescape : '\\' ≠ quote := by
    rcases hquote with rfl | rfl <;> decide
  unfold quotedChar
  split_ifs with hmark hnewline hreturn htab hprintable hbyte hshort
  · exact ⟨_, _, rfl, hescape⟩
  · exact ⟨_, _, rfl, hescape⟩
  · exact ⟨_, _, rfl, hescape⟩
  · exact ⟨_, _, rfl, hescape⟩
  · exact ⟨c, [], rfl, fun hclosing => hmark (Or.inl hclosing)⟩
  · exact ⟨_, _, rfl, hescape⟩
  · exact ⟨_, _, rfl, hescape⟩
  · exact ⟨_, _, rfl, hescape⟩

/-- What is written inside quotes ends where the quote stands.  By induction on the first text: both
go on with the same character, or end with the quote. -/
theorem flatMap_quotedChar_inj {s t rest other : List Char}
    (h : s.flatMap (quotedChar quote) ++ quote :: rest
      = t.flatMap (quotedChar quote) ++ quote :: other) : s = t ∧ rest = other := by
  induction s generalizing t with
  | nil =>
      cases t with
      | nil => exact ⟨rfl, (List.cons.inj h).2⟩
      | cons d t =>
          obtain ⟨first, more, hfirst, hne⟩ := exists_quotedChar hquote d
          rw [List.flatMap_nil, List.flatMap_cons, hfirst] at h
          exact absurd (List.cons.inj h).1.symm hne
  | cons c s ih =>
      cases t with
      | nil =>
          obtain ⟨first, more, hfirst, hne⟩ := exists_quotedChar hquote c
          rw [List.flatMap_nil, List.flatMap_cons, hfirst] at h
          exact absurd (List.cons.inj h).1 hne
      | cons d t =>
          rw [List.flatMap_cons, List.flatMap_cons, List.append_assoc, List.append_assoc] at h
          have hread := congrArg readChar h
          rw [readChar_quotedChar hquote, readChar_quotedChar hquote] at hread
          obtain ⟨rfl, hrest⟩ := Prod.mk.inj (Option.some.inj hread)
          obtain ⟨rfl, hother⟩ := ih hrest
          exact ⟨rfl, hother⟩

end Quote

theorem quoteFor_cases (s : List Char) : quoteFor s = '\'' ∨ quoteFor s = '"' := by
  rw [quoteFor]
  split
  · exact Or.inr rfl
  · exact Or.inl rfl

theorem head?_quoted (s : String) : (quoted s).toList.head? = some (quoteFor s.toList) := by
  simp [quoted]

/-- A quoted text can be told from what follows it. -/
theorem quoted_append_inj {s t : String} {rest other : List Char}
    (h : (quoted s).toList ++ rest = (quoted t).toList ++ other) : s = t ∧ rest = other := by
  simp only [quoted, String.toList_ofList, List.cons_append, List.append_assoc,
    List.nil_append] at h
  obtain ⟨hquote, hinside⟩ := List.cons.inj h
  rw [← hquote] at hinside
  obtain ⟨htext, hrest⟩ := flatMap_quotedChar_inj (quoteFor_cases s.toList) hinside
  exact ⟨String.toList_inj.mp htext, hrest⟩

end Questionnaire.Text
