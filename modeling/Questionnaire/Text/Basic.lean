/-!
Texts by their characters: the decimal digits of every script, of which each script has ten in a
row, the blank characters and texts without the blanks at their ends, texts within texts, and the
texts of files.
-/

namespace Questionnaire.Text

/-- The code points from the first to the last, both included. -/
abbrev Range := Nat × Nat

def Range.contains (r : Range) (c : Char) : Bool := r.1 ≤ c.toNat && c.toNat ≤ r.2

def inRanges (ranges : List Range) (c : Char) : Bool := ranges.any (·.contains c)

/-- The code points of the digits zero. -/
def zeroDigits : List Nat :=
  [0x30, 0x660, 0x6F0, 0x7C0, 0x966, 0x9E6, 0xA66, 0xAE6, 0xB66, 0xBE6, 0xC66, 0xCE6, 0xD66, 0xDE6,
    0xE50, 0xED0, 0xF20, 0x1040, 0x1090, 0x17E0, 0x1810, 0x1946, 0x19D0, 0x1A80, 0x1A90, 0x1B50,
    0x1BB0, 0x1C40, 0x1C50, 0xA620, 0xA8D0, 0xA900, 0xA9D0, 0xA9F0, 0xAA50, 0xABF0, 0xFF10, 0x104A0,
    0x10D30, 0x11066, 0x110F0, 0x11136, 0x111D0, 0x112F0, 0x11450, 0x114D0, 0x11650, 0x116C0,
    0x11730, 0x118E0, 0x11950, 0x11C50, 0x11D50, 0x11DA0, 0x16A60, 0x16AC0, 0x16B50, 0x1D7CE,
    0x1D7D8, 0x1D7E2, 0x1D7EC, 0x1D7F6, 0x1E140, 0x1E2F0, 0x1E950, 0x1FBF0]

/-- The value of a decimal digit of any script. -/
def digitValue? (c : Char) : Option Nat :=
  (zeroDigits.find? fun first => first ≤ c.toNat && c.toNat < first + 10).map (c.toNat - ·)

/-- The code points with the property of white space. -/
def spaceRanges : List Range :=
  [(0x9, 0xD), (0x20, 0x20), (0x85, 0x85), (0xA0, 0xA0), (0x1680, 0x1680), (0x2000, 0x200A),
    (0x2028, 0x2029), (0x202F, 0x202F), (0x205F, 0x205F), (0x3000, 0x3000)]

/-- White space, the only characters that may surround a numeral. -/
def isSpace (c : Char) : Bool := inRanges spaceRanges c

/-- White space, or one of the four information separators. -/
def isBlank (c : Char) : Bool := Range.contains (0x1C, 0x1F) c || isSpace c

/-- Drops the characters of a class from both ends. -/
def trimChars (drop : Char → Bool) (s : List Char) : List Char :=
  ((s.dropWhile drop).reverse.dropWhile drop).reverse

/-- The text without the blanks at its ends. -/
def trim (s : String) : String := String.ofList (trimChars isBlank s.toList)

/-- A text of blanks only says nothing. -/
def allBlank (s : String) : Bool := s.toList.all isBlank

theorem isBlank_of_isWhitespace {c : Char} (h : c.isWhitespace = true) : isBlank c = true := by
  simp only [Char.isWhitespace, Bool.or_eq_true, decide_eq_true_eq] at h
  rcases h with ((rfl | rfl) | rfl) | rfl <;> decide

def containsChars (needle : List Char) : List Char → Bool
  | [] => needle.isEmpty
  | c :: rest => needle.isPrefixOf (c :: rest) || containsChars needle rest

/-- Whether the second text occurs in the first. -/
def contains (s needle : String) : Bool := containsChars needle.toList s.toList

theorem containsChars_iff (needle s : List Char) :
    containsChars needle s = true ↔ ∃ before after, s = before ++ needle ++ after := by
  induction s with
  | nil =>
    simp only [containsChars, List.isEmpty_iff]
    constructor
    · rintro rfl
      exact ⟨[], [], rfl⟩
    · rintro ⟨before, after, h⟩
      simp at h
      exact h.2.1
  | cons c rest ih =>
    simp only [containsChars, Bool.or_eq_true, List.isPrefixOf_iff_prefix, ih]
    constructor
    · rintro (⟨after, h⟩ | ⟨before, after, h⟩)
      · exact ⟨[], after, by simpa using h.symm⟩
      · exact ⟨c :: before, after, by simp [h]⟩
    · rintro ⟨before, after, h⟩
      cases before with
      | nil => exact Or.inl ⟨after, by simpa using h.symm⟩
      | cons b before =>
        simp only [List.cons_append, List.cons.injEq] at h
        exact Or.inr ⟨before, after, h.2⟩

/-- Every carriage return, with a newline after it or alone, as a newline. -/
def joinLineEnds : List Char → List Char
  | [] => []
  | '\r' :: '\n' :: rest => '\n' :: joinLineEnds rest
  | '\r' :: rest => '\n' :: joinLineEnds rest
  | c :: rest => c :: joinLineEnds rest

def dropMark : List Char → List Char
  | '\uFEFF' :: rest => rest
  | s => s

/-- The text of a file with this content. -/
def ofFile (content : String) : String := String.ofList (joinLineEnds (dropMark content.toList))

/-- No carriage return is left. -/
theorem return_not_mem_joinLineEnds (s : List Char) : '\r' ∉ joinLineEnds s := by
  fun_induction joinLineEnds s with
  | case1 => simp
  | case2 rest ih => simp [ih]
  | case3 rest _ ih => simp [ih]
  | case4 c rest _ hc ih => simp [ih, Ne.symm hc]

end Questionnaire.Text
