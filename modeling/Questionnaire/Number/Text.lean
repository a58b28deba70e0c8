import Questionnaire.Number.Digits

/-!
Texts of numbers.  Which digits are written is decided in `Digits`; how they are laid out (where
positional form ends, whether a whole number keeps its point, how the exponent is written) is one
record value per output format.
-/

namespace Questionnaire

/-- How the digits of a number are laid out. -/
structure NumberStyle where
  /-- The leading powers of ten that are written positionally, from the first to before the second;
  `none` writes every number positionally. -/
  positional : Option (Int × Int)
  /-- Whether a whole number in positional form ends in `.0`. -/
  keepsPoint : Bool
  nanText : String
  infinityText : String

namespace NumberStyle

/-- The form in which a number is shown to a reader and written to a log. -/
def plain : NumberStyle := ⟨some (-4, 16), true, "nan", "inf"⟩

/-- The form in which a number is written in a data document. -/
def document : NumberStyle := ⟨some (-4, 16), true, "NaN", "Infinity"⟩

/-- The form in which a bound is quoted in a validation message. -/
def bound : NumberStyle := ⟨none, false, "NaN", "inf"⟩

/-- The compact form with six significant digits. -/
def compact : NumberStyle := ⟨some (-4, 6), false, "nan", "inf"⟩

end NumberStyle

namespace Digits

private def zeros (n : Nat) : List Char := List.replicate n '0'

/-- The digits with a decimal point and no exponent. -/
def positionalText (d : Digits) (keepsPoint : Bool) : List Char :=
  let digits := Nat.toDigits 10 d.coefficient
  if 0 ≤ d.exponent then
    digits ++ zeros d.exponent.toNat ++ (if keepsPoint then ['.', '0'] else [])
  else
    let decimals := (-d.exponent).toNat
    if decimals < digits.length then
      digits.take (digits.length - decimals) ++ '.' :: digits.drop (digits.length - decimals)
    else '0' :: '.' :: zeros (decimals - digits.length) ++ digits

/-- An exponent of at least two digits with its sign. -/
def exponentPart (exponent : Int) : List Char :=
  let size := Nat.toDigits 10 exponent.natAbs
  'e' :: (if exponent < 0 then '-' else '+') :: zeros (2 - size.length) ++ size

/-- One digit before the point, and the exponent. -/
def scientificText (d : Digits) : List Char :=
  let mantissa := match Nat.toDigits 10 d.coefficient with
    | first :: second :: rest => first :: '.' :: second :: rest
    | short => short
  mantissa ++ exponentPart d.leading

/-- One digit before the point, a fixed number of digits after it, and the exponent. -/
def fixedScientific (places : Nat) (d : Digits) : List Char :=
  let digits := (Nat.toDigits 10 d.coefficient ++ zeros places).take (places + 1)
  let mantissa := if places = 0 then digits else digits.take 1 ++ '.' :: digits.drop 1
  mantissa ++ exponentPart d.leading

/-- Digits that were rounded up to a power of ten, without the digit too many. -/
def atMost (size : Nat) (d : Digits) : Digits :=
  if size < count d.coefficient then ⟨d.coefficient / 10, d.exponent + 1⟩ else d

/-- Digits without trailing zeros in a given style. -/
def text (style : NumberStyle) (d : Digits) : List Char :=
  match style.positional with
  | none => d.positionalText style.keepsPoint
  | some (first, last) =>
    if first ≤ d.leading ∧ d.leading < last then d.positionalText style.keepsPoint
    else d.scientificText

end Digits

namespace Binary64

private def signed (negative : Bool) (text : List Char) : String :=
  String.ofList (if negative then '-' :: text else text)

/-- The text of a number whose digits are chosen by `choose`. -/
def textWith (style : NumberStyle) (choose : Nat → Digits) : Binary64 → String
  | .nan => style.nanText
  | .infinite negative => signed negative style.infinityText.toList
  | .finite negative units _ => signed negative ((choose units).text style)

/-- The fewest digits that are read as the number, in a given style. -/
def text (style : NumberStyle) : Binary64 → String := textWith style Digits.shortest

/-- Six significant digits at most. -/
def compactText : Binary64 → String :=
  textWith .compact fun units =>
    if units = 0 then ⟨0, 0⟩ else (Digits.significant 6 units).normalize

/-- At most the given count of significant digits, of which there is at least one; the exponent form
begins where these digits end. -/
def significantText (precision : Nat) : Binary64 → String :=
  let count := max 1 precision
  textWith { NumberStyle.compact with positional := some (-4, count) } fun units =>
    if units = 0 then ⟨0, 0⟩ else (Digits.significant count units).normalize

def isZero : Binary64 → Bool
  | .finite _ units _ => units = 0
  | _ => false

/-- Exactly the given count of significant digits, at least one; zero is written positionally. -/
def fullText (precision : Nat) (x : Binary64) : String :=
  let count := max 1 precision
  let style := { NumberStyle.compact with
    positional := if x.isZero then none else some (-4, count) }
  textWith style (fun units =>
    if units = 0 then ⟨0, 1 - count⟩ else (Digits.significant count units).atMost count) x

/-- The exponent form with a fixed number of digits after the point. -/
def exponentText (places : Nat) : Binary64 → String
  | .nan => "nan"
  | .infinite negative => signed negative ['i', 'n', 'f']
  | .finite negative units _ =>
    signed negative (if units = 0 then Digits.fixedScientific places ⟨0, 0⟩
      else Digits.fixedScientific places (Digits.significant (places + 1) units))

/-- A fixed number of digits after the point. -/
def placesText (places : Nat) : Binary64 → String :=
  textWith { NumberStyle.compact with positional := none } (Digits.places places)

end Binary64

end Questionnaire
