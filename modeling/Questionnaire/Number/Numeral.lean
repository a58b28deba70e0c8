import Questionnaire.Number.Digits
import Questionnaire.Text.Basic

/-!
Numerals, the texts that are read as numbers.  Three grammars share one core, a sign with digits, a
fraction and an exponent or with the name of a value that is not finite:

* the free form takes the digits of every script and single underscores between digits;
* the data form takes ASCII digits, and single underscores anywhere inside;
* the whole form takes ASCII digits with single underscores between them and zeros after the point.
-/

namespace Questionnaire.Numeral

open Text

/-- The value of a run of digits, continued from `n`. -/
def digitsValue (n : Nat) (s : List Char) : Nat :=
  s.foldl (fun acc c => acc * 10 + (c.toNat - 48)) n

def isDigit (c : Char) : Bool := '0' ≤ c && c ≤ '9'

/-- Takes one sign off; the flag says that it is a minus. -/
def sign : List Char → Bool × List Char
  | '-' :: rest => (true, rest)
  | '+' :: rest => (false, rest)
  | s => (false, s)

/-- An exponent, which may be missing but not empty, up to the end. -/
def exponent? : List Char → Option Int
  | [] => some 0
  | c :: rest =>
    if c = 'e' ∨ c = 'E' then
      let (negative, digits) := sign rest
      if digits.isEmpty || !digits.all isDigit then none
      else
        let value : Int := digitsValue 0 digits
        some (if negative then -value else value)
    else none

/-- Digits with an optional fraction and an optional exponent, and at least one digit before the
exponent. -/
def decimal? (s : List Char) : Option Digits :=
  let whole := s.takeWhile isDigit
  let rest := s.dropWhile isDigit
  let (fraction, rest) := match rest with
    | '.' :: tail => (tail.takeWhile isDigit, tail.dropWhile isDigit)
    | _ => ([], rest)
  if whole.isEmpty && fraction.isEmpty then none
  else (exponent? rest).map fun e => ⟨digitsValue 0 (whole ++ fraction), e - fraction.length⟩

/-- The core grammar, on characters without blanks and underscores. -/
def core? (s : List Char) : Option Binary64 :=
  let (negative, body) := sign s
  let name := body.map Char.toLower
  if name = ['n', 'a', 'n'] then some .nan
  else if name = ['i', 'n', 'f'] ∨ name = "infinity".toList then some (.infinite negative)
  else (decimal? body).map (·.toBinary64 negative)

/-- Takes out the underscores that stand between two digits; `afterDigit` says that the character
before is one.  Any other underscore is refused. -/
def joinDigits? (afterDigit : Bool) : List Char → Option (List Char)
  | [] => some []
  | '_' :: c :: rest =>
    if afterDigit && isDigit c then (joinDigits? true rest).map (c :: ·) else none
  | c :: rest => if c = '_' then none else (joinDigits? (isDigit c) rest).map (c :: ·)

/-- The ASCII digit of the same value. -/
def plainDigit (c : Char) : Char :=
  match digitValue? c with
  | some value => Char.ofNat (48 + value)
  | none => c

/-- Reads the free form. -/
def free? (s : String) : Option Binary64 :=
  (joinDigits? false ((trimChars isSpace s.toList).map plainDigit)).bind core?

/-- Whether the text holds two underscores in a row. -/
def hasDoubleUnderscore : List Char → Bool
  | '_' :: '_' :: _ => true
  | _ :: rest => hasDoubleUnderscore rest
  | [] => false

/-- Reads the data form. -/
def data? (s : String) : Option Binary64 :=
  let chars := s.toList
  match core? (trimChars isSpace chars) with
  | some x => some x
  | none =>
    if chars.head? = some '_' || chars.getLast? = some '_' || hasDoubleUnderscore chars
        || !chars.contains '_' then none
    else core? (trimChars isSpace (chars.filter (· ≠ '_')))

/-- Reads the whole form. -/
def whole? (s : String) : Option Int :=
  let (negative, body) := sign (trimChars isSpace s.toList)
  let (digits, zeros) := match body.span (· ≠ '.') with
    | (digits, '.' :: zeros) => (digits, some zeros)
    | (digits, _) => (digits, none)
  let zerosOk := match zeros with
    | some zeros => !zeros.isEmpty && zeros.all (· = '0')
    | none => true
  match joinDigits? false digits with
  | some joined =>
    if zerosOk && !joined.isEmpty && joined.all isDigit then
      let value : Int := digitsValue 0 joined
      some (if negative then -value else value)
    else none
  | none => none

end Questionnaire.Numeral
