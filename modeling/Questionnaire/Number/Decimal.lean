import Questionnaire.Number.Basic

/-!
Decimal arithmetic with a working precision of 28 significant digits.  A number enters as the
decimal quantity that its plain text denotes, and a result with more digits than the precision is
rounded to it, the even neighbour taking a tie.
-/

namespace Questionnaire

/-- A decimal quantity `coefficient * 10 ^ exponent`, an infinity, or not a number. -/
inductive Decimal where
  | nan
  | infinite (negative : Bool)
  | finite (coefficient : Int) (exponent : Int)
deriving DecidableEq

namespace Decimal

attribute [local instance] Binary64.corePow

/-- The number of significant digits of a result. -/
def precision : Nat := 28

/-- The quantity that the plain text of a number denotes, if it has one.  A whole binary number in
positional form carries one decimal place. -/
def ofNumber : Number → Decimal
  | .int value => .finite value 0
  | .float .nan => .nan
  | .float (.infinite negative) => .infinite negative
  | .float (.finite negative units _) =>
    let digits := Digits.shortest units
    let signed (n : Nat) : Int := if negative then -(n : Int) else n
    if 0 ≤ digits.exponent ∧ digits.leading < 16 then
      .finite (signed (digits.coefficient * 10 ^ (digits.exponent.toNat + 1))) (-1)
    else .finite (signed digits.coefficient) digits.exponent

/-- Brings a quantity to the precision. -/
def round (coefficient : Int) (exponent : Int) : Decimal :=
  let excess := Digits.count coefficient.natAbs - precision
  if excess = 0 then .finite coefficient exponent
  else
    let rounded := Binary64.divHalfEven coefficient.natAbs (10 ^ excess)
    let signed (n : Nat) : Int := if coefficient < 0 then -(n : Int) else n
    if rounded = 10 ^ precision then .finite (signed (rounded / 10)) (exponent + excess + 1)
    else .finite (signed rounded) (exponent + excess)

/-- A coefficient counted in a smaller or equal power of ten. -/
def scaled (coefficient exponent smaller : Int) : Int :=
  coefficient * 10 ^ (exponent - smaller).toNat

def neg : Decimal → Decimal
  | .nan => .nan
  | .infinite negative => .infinite (!negative)
  | .finite coefficient exponent => .finite (-coefficient) exponent

/-- The rounded sum; two infinities of different sign have none. -/
def add : Decimal → Decimal → Except Fault Decimal
  | .nan, _ => .ok .nan
  | _, .nan => .ok .nan
  | .infinite s, .infinite t => if s = t then .ok (.infinite s) else .error .noDecimalResult
  | .infinite s, _ => .ok (.infinite s)
  | _, .infinite t => .ok (.infinite t)
  | .finite a e, .finite b f =>
    let smaller := min e f
    .ok (round (scaled a e smaller + scaled b f smaller) smaller)

def sub (x y : Decimal) : Except Fault Decimal := x.add y.neg

/-- Whether the remainder of a division is zero.  The whole quotient has to fit the precision, and
the divisor is not zero. -/
def isMultipleOf : Decimal → Decimal → Except Fault Bool
  | .nan, _ => .ok false
  | _, .nan => .ok false
  | .infinite _, _ => .error .noDecimalResult
  | .finite a _, .infinite _ => .ok (a = 0)
  | .finite a e, .finite b f =>
    let smaller := min e f
    let dividend := (scaled a e smaller).natAbs
    let divisor := (scaled b f smaller).natAbs
    if divisor = 0 then .error .noDecimalResult
    else if 10 ^ precision ≤ dividend / divisor then .error .noDecimalResult
    else .ok (dividend % divisor = 0)

/-- Equality of quantities; not a number equals nothing. -/
def same : Decimal → Decimal → Bool
  | .infinite s, .infinite t => s = t
  | .finite a e, .finite b f => scaled a e (min e f) = scaled b f (min e f)
  | _, _ => false

/-- The sum from left to right, rounded after each step. -/
def sum (terms : List Decimal) : Except Fault Decimal := terms.foldlM add (.finite 0 0)

/-- Positional form down to six zeros after the point, else one digit before the point and an
exponent with its sign. -/
def finiteText (coefficient : Nat) (exponent : Int) : List Char :=
  let digits := Nat.toDigits 10 coefficient
  let leading := exponent + digits.length - 1
  if exponent ≤ 0 ∧ -6 ≤ leading then Digits.positionalText ⟨coefficient, exponent⟩ false
  else
    let mantissa := match digits with
      | first :: second :: rest => first :: '.' :: second :: rest
      | short => short
    mantissa ++ 'E' :: (if leading < 0 then '-' else '+') :: Nat.toDigits 10 leading.natAbs

def text : Decimal → String
  | .nan => "NaN"
  | .infinite negative => if negative then "-Infinity" else "Infinity"
  | .finite coefficient exponent =>
    let body := finiteText coefficient.natAbs exponent
    String.ofList (if coefficient < 0 then '-' :: body else body)

end Decimal

end Questionnaire
