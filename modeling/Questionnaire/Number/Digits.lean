import Questionnaire.Number.Binary64

/-!
Decimal digits of a binary number: the fewest that read back, a given count of significant ones,
and a given count after the point.  All three are found in exact integer arithmetic.
-/

namespace Questionnaire

/-- A non-negative decimal quantity `coefficient * 10 ^ exponent`. -/
structure Digits where
  coefficient : Nat
  exponent : Int
deriving DecidableEq

namespace Digits

attribute [local instance] Binary64.corePow

/-- The number of decimal digits of a natural number, one for zero. -/
def count (n : Nat) : Nat := (Nat.toDigits 10 n).length

/-- The power of ten of the leading digit. -/
def leading (d : Digits) : Int := d.exponent + (count d.coefficient : Int) - 1

/-- Moves up to `fuel` trailing zeros of the coefficient into the exponent. -/
def dropZeros : Nat → Nat → Int → Digits
  | 0, n, e => ⟨n, e⟩
  | fuel + 1, n, e => if n ≠ 0 ∧ n % 10 = 0 then dropZeros fuel (n / 10) (e + 1) else ⟨n, e⟩

/-- The same quantity with no trailing zero in the coefficient. -/
def normalize (d : Digits) : Digits := dropZeros (count d.coefficient) d.coefficient d.exponent

/-- The quantity in units, as a fraction. -/
def inUnits (d : Digits) : Nat × Nat :=
  if 0 ≤ d.exponent then (d.coefficient * 10 ^ d.exponent.toNat * Binary64.one, 1)
  else (d.coefficient * Binary64.one, 10 ^ (-d.exponent).toNat)

/-- The magnitude on the format's grid nearest to the quantity, the limit left out of account. -/
def units (d : Digits) : Nat := Binary64.roundUnits d.inUnits.1 d.inUnits.2

/-- The number that the digits are read as, under the given sign.  A quantity of `10 ^ 309` or more
is past the limit, and one below `10 ^ -324` is nearer to zero than to the first unit. -/
def toBinary64 (negative : Bool) (d : Digits) : Binary64 :=
  if d.coefficient = 0 then .finite negative 0 Binary64.fits_zero
  else if 309 ≤ d.leading then .infinite negative
  else if d.leading < -324 then .finite negative 0 Binary64.fits_zero
  else .ofUnits negative d.inUnits.1 d.inUnits.2

/-- The power of ten of the leading digit of a positive magnitude; the smallest is `-324`. -/
def magnitude (u : Nat) : Int := (count (u * 10 ^ (324 : Nat) / Binary64.one) : Int) - 325

/-- The magnitude counted in steps of `10 ^ exponent`, as a fraction. -/
def inSteps (u : Nat) (exponent : Int) : Nat × Nat :=
  if 0 ≤ exponent then (u, Binary64.one * 10 ^ exponent.toNat)
  else (u * 10 ^ (-exponent).toNat, Binary64.one)

/-- The magnitude with `k` significant digits, the nearest such and the even one of two. -/
def significant (k u : Nat) : Digits :=
  let e := magnitude u - k + 1
  let (n, d) := inSteps u e
  ⟨Binary64.divHalfEven n d, e⟩

/-- The magnitude with `k` digits after the point, the nearest such and the even one of two. -/
def places (k u : Nat) : Digits :=
  let (n, d) := inSteps u (-k)
  ⟨Binary64.divHalfEven n d, -k⟩

/-- Digits that are read as the magnitude among the two neighbours with `k` significant digits, the
nearer one first. -/
def neighbour? (u k : Nat) : Option Digits :=
  let near := significant k u
  let steps := inSteps u near.exponent
  let below := steps.1 / steps.2
  let far : Digits := ⟨if near.coefficient = below then below + 1 else below, near.exponent⟩
  [near.normalize, far.normalize].find? fun digits => digits.units = u

/-- The magnitude written out in full: a unit is `5 ^ 1074` of the 1074th decimal place. -/
def exact (u : Nat) : Digits := ⟨u * 5 ^ (1074 : Nat), -1074⟩

/-- The fewest digits that are read as the magnitude; of two such the nearer. -/
def shortest (u : Nat) : Digits :=
  if u = 0 then ⟨0, 0⟩
  else (((List.range 17).map (· + 1)).findSome? (neighbour? u)).getD (exact u)

end Digits

end Questionnaire
