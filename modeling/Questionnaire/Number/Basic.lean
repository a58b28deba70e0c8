import Questionnaire.Fault
import Questionnaire.Number.Text

/-!
Numbers as surveys use them: an integer of any size or a binary number of 64 bits.  The two kinds
are compared exactly.  Integers stay integers under sums and products; as soon as a binary number is
involved the result is binary.
-/

namespace Questionnaire

inductive Number where
  | int (value : Int)
  | float (value : Binary64)
deriving DecidableEq

namespace Number

instance : Inhabited Number := ⟨.int 0⟩
instance {n : Nat} : OfNat Number n := ⟨.int n⟩

open Binary64 (Place)

/-- Where a number lies on the extended line; what is not a number lies nowhere. -/
def place? : Number → Option Place
  | .int value => some (.at (value * Binary64.one))
  | .float value => value.place?

def lt (a b : Number) : Bool :=
  match a.place?, b.place? with
  | some p, some q => p.lt q
  | _, _ => false

def le (a b : Number) : Bool :=
  match a.place?, b.place? with
  | some p, some q => p.le q
  | _, _ => false

/-- Equality of quantities, whatever kind they are of. -/
def same (a b : Number) : Bool :=
  match a.place?, b.place? with
  | some p, some q => p = q
  | _, _ => false

/-- The first of two unless the second is below it. -/
def min (a b : Number) : Number := if b.lt a then b else a

/-- The first of two unless the second is above it. -/
def max (a b : Number) : Number := if a.lt b then b else a

/-- The nearest number of the range from zero to `upper`. -/
def clamp (value upper : Number) : Number := Number.max 0 (Number.min value upper)

def isZero (a : Number) : Bool := a.same 0

def isNaN : Number → Bool
  | .int _ => false
  | .float value => value.isNaN

/-- The binary number nearest to an integer, if there is a finite one. -/
def toBinary64 : Number → Except Fault Binary64
  | .int value => if (Binary64.ofInt value).isFinite then .ok (Binary64.ofInt value)
    else .error .outOfRange
  | .float value => .ok value

/-- Whether a number is finite; an integer has to have a finite binary counterpart. -/
def isFinite (a : Number) : Except Fault Bool := a.toBinary64.map (·.isFinite)

/-- An operation that is exact on integers and rounded on binary numbers. -/
def combine (exact : Int → Int → Int) (rounded : Binary64 → Binary64 → Binary64) :
    Number → Number → Except Fault Number
  | .int a, .int b => .ok (.int (exact a b))
  | a, b => do return .float (rounded (← a.toBinary64) (← b.toBinary64))

def add : Number → Number → Except Fault Number := combine (· + ·) (· + ·)
def sub : Number → Number → Except Fault Number := combine (· - ·) (· - ·)
def mul : Number → Number → Except Fault Number := combine (· * ·) (· * ·)

/-- The quotient as a binary number.  Two integers are divided before they are rounded. -/
def div : Number → Number → Except Fault Binary64
  | .int a, .int b =>
    if b = 0 then .ok (Binary64.ofInt a / Binary64.ofInt b)
    else
      let quotient := Binary64.ofRatio (decide (a < 0) != decide (b < 0)) a.natAbs b.natAbs
      if quotient.isFinite then .ok quotient else .error .outOfRange
  | a, b => do return (← a.toBinary64) / (← b.toBinary64)

/-- The sum from left to right. -/
def sum (numbers : List Number) : Except Fault Number := numbers.foldlM add 0

/-- The sum of what members count, each counted when it is its turn. -/
def sumOver {α : Type} (countOf : α → Except Fault Number) (members : List α) :
    Except Fault Number :=
  members.foldlM (fun total member => do total.add (← countOf member)) 0

/-- A binary number without a fraction becomes an integer. -/
def tidy : Number → Number
  | .int value => .int value
  | .float value => match value.toInt? with
    | some i => .int i
    | none => .float value

/-- The greatest integer that is not above the number. -/
def floor : Number → Except Fault Int
  | .int value => .ok value
  | .float .nan => .error .noSuchValue
  | .float (.infinite _) => .error .outOfRange
  | .float value => .ok (value.floor?.getD 0)

/-- A number without its fraction. -/
def whole : Number → Except Fault Int
  | .int value => .ok value
  | n => do
    let below ← n.floor
    return if n.lt 0 ∧ ¬ (Number.int below).same n then below + 1 else below

/-- One half. -/
def half : Binary64 := .ofRatio false 1 2

/-- The nearest integer to a binary number, a half going up, after a half has been added in
binary. -/
def roundHalfUp (x : Number) : Except Fault Int := do
  floor (← x.add (.float half))

/-- The plain text of a number, if it has one: an integer of too many digits has none. -/
def text : Number → String
  | .int value => toString value
  | .float value => value.text .plain

/-- The text of a number in compact form. -/
def compactText (x : Number) : Except Fault String := x.toBinary64.map (·.compactText)

/-- The text of a number as a bound in a validation message. -/
def boundText : Number → String
  | .int value => toString value
  | .float value => value.text .bound

end Number

end Questionnaire
