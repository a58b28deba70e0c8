/-!
Binary floating-point numbers of 64 bits, as exact quantities.

A finite number is a sign and a magnitude counted in units of `2 ^ -1074`, the smallest positive
number of the format, so that comparing and adding finite numbers is integer arithmetic.  Each
operation computes the exact result and rounds once, to the nearest representable magnitude and to
the even one of two that are equally near; a magnitude that has outgrown the format is infinite.
-/

namespace Questionnaire

namespace Binary64

/-- Powers as in the core library, also where algebraic structures bring powers of their own. -/
@[reducible] def corePow {α : Type} [NatPow α] : Pow α Nat := instPowNat

attribute [local instance] corePow

/-- The number of units in one: `2 ^ 1074`. -/
def one : Nat := 2 ^ (1074 : Nat)

/-- The first magnitude, in units, that is too large for a finite number. -/
def limit : Nat := 2 ^ (2098 : Nat)

/-- The exponent of the distance between neighbouring magnitudes near `units`: a magnitude has at
most 53 significant bits. -/
def spacing (units : Nat) : Nat := units.log2 - 52

/-- A magnitude lies on the format's grid when it is a multiple of the spacing there and is below
the limit. -/
def Fits (units : Nat) : Prop := 2 ^ spacing units ∣ units ∧ units < limit

instance (units : Nat) : Decidable (Fits units) :=
  inferInstanceAs (Decidable (_ ∧ _))

/-- The integer nearest to `n / d`, the even one of two that are equally near. -/
def divHalfEven (n d : Nat) : Nat :=
  let q := n / d
  let r := n % d
  if 2 * r < d then q
  else if d < 2 * r then q + 1
  else q + q % 2

theorem div_le_divHalfEven (n d : Nat) : n / d ≤ divHalfEven n d := by
  simp only [divHalfEven]
  split
  · exact Nat.le_refl _
  · split <;> omega

theorem divHalfEven_le (n d : Nat) : divHalfEven n d ≤ n / d + 1 := by
  simp only [divHalfEven]
  split
  · omega
  · split <;> omega

/-- A multiple of the divisor is divided exactly. -/
theorem divHalfEven_mul_self (q : Nat) {d : Nat} (hd : 0 < d) : divHalfEven (q * d) d = q := by
  simp [divHalfEven, Nat.mul_div_cancel _ hd, hd]

/-- The magnitude on the grid nearest to `n / d` units, the limit left out of account. -/
def roundUnits (n d : Nat) : Nat :=
  let step := 2 ^ spacing (n / d)
  divHalfEven n (d * step) * step

theorem log2_lt_of_lt {u k : Nat} (hk : 0 < k) (h : u < 2 ^ k) : u.log2 < k := by
  by_cases hu : u = 0
  · subst hu; simpa using hk
  · exact (Nat.log2_lt hu).2 h

/-- Counting in steps of the spacing takes at most 53 bits. -/
theorem div_step_lt (u : Nat) : u / 2 ^ spacing u < 2 ^ (53 : Nat) := by
  have hlt : u < 2 ^ (u.log2 + 1) := Nat.lt_log2_self
  apply Nat.div_lt_of_lt_mul
  apply Nat.lt_of_lt_of_le hlt
  rw [← Nat.pow_add]
  apply Nat.pow_le_pow_right (by omega)
  simp only [spacing]
  omega

theorem step_dvd_mul_step (k m : Nat) (h : m ≤ 2 ^ (53 : Nat)) :
    2 ^ spacing (m * 2 ^ k) ∣ m * 2 ^ k := by
  rcases Nat.lt_or_ge m (2 ^ (53 : Nat)) with hm | hm
  · have hle : spacing (m * 2 ^ k) ≤ k := by
      have : (m * 2 ^ k).log2 < 53 + k := by
        apply log2_lt_of_lt (by omega)
        rw [Nat.pow_add]
        exact Nat.mul_lt_mul_of_pos_right hm (Nat.pow_pos (by omega))
      simp only [spacing]
      omega
    exact Nat.dvd_trans (Nat.pow_dvd_pow 2 hle) (Nat.dvd_mul_left _ _)
  · have hm' : m = 2 ^ (53 : Nat) := by omega
    subst hm'
    rw [← Nat.pow_add]
    apply Nat.pow_dvd_pow
    simp only [spacing, Nat.log2_two_pow]
    omega

/-- Rounding lands on the grid. -/
theorem step_dvd_roundUnits (n d : Nat) : 2 ^ spacing (roundUnits n d) ∣ roundUnits n d := by
  simp only [roundUnits]
  apply step_dvd_mul_step
  have h := divHalfEven_le n (d * 2 ^ spacing (n / d))
  have hlt := div_step_lt (n / d)
  rw [Nat.div_div_eq_div_mul] at hlt
  omega

theorem fits_roundUnits {n d : Nat} (h : roundUnits n d < limit) : Fits (roundUnits n d) :=
  ⟨step_dvd_roundUnits n d, h⟩

theorem limit_pos : 0 < limit := by decide +kernel

theorem fits_zero : Fits 0 := ⟨Nat.dvd_zero _, limit_pos⟩

/-- A multiple of the spacing rounds to itself. -/
theorem roundUnits_of_dvd {u : Nat} (h : 2 ^ spacing u ∣ u) : roundUnits u 1 = u := by
  have ⟨q, hq⟩ := h
  have hpos : 0 < 2 ^ spacing u := Nat.pow_pos (by omega)
  simp only [roundUnits, Nat.div_one, Nat.one_mul]
  have hdiv : divHalfEven u (2 ^ spacing u) = u / 2 ^ spacing u := by
    conv => lhs; arg 1; rw [hq, Nat.mul_comm]
    rw [divHalfEven_mul_self q hpos]
    exact (Nat.div_eq_of_eq_mul_right hpos hq).symm
  rw [hdiv]
  exact Nat.div_mul_cancel h

/-- A magnitude on the grid rounds to itself. -/
theorem roundUnits_of_fits {u : Nat} (h : Fits u) : roundUnits u 1 = u := roundUnits_of_dvd h.1

end Binary64

/-- A binary floating-point number of 64 bits: not a number, an infinity, or a signed magnitude in
units of `2 ^ -1074` that lies on the format's grid. -/
inductive Binary64 where
  | nan
  | infinite (negative : Bool)
  | finite (negative : Bool) (units : Nat) (fits : Binary64.Fits units)
deriving DecidableEq

namespace Binary64

/-- The number nearest to `n / d` units, under the given sign. -/
def ofUnits (negative : Bool) (n d : Nat) : Binary64 :=
  if h : roundUnits n d < limit then .finite negative (roundUnits n d) (fits_roundUnits h)
  else .infinite negative

/-- The number nearest to an integer. -/
def ofInt (i : Int) : Binary64 := ofUnits (i < 0) (i.natAbs * one) 1

/-- The number nearest to `n / d`, under the given sign. -/
def ofRatio (negative : Bool) (n d : Nat) : Binary64 := ofUnits negative (n * one) d

def zero : Binary64 := ofUnits false 0 1

instance : Inhabited Binary64 := ⟨zero⟩

def isNaN : Binary64 → Bool
  | .nan => true
  | _ => false

def isFinite : Binary64 → Bool
  | .finite .. => true
  | _ => false

/-- A finite number as an exact count of units. -/
def toUnits? : Binary64 → Option Int
  | .finite negative units _ => some (if negative then -units else units)
  | _ => none

def neg : Binary64 → Binary64
  | .nan => .nan
  | .infinite negative => .infinite (!negative)
  | .finite negative units fits => .finite (!negative) units fits

/-- An exact sum of zero is negative only when both summands are negative zeros. -/
def add : Binary64 → Binary64 → Binary64
  | .nan, _ => .nan
  | _, .nan => .nan
  | .infinite s, .infinite t => if s = t then .infinite s else .nan
  | .infinite s, _ => .infinite s
  | _, .infinite t => .infinite t
  | .finite s u _, .finite t v _ =>
    let sum : Int := (if s then -(u : Int) else u) + (if t then -(v : Int) else v)
    ofUnits (if sum = 0 then s && t else sum < 0) sum.natAbs 1

def sub (x y : Binary64) : Binary64 := x.add y.neg

def mul : Binary64 → Binary64 → Binary64
  | .nan, _ => .nan
  | _, .nan => .nan
  | .infinite s, .infinite t => .infinite (s != t)
  | .infinite s, .finite t v _ => if v = 0 then .nan else .infinite (s != t)
  | .finite s u _, .infinite t => if u = 0 then .nan else .infinite (s != t)
  | .finite s u _, .finite t v _ => ofUnits (s != t) (u * v) one

def div : Binary64 → Binary64 → Binary64
  | .nan, _ => .nan
  | _, .nan => .nan
  | .infinite _, .infinite _ => .nan
  | .infinite s, .finite t _ _ => .infinite (s != t)
  | .finite s _ _, .infinite t => .finite (s != t) 0 fits_zero
  | .finite s u _, .finite t v _ =>
    if v = 0 then (if u = 0 then .nan else .infinite (s != t)) else ofRatio (s != t) u v

instance : Neg Binary64 := ⟨neg⟩
instance : Add Binary64 := ⟨add⟩
instance : Sub Binary64 := ⟨sub⟩
instance : Mul Binary64 := ⟨mul⟩
instance : Div Binary64 := ⟨div⟩

/-- The place of a number on the extended line: below every finite number, at a count of units, or
above every finite number. -/
inductive Place where
  | below
  | at (units : Int)
  | above
deriving DecidableEq

/-- Where a number lies; what is not a number lies nowhere. -/
def place? : Binary64 → Option Place
  | .nan => none
  | .infinite negative => some (if negative then .below else .above)
  | .finite negative units _ => some (.at (if negative then -units else units))

namespace Place

def lt : Place → Place → Bool
  | .below, .below => false
  | .below, _ => true
  | .at i, .at j => i < j
  | .at _, .above => true
  | _, _ => false

def le (p q : Place) : Bool := !q.lt p

theorem lt_irrefl (p : Place) : p.lt p = false := by
  cases p <;> simp [lt]

theorem lt_trans {p q r : Place} (hpq : p.lt q = true) (hqr : q.lt r = true) : p.lt r = true := by
  cases p <;> cases q <;> cases r <;> simp_all [lt]
  omega

/-- Of two places one is below the other, or they are the same. -/
theorem lt_trichotomy (p q : Place) : p.lt q = true ∨ p = q ∨ q.lt p = true := by
  cases p <;> cases q <;> simp [lt]
  omega

end Place

/-- The greatest integer not above a finite number. -/
def floor? (x : Binary64) : Option Int := x.toUnits?.map (fun u => u.fdiv one)

/-- A finite number without a fraction, as an integer. -/
def toInt? (x : Binary64) : Option Int :=
  match x.toUnits? with
  | some u => if u % one = 0 then some (u / one) else none
  | none => none

end Binary64

end Questionnaire
