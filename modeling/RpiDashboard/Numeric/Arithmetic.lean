import Mathlib.Algebra.Order.Group.Unbundled.Abs
import Mathlib.Algebra.Order.Ring.Rat
import RpiDashboard.Numeric.Double

/-! Arithmetic of finite doubles: the exact result, rounded to nearest, ties to even. -/

namespace RpiDashboard.Numeric

/-- The nearest integer, the even one of two. -/
def roundEven (q : ℚ) : Int :=
  let rest := q - q.floor
  if rest < 1 / 2 ∨ (rest = 1 / 2 ∧ q.floor % 2 = 0) then q.floor else q.floor + 1

/-- The nearest integer, of two the one farther from zero. -/
def roundAway (q : ℚ) : Int := if 0 ≤ q then (q + 1 / 2).floor else -(1 / 2 - q).floor

namespace Double

/-- The pattern of the double nearest to a nonnegative `q`, an infinity beyond their range.
All doubles of one exponent are multiples of one power of two, the least of which is
`2 ^ (-1074)`. -/
def nearest (q : ℚ) : Nat :=
  let units := q * 2 ^ 1074
  let shift := units.floor.toNat.log2 - 52
  min (shift * 2 ^ 52 + (roundEven (units / 2 ^ shift)).toNat) (2047 * 2 ^ 52)

def ofSign (negative : Bool) (pattern : Nat) : Double :=
  ⟨BitVec.ofNat 64 ((if negative then 2 ^ 63 else 0) + pattern)⟩

def ofRat (q : ℚ) : Double := ofSign (q < 0) (nearest |q|)

/-- A sum of two negative zeros is one. -/
def add (a b : Double) : Double :=
  ofSign (a.toRat + b.toRat < 0 || a.negative && b.negative) (nearest |a.toRat + b.toRat|)

def sub (a b : Double) : Double := ofRat (a.toRat - b.toRat)

def mul (a b : Double) : Double := ofSign (a.negative != b.negative) (nearest |a.toRat * b.toRat|)

def div (a b : Double) : Double := ofSign (a.negative != b.negative) (nearest |a.toRat / b.toRat|)

/-- `qRound`: the nearest integer, of two the one farther from zero. -/
def round (d : Double) : Int :=
  let q := d.toRat
  if 0 ≤ q then (q + 1 / 2).floor else -(1 / 2 - q).floor

/-- `static_cast` to an integer: towards zero. -/
def truncate (d : Double) : Int := d.toRat.num.tdiv d.toRat.den

/-- `std::clamp`. -/
def clamp (d low high : Double) : Double := if d.lt low then low else if high.lt d then high else d

example :
    ofRat (1 / 10) = ⟨0x3fb999999999999a⟩ ∧ ofRat (-1 / 2 ^ 1074) = ⟨0x8000000000000001⟩ ∧
      ofRat (2 ^ 53 + 1) = ofInt (2 ^ 53 + 1) ∧
      div (ofInt (-3)) (ofInt 2) = ofRat (-3 / 2) := by
  decide +kernel

end Double

/-- What a formula is computed with: doubles, or the rationals that they stand for. -/
structure Numbers (α : Type) where
  ofNat : Nat → α
  sub : α → α → α
  div : α → α → α
  clamp : α → α → α → α

def Numbers.double : Numbers Double := ⟨fun n => .ofInt n, .sub, .div, .clamp⟩

def Numbers.exact : Numbers ℚ where
  ofNat n := n
  sub a b := a - b
  div a b := a / b
  clamp q low high := if q < low then low else if high < q then high else q

end RpiDashboard.Numeric
