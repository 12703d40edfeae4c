import Mathlib.Algebra.Group.Int.Defs
import Mathlib.Algebra.Group.Nat.Defs
import Mathlib.Data.Rat.Defs
import Mathlib.Tactic.Common

/-! IEEE 754 binary64 numbers as bit patterns.  Equality is equality of patterns,
so a value keeps its sign of zero and nothing is rounded by being stored. -/

namespace RpiDashboard.Numeric

structure Double where
  bits : BitVec 64
  deriving DecidableEq

namespace Double

def negative (d : Double) : Bool := d.bits.msb
def exponent (d : Double) : Nat := d.bits.toNat / 2 ^ 52 % 2 ^ 11
def fraction (d : Double) : Nat := d.bits.toNat % 2 ^ 52

/-- `std::isfinite`: neither an infinity nor a NaN. -/
def isFinite (d : Double) : Bool := d.exponent < 2047

/-- The significand with its hidden bit; subnormal numbers have none. -/
def significand (d : Double) : Nat :=
  if d.exponent = 0 then d.fraction else 2 ^ 52 + d.fraction

/-- The exact value of a finite pattern, in units of `2 ^ (exponent - 1075)`. -/
def toRat (d : Double) : ℚ :=
  let signed : Int := if d.negative then -(d.significand : Int) else d.significand
  let scale := max d.exponent 1
  if 1075 ≤ scale then ((signed * 2 ^ (scale - 1075) : Int) : ℚ)
  else mkRat signed (2 ^ (1075 - scale))

/-- Comparison of finite numbers by value. -/
def lt (a b : Double) : Bool := a.toRat < b.toRat

def isNaN (d : Double) : Bool := d.exponent = 2047 && d.fraction != 0

/-- The comparison `<` of the language, in which a NaN takes no part. -/
def less (a b : Double) : Bool := !a.isNaN && !b.isNaN && a.lt b

/-- A finite number of at most this magnitude. -/
structure Within (bound : ℚ) (d : Double) : Prop where
  isFinite : d.isFinite
  lower : -bound ≤ d.toRat
  upper : d.toRat ≤ bound

def zero : Double := ⟨0⟩
def one : Double := ⟨0x3ff0000000000000⟩

/-- Round half to even of `n / 2 ^ shift`. -/
def roundShift (n shift : Nat) : Nat :=
  let quotient := n / 2 ^ shift
  let rest := n % 2 ^ shift
  if 2 * rest < 2 ^ shift ∨ (2 * rest = 2 ^ shift ∧ quotient % 2 = 0) then quotient
  else quotient + 1

/-- The pattern of the double nearest to `n`.  A carry out of the significand
runs into the exponent field, which is what normalisation asks for. -/
def magnitude (n : Nat) : Nat :=
  if n = 0 then 0
  else
    let e := n.log2
    let m := if e ≤ 52 then n * 2 ^ (52 - e) else roundShift n (e - 52)
    (e + 1022) * 2 ^ 52 + m

/-- `static_cast<double>` of an integer, to nearest, ties to even. -/
def ofInt (i : Int) : Double :=
  ⟨BitVec.ofNat 64 ((if i < 0 then 2 ^ 63 else 0) + magnitude i.natAbs)⟩

/-- The double with the value of a narrower IEEE 754 pattern of `ew` exponent and
`fw` fraction bits.  A subnormal of the narrow format is a normal double. -/
def widen (ew fw bits : Nat) : Double :=
  let sign := bits / 2 ^ (ew + fw) * 2 ^ 63
  let e := bits / 2 ^ fw % 2 ^ ew
  let f := bits % 2 ^ fw
  let bias := 2 ^ (ew - 1) - 1
  if e = 2 ^ ew - 1 then ⟨BitVec.ofNat 64 (sign + 2047 * 2 ^ 52 + f * 2 ^ (52 - fw))⟩
  else if e ≠ 0 then ⟨BitVec.ofNat 64 (sign + (e + 1023 - bias) * 2 ^ 52 + f * 2 ^ (52 - fw))⟩
  else if f = 0 then ⟨BitVec.ofNat 64 sign⟩
  else ⟨BitVec.ofNat 64 (sign + magnitude f - (bias + fw - 1) * 2 ^ 52)⟩

@[simp] theorem toRat_zero : zero.toRat = 0 := by decide +kernel
@[simp] theorem toRat_one : one.toRat = 1 := by decide +kernel

example :
    (ofInt (-3)).toRat = -3 ∧ (ofInt (2 ^ 53 + 1)).toRat = 2 ^ 53 ∧
      (widen 5 10 0xbc00).toRat = -1 ∧ (widen 5 10 1).toRat = 1 / 2 ^ 24 ∧
      (widen 8 23 0x40490fdb).toRat = 13176795 / 2 ^ 22 := by
  decide +kernel

end Double

end RpiDashboard.Numeric
