/-!
# Double-precision numbers

A number that is no whole number of 64 bits counts as a finite double-precision number. Here are
these numbers, the rounding of a fraction to the nearest of them, and product and quotient, which
are the exact results rounded once.

Everything is exact arithmetic on fractions `num / den` of natural numbers.
-/

namespace ChatService

/-- A size `significand · 2 ^ exponent`. -/
structure Magnitude where
  significand : Nat
  exponent : Int
deriving DecidableEq, Repr

/-- A double: a size and a sign, which zero has too. -/
structure Double where
  negative : Bool
  size : Magnitude
deriving DecidableEq, Repr

namespace Magnitude

/-- `num / den · 2 ^ e` as a fraction. -/
def scale2 (num den : Nat) (e : Int) : Nat × Nat :=
  if 0 ≤ e then (num * Nat.pow 2 e.toNat, den) else (num, den * Nat.pow 2 (-e).toNat)

/-- `num / den · 10 ^ e` as a fraction. -/
def scale10 (num den : Nat) (e : Int) : Nat × Nat :=
  if 0 ≤ e then (num * Nat.pow 10 e.toNat, den) else (num, den * Nat.pow 10 (-e).toNat)

/-- The nearest whole number to a fraction; of two, the even one. -/
def roundHalfEven (num den : Nat) : Nat :=
  let floor := num / den
  let twice := 2 * (num % den)
  if den < twice || (twice == den && floor % 2 == 1) then floor + 1 else floor

/-- The size zero. -/
def zero : Magnitude := ⟨0, -1074⟩

def isZero (x : Magnitude) : Bool := x.significand = 0

/-- The size of 53 binary digits nearest to a fraction, of fewer digits below the smallest normal
    double. It is not bounded above. -/
def nearest (num den : Nat) : Magnitude :=
  if num = 0 then zero
  else
    -- a first guess at the exponent is at most one off
    let guess : Int := (num.log2 : Int) - den.log2 - 52
    let (n, d) := scale2 num den (-guess)
    let exponent := max (if n / d < Nat.pow 2 52 then guess - 1 else guess) (-1074)
    let (n, d) := scale2 num den (-exponent)
    let m := roundHalfEven n d
    if m = 0 then zero
    else if m = Nat.pow 2 53 then ⟨Nat.pow 2 52, exponent + 1⟩
    else ⟨m, exponent⟩

/-- There is a double of this size. -/
def isFinite (x : Magnitude) : Bool := x.exponent ≤ 971

/-- The size as a fraction. -/
def fraction (x : Magnitude) : Nat × Nat := scale2 x.significand 1 x.exponent

/-- The product, rounded. -/
def mul (x y : Magnitude) : Magnitude :=
  let (num, den) := scale2 (x.significand * y.significand) 1 (x.exponent + y.exponent)
  nearest num den

/-- The quotient, rounded. -/
def div (x y : Magnitude) : Magnitude :=
  let (num, den) := scale2 x.significand y.significand (x.exponent - y.exponent)
  nearest num den

/-- A whole number, rounded. -/
def ofNat (n : Nat) : Magnitude := nearest n 1

/-! ## Decimal powers -/

/-- A power of ten, rounded. -/
def pow10 (e : Nat) : Magnitude := nearest (Nat.pow 10 e) 1

/-- Divides by a power of ten in steps of 308 places, the largest power that is finite. -/
def shrink (x : Magnitude) (e : Nat) : Magnitude :=
  if e ≤ 308 then x.div (pow10 e)
  else if x.isZero then x
  else shrink (x.div (pow10 308)) (e - 308)
termination_by e

/-- `significand · 10 ^ exponent` with every step rounded; `none` when it is too large. -/
def ofScientific? (significand : Nat) (exponent : Int) : Option Magnitude :=
  let x := ofNat significand
  if exponent < 0 then some (x.shrink (-exponent).toNat)
  else if x.isZero then some x
  else if 308 < exponent then none
  else
    let y := x.mul (pow10 exponent.toNat)
    if y.isFinite then some y else none

end Magnitude

namespace Double

/-- The number itself. -/
def toRat (x : Double) : Rat :=
  let (num, den) := x.size.fraction
  mkRat (if x.negative then -num else num) den

/-- A whole number, rounded. -/
def ofInt (n : Int) : Double := ⟨decide (n < 0), .ofNat n.natAbs⟩

/-- `± significand · 10 ^ exponent` with every step rounded; `none` when it is too large. -/
def ofScientific? (negative : Bool) (significand : Nat) (exponent : Int) : Option Double :=
  (Magnitude.ofScientific? significand exponent).map fun size => ⟨negative, size⟩

end Double

end ChatService
