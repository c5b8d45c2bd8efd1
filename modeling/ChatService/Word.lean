/-!
# 64-bit ranges

Numbers are mathematical integers throughout; this module names the ranges the service stores and
counts in, and the arithmetic that stays inside them: refusing, or stopping at the end of the range.
-/

namespace ChatService.Word

/-- The largest signed 64-bit number. -/
def maxInt64 : Int := 9223372036854775807

/-- The smallest signed 64-bit number. -/
def minInt64 : Int := -9223372036854775808

/-- The largest unsigned 64-bit number. -/
def maxUInt64 : Nat := 18446744073709551615

/-- Being a signed 64-bit number. -/
def IsInt64 (n : Int) : Prop := minInt64 ≤ n ∧ n ≤ maxInt64

instance (n : Int) : Decidable (IsInt64 n) := inferInstanceAs (Decidable (_ ∧ _))

/-- The sum, unless it is no signed 64-bit number. -/
def addInt64? (a b : Int) : Option Int := if IsInt64 (a + b) then some (a + b) else none

/-- The product, or the largest unsigned 64-bit number if the product is larger. -/
def mulUInt64Saturating (a b : Nat) : Nat := min (a * b) maxUInt64

/-- The bits of a signed number read as an unsigned one. -/
def toUInt64Bits (n : Int) : Nat := (n % 18446744073709551616).toNat

theorem addInt64?_eq_some_iff {a b n : Int} :
    addInt64? a b = some n ↔ IsInt64 (a + b) ∧ n = a + b := by
  unfold addInt64?; split <;> simp_all [eq_comm]

theorem toUInt64Bits_of_nonneg {n : Int} (h : 0 ≤ n) (h' : n ≤ maxInt64) :
    toUInt64Bits n = n.toNat := by
  unfold toUInt64Bits maxInt64 at *; omega

end ChatService.Word
