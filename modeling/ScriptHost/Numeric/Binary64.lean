/-!
# Double-precision numbers as words

A `Binary64` is the 64-bit word of an IEEE 754 double.  Keeping the word keeps everything about the
number, also the payload of a NaN and the sign of a zero, and makes every operation here integer
arithmetic.

`Binary64.equal` is the comparison of the standard: a NaN is equal to nothing, itself included, and
the two zeros are equal.
-/

set_option autoImplicit false

namespace ScriptHost

/-- A double-precision number, by its word. -/
structure Binary64 where
  bits : UInt64
  deriving DecidableEq, Repr

namespace Binary64

/-- Whether the sign bit is set. -/
def isNegative (x : Binary64) : Bool := 0x8000000000000000 ≤ x.bits.toNat

/-- The biased exponent, below 2048. -/
def biasedExponent (x : Binary64) : Nat := x.bits.toNat >>> 52 % 2048

/-- The 52 bits of the fraction. -/
def fraction (x : Binary64) : Nat := x.bits.toNat % 0x10000000000000

/-- Whether the word stands for no number. -/
def isNaN (x : Binary64) : Bool := x.biasedExponent = 2047 && x.fraction ≠ 0

/-- Whether the word stands for an infinity. -/
def isInfinite (x : Binary64) : Bool := x.biasedExponent = 2047 && x.fraction = 0

/-- Whether the word is one of the two zeros. -/
def isZero (x : Binary64) : Bool := x.biasedExponent = 0 && x.fraction = 0

/-- Equality of numbers. -/
def equal (x y : Binary64) : Bool :=
  !x.isNaN && !y.isNaN && (x == y || (x.isZero && y.isZero))

/-- The significand `m` of a finite number of absolute value `m * 2 ^ x.scale`. -/
def significand (x : Binary64) : Nat :=
  if x.biasedExponent = 0 then x.fraction else 0x10000000000000 + x.fraction

/-- The exponent `q` of a finite number of absolute value `x.significand * 2 ^ q`. -/
def scale (x : Binary64) : Int :=
  if x.biasedExponent = 0 then -1074 else (x.biasedExponent : Int) - 1075

/-- Whether the next smaller number is only half as far away as the next larger one, as it is below
a power of two. -/
def isNarrowBelow (x : Binary64) : Bool := x.fraction = 0 && 1 < x.biasedExponent

end Binary64

end ScriptHost
