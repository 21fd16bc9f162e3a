/-!
# Binary floating-point numbers as data

A `Double` is its sixty-four bits, so that equality is decidable and means "the same number
written the same way".  `decompose` gives the exact value of a finite one, a natural number times
a power of two, and the set of reals that round to it; everything that is said about decimal
digits is said about these naturals.

Arithmetic is not done here: a double that is computed comes from `Float`.
-/

namespace LifecycleGuard

/-- A binary floating-point number of sixty-four bits. -/
structure Double where
  bits : UInt64
deriving DecidableEq, Inhabited

namespace Double

/-- The number with the bits of a `Float`. -/
def ofFloat (x : Float) : Double := ⟨x.toBits⟩

/-- The `Float` with these bits. -/
def toFloat (d : Double) : Float := Float.ofBits d.bits

/-- Whether the sign bit is set, as it is for minus zero. -/
def isNegative (d : Double) : Bool := d.bits.toNat / 9223372036854775808 = 1

/-- The first number that does not fit into the fifty-two bits of the fraction. -/
def fractionEnd : Nat := 4503599627370496

/-- The eleven bits of the exponent. -/
def exponentField (d : Double) : Nat := d.bits.toNat / fractionEnd % 2048

/-- The fifty-two bits of the fraction. -/
def fractionField (d : Double) : Nat := d.bits.toNat % fractionEnd

/-- Whether the number is neither an infinity nor not-a-number. -/
def isFinite (d : Double) : Bool := d.exponentField ≠ 2047

/-- The magnitude of a finite number is `significand * 2 ^ exponent`. -/
structure Exact where
  significand : Nat
  exponent : Int
  /-- Whether the gap to the next smaller magnitude is half the gap to the next larger one. -/
  atPowerOfTwo : Bool

/-- The exact magnitude of a finite number. -/
def decompose (d : Double) : Exact :=
  let field := d.exponentField
  if field = 0 then ⟨d.fractionField, -1074, false⟩
  else ⟨fractionEnd + d.fractionField, field - 1075, d.fractionField = 0 && 1 < field⟩

end Double

end LifecycleGuard
