import LifecycleGuard.Number.Double

/-!
# The fewest digits that read back

`Shortest.digits` finds, for the exact magnitude of a double, the decimal number with the fewest
digits among those that round to the double; of several with that many digits it takes the one
nearest to the exact value, and of two equally near the even one.

The search is on decimal grids.  If any point of a grid lies among the reals that round to the
double, then so does one of the two grid points next to the double itself, so for each number of
digits only those two are tried, and seventeen digits always suffice.  All comparisons are
between natural numbers.
-/

namespace LifecycleGuard.Shortest

/-- The number `digits * 10 ^ exponent`. -/
structure Decimal where
  digits : Nat
  exponent : Int

/-- Compare `c * 10 ^ g` with `a * 2 ^ b`. -/
def compareScaled (c : Nat) (g : Int) (a : Nat) (b : Int) : Ordering :=
  compare (c * Nat.pow 10 g.toNat * Nat.pow 2 (-b).toNat)
    (a * Nat.pow 2 b.toNat * Nat.pow 10 (-g).toNat)

/-- Whether `c * 10 ^ g` rounds to the double.  The reals that do form an interval between two
midpoints, whose ends belong to it when the significand is even. -/
def readsBack (x : Double.Exact) (c : Nat) (g : Int) : Bool :=
  let lower := if x.atPowerOfTwo then 4 * x.significand - 1 else 4 * x.significand - 2
  let upper := 4 * x.significand + 2
  let closed := x.significand % 2 = 0
  let low := compareScaled c g lower (x.exponent - 2)
  let high := compareScaled c g upper (x.exponent - 2)
  (low = .gt || (closed && low = .eq)) && (high = .lt || (closed && high = .eq))

/-- The exponent of the leading decimal digit of a positive magnitude.  Doubles are larger than
`10 ^ -400`, so the whole part of the value times `10 ^ 400` shows it. -/
def leadingExponent (x : Double.Exact) : Int :=
  let scaled :=
    x.significand * Nat.pow 10 400 * Nat.pow 2 x.exponent.toNat / Nat.pow 2 (-x.exponent).toNat
  (Nat.toDigits 10 scaled).length - 401

/-- The whole part of the magnitude divided by `10 ^ g`. -/
def gridFloor (x : Double.Exact) (g : Int) : Nat :=
  x.significand * Nat.pow 2 x.exponent.toNat * Nat.pow 10 (-g).toNat /
    (Nat.pow 2 (-x.exponent).toNat * Nat.pow 10 g.toNat)

/-- The grid point that reads back, if the grid with step `10 ^ g` has one. -/
def onGrid (x : Double.Exact) (g : Int) : Option Nat :=
  let below := gridFloor x g
  match readsBack x below g, readsBack x (below + 1) g with
  | true, true =>
    match compareScaled (2 * below + 1) g x.significand (x.exponent + 1) with
    | .gt => some below
    | .lt => some (below + 1)
    | .eq => some (if below % 2 = 0 then below else below + 1)
  | true, false => some below
  | false, true => some (below + 1)
  | false, false => none

/-- Drop the zeros at the end of a number. -/
def stripZeros : Nat → Nat → Int → Decimal
  | 0, n, e => ⟨n, e⟩
  | fuel + 1, n, e => if n ≠ 0 ∧ n % 10 = 0 then stripZeros fuel (n / 10) (e + 1) else ⟨n, e⟩

/-- The shortest decimal that reads back as a positive magnitude. -/
def digits (x : Double.Exact) : Decimal :=
  let lead := leadingExponent x
  let grids := (List.range 17).map fun (n : Nat) => lead - n
  match grids.findSome? fun g => (onGrid x g).map fun c => (c, g) with
  | some (c, g) => stripZeros 20 c g
  | none => ⟨0, 0⟩

end LifecycleGuard.Shortest
