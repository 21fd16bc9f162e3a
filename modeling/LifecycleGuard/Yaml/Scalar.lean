import LifecycleGuard.Json.Value
import LifecycleGuard.Text.Digit

/-!
# The meaning of plain scalars

What the text of a plain scalar stands for when nobody says what to expect: nothing, a truth
value, a whole number, a double, or itself.

Whole numbers are decimal, or hexadecimal, octal or binary behind `0x`, `0o` or `0b`.  Digits that
begin with a zero are not a number.
-/

namespace LifecycleGuard.Yaml.Scalar

open Text (isDigit)

/-- Whether a text stands for nothing. -/
def isNull (s : String) : Bool := s = "~" || s = "null" || s = "Null" || s = "NULL"

/-- The truth value that a text stands for. -/
def flag? (s : String) : Option Bool :=
  if s = "true" || s = "True" || s = "TRUE" then some true
  else if s = "false" || s = "False" || s = "FALSE" then some false
  else none

/-! ## Whole numbers -/

/-- The value of a digit of a base up to sixteen. -/
def digit? (base : Nat) (c : Char) : Option Nat :=
  let v? :=
    if isDigit c then some (c.toNat - 48)
    else if 'a' ≤ c && c ≤ 'f' then some (c.toNat - 87)
    else if 'A' ≤ c && c ≤ 'F' then some (c.toNat - 55)
    else none
  v?.bind fun v => if v < base then some v else none

/-- The number that digits of a base write. -/
def natural? (base : Nat) (ds : List Char) : Option Nat :=
  if ds.isEmpty then none
  else ds.foldlM (fun n c => (digit? base c).map fun v => n * base + v) 0

/-- Digits that begin with a zero. -/
def isZeroPadded (s : List Char) : Bool :=
  match s with
  | '0' :: d :: ds => isDigit d && ds.all isDigit
  | _ => false

/-- A text without its sign. -/
def unsigned : List Char → List Char
  | '+' :: r => r
  | '-' :: r => r
  | s => s

/-- The number that a text without a sign writes, in any of the bases. -/
def magnitude? : List Char → Option Nat
  | '0' :: 'x' :: r => natural? 16 r
  | '0' :: 'o' :: r => natural? 8 r
  | '0' :: 'b' :: r => natural? 2 r
  | s => if isZeroPadded s then none else natural? 10 s

/-- The whole number that a text writes. -/
def integer? : List Char → Option Int
  | '-' :: r => (magnitude? r).map fun n => -(n : Int)
  | '+' :: r => (magnitude? r).map fun n => (n : Int)
  | r => (magnitude? r).map fun n => (n : Int)

/-! ## Doubles -/

/-- The texts for infinity. -/
def isInfinity (s : String) : Bool := s = ".inf" || s = ".Inf" || s = ".INF"

/-- The texts for the value that is not a number. -/
def isNaN (s : String) : Bool := s = ".nan" || s = ".NaN" || s = ".NAN"

/-- The exponent behind the letter, if nothing but an exponent is there. -/
def exponent? (s : List Char) : Option Int :=
  let (negative, ds) := match s with
    | '-' :: r => (true, r)
    | '+' :: r => (false, r)
    | _ => (false, s)
  if ds.isEmpty || !ds.all isDigit then none
  else some (if negative then -(Text.value ds : Int) else Text.value ds)

/-- The double for `m * 10 ^ e`, where `m` has so many digits, unless it is too large. -/
def scaled? (m : Nat) (digits : Nat) (e : Int) : Option Float :=
  if m = 0 then some 0
  else if 310 < digits + e then none
  else if digits + e < -330 then some 0
  else
    let x := Float.ofScientific m (e < 0) e.natAbs
    if x.isInf then none else some x

/-- The finite double that a text without a sign writes. -/
def decimal? (s : List Char) : Option Float := do
  let whole := s.takeWhile isDigit
  let rest := s.dropWhile isDigit
  let (fraction, rest) := match rest with
    | '.' :: r => (r.takeWhile isDigit, r.dropWhile isDigit)
    | r => ([], r)
  if whole.isEmpty && fraction.isEmpty then none
  let ds := (whole ++ fraction).dropWhile (· = '0')
  let e ← match rest with
    | [] => some 0
    | 'e' :: r => exponent? r
    | 'E' :: r => exponent? r
    | _ => none
  scaled? (Text.value ds) ds.length (e - fraction.length)

/-- The double that a text writes. -/
def double? (text : String) : Option Float :=
  match text.toList with
  | '-' :: r =>
    if isInfinity (String.ofList r) then some (-(1.0 / 0.0)) else (decimal? r).map fun x => -x
  | '+' :: r => if isInfinity (String.ofList r) then some (1.0 / 0.0) else decimal? r
  | r =>
    if isInfinity text then some (1.0 / 0.0)
    else if isNaN text then some (0.0 / 0.0)
    else decimal? r

/-! ## The meaning -/

/-- What a scalar stands for. -/
inductive Meaning where
  | null
  | flag (value : Bool)
  | integer (value : Int)
  | double (value : Float)
  | text

/-- The least whole number of 128 bits with a sign. -/
def least : Int := -170141183460469231731687303715884105728

/-- The greatest whole number of 128 bits without a sign. -/
def greatest : Int := 340282366920938463463374607431768211455

/-- Whether a whole number fits into 128 bits, with or without a sign. -/
def isWide (n : Int) : Bool := least ≤ n && n ≤ greatest

/-- What the text of a plain scalar stands for. -/
def meaning (s : String) : Meaning :=
  if s = "" || isNull s then .null
  else match flag? s with
    | some b => .flag b
    | none =>
      let number := (integer? s.toList).filter isWide
      match number with
      | some n => .integer n
      | none =>
        if isZeroPadded (unsigned s.toList) then .text
        else match double? s with
          | some x => .double x
          | none => .text

/-- The JSON value of a whole number, if it is small enough. -/
def integerJson? (n : Int) : Option Json := Json.ofInt? n

/-- The JSON value of a double; one that is not finite has none and is null. -/
def doubleJson (x : Float) : Json :=
  if x.isFinite then .number (.double (Double.ofFloat x)) else .null

end LifecycleGuard.Yaml.Scalar
