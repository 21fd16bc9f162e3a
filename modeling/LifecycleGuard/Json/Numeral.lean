import LifecycleGuard.Decoding.Error
import LifecycleGuard.Json.Value
import LifecycleGuard.Text.Digit

/-!
# Reading numbers

A number in a JSON text is read twice over: once for its value and once for whether it may be
passed over when nobody asks for the value.  The two differ for a number that is well formed but
too large for a double, which has no value and can still be passed over, and in what is reported
for a number that stops too early.

A whole number that fits into sixty-four bits is read exactly.  Everything else is a double,
computed from at most sixty-four bits of leading digits and one multiplication or division by a
power of ten; digits beyond those only count towards the exponent.
-/

namespace LifecycleGuard.Json

open Text (isDigit digitValue)

/-- What a scalar means, and whether it may be passed over unread. -/
structure Scalar (α : Type) where
  value : Except ReadError α
  skip : Except ReadError Unit

/-- A scalar that cannot be read, with the reason for a reader and for one who passes over. -/
def Scalar.broken {α : Type} (value skip : ReadError) : Scalar α := ⟨.error value, .error skip⟩

/-- Append digits to a significand while it fits into sixty-four bits; the digits that do not fit
are returned. -/
def gather (significand : Nat) : List Char → Nat × List Char
  | [] => (significand, [])
  | c :: rest =>
    let next := significand * 10 + digitValue c
    if next < 18446744073709551616 then gather next rest else (significand, c :: rest)

/-- The double for `10 ^ n`, for an exponent that doubles reach. -/
def powerOfTen (n : Nat) : Float := Float.ofScientific 1 false n

/-- Divide by `10 ^ 308` until the exponent is within reach, then once more by what is left. -/
def scaleDown : Nat → Float → Nat → Float
  | 0, x, _ => x
  | fuel + 1, x, n =>
    if n ≤ 308 then x / powerOfTen n
    else if x == 0 then x
    else scaleDown fuel (x / powerOfTen 308) (n - 308)

/-- The product of a significand and a power of ten in double arithmetic; too large a number is an
error. -/
def scaled (negative : Bool) (significand : Nat) (exponent : Int) : Except ReadError Number :=
  let start := significand.toUInt64.toFloat
  let signed (x : Float) : Number := .double (Double.ofFloat (if negative then -x else x))
  if 0 ≤ exponent then
    if exponent ≤ 308 then
      let x := start * powerOfTen exponent.toNat
      if x.isInf then .error .malformed else .ok (signed x)
    else if start == 0 then .ok (signed start)
    else .error .malformed
  else .ok (signed (scaleDown exponent.natAbs start exponent.natAbs))

/-- A whole number without point or exponent. -/
def wholeNumber (negative : Bool) (significand : Nat) : Number :=
  if h : negative = false ∧ significand < 18446744073709551616 then
    .whole significand ⟨by omega, by have := h.2; omega⟩
  else if h : significand ≠ 0 ∧ significand ≤ 9223372036854775808 then
    .whole (-(significand : Int)) ⟨by have := h.2; omega, by omega⟩
  else .double (Double.ofFloat (-(significand.toUInt64.toFloat)))

/-- The largest exponent that is read digit by digit. -/
def exponentLimit : Nat := 2147483647

/-- The value of an exponent applied to a significand. -/
def applyExponent (negative : Bool) (significand : Nat) (base : Int) (down : Bool)
    (ds : List Char) : Except ReadError Number :=
  let e := Text.value ds
  if e ≤ exponentLimit then scaled negative significand (if down then base - e else base + e)
  else if significand ≠ 0 ∧ ¬ down then .error .malformed
  else .ok (.double (Double.ofFloat (if negative then -0.0 else 0.0)))

/-- A number whose exponent begins here, after the letter. -/
def readExponent (negative : Bool) (significand : Nat) (base : Int) (s : List Char) :
    Scalar Number × List Char :=
  let (down, s) := match s with
    | '+' :: r => (false, r)
    | '-' :: r => (true, r)
    | _ => (false, s)
  match s with
  | [] => (.broken .truncated .malformed, [])
  | c :: _ =>
    if isDigit c then
      (⟨applyExponent negative significand base down (s.takeWhile isDigit), .ok ()⟩,
        s.dropWhile isDigit)
    else (.broken .malformed .malformed, s)

/-- A number whose fraction begins here, after the point. -/
def readFraction (negative : Bool) (significand : Nat) (base : Int) (s : List Char) :
    Scalar Number × List Char :=
  let ds := s.takeWhile isDigit
  let rest := s.dropWhile isDigit
  if ds.isEmpty then
    (.broken (if rest.isEmpty then .truncated else .malformed) .malformed, rest)
  else
    let (sig, unused) := gather significand ds
    let exponent := base - (ds.length - unused.length : Nat)
    match rest with
    | 'e' :: r => readExponent negative sig exponent r
    | 'E' :: r => readExponent negative sig exponent r
    | _ => (⟨scaled negative sig exponent, .ok ()⟩, rest)

/-- A number without its sign. -/
def readMagnitude (negative : Bool) (s : List Char) : Scalar Number × List Char :=
  let ds := s.takeWhile isDigit
  let rest := s.dropWhile isDigit
  match ds with
  | [] => (.broken (if s.isEmpty then .truncated else .malformed) .malformed, s)
  | '0' :: _ :: _ => (.broken .malformed .malformed, rest)
  | _ =>
    let (sig, unused) := gather 0 ds
    match rest with
    | '.' :: r => readFraction negative sig unused.length r
    | 'e' :: r => readExponent negative sig unused.length r
    | 'E' :: r => readExponent negative sig unused.length r
    | _ =>
      if unused.isEmpty then (⟨.ok (wholeNumber negative sig), .ok ()⟩, rest)
      else (⟨scaled negative sig unused.length, .ok ()⟩, rest)

/-- A number at the head of a text that begins with a digit or a minus sign. -/
def readNumber : List Char → Scalar Number × List Char
  | '-' :: s => readMagnitude true s
  | s => readMagnitude false s

end LifecycleGuard.Json
