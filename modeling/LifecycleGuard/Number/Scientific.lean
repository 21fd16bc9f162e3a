import LifecycleGuard.Number.Shortest

/-!
# Writing doubles

How the digits of a double become text.  The choices that a format makes are collected in
`Style`; `Scientific.write` carries them out.
-/

namespace LifecycleGuard.Scientific

/-- When a number is written without an exponent. -/
structure Style where
  /-- The smallest exponent of the leading digit that is written positionally. -/
  fixedFrom : Int
  /-- The largest exponent of the leading digit that is written positionally. -/
  fixedTo : Int

/-- Zeros. -/
def zeros (n : Nat) : List Char := List.replicate n '0'

/-- A whole number keeps a point and a zero, so that it reads back as a double. -/
def positional (ds : List Char) (exponent : Int) : List Char :=
  if 0 ≤ exponent then ds ++ zeros exponent.toNat ++ ['.', '0']
  else
    let places := (-exponent).toNat
    if places < ds.length then
      ds.take (ds.length - places) ++ ['.'] ++ ds.drop (ds.length - places)
    else ['0', '.'] ++ zeros (places - ds.length) ++ ds

/-- One digit, the rest after a point, and a signed exponent. -/
def withExponent (ds : List Char) (lead : Int) : List Char :=
  let mantissa := match ds with
    | [] => []
    | [d] => [d]
    | d :: rest => d :: '.' :: rest
  mantissa ++ ['e', if lead < 0 then '-' else '+'] ++ Nat.toDigits 10 lead.natAbs

/-- A finite double in the fewest digits that read back. -/
def write (style : Style) (d : Double) : List Char :=
  let sign := if d.isNegative then ['-'] else []
  let x := d.decompose
  if x.significand = 0 then sign ++ ['0', '.', '0']
  else
    let shortest := Shortest.digits x
    let ds := Nat.toDigits 10 shortest.digits
    let lead := shortest.exponent + ds.length - 1
    if style.fixedFrom ≤ lead ∧ lead ≤ style.fixedTo then
      sign ++ positional ds shortest.exponent
    else sign ++ withExponent ds lead

end LifecycleGuard.Scientific
