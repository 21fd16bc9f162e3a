import LifecycleGuard.Json.Value
import LifecycleGuard.Number.Scientific

/-!
# Writing JSON

The compact written form: no blanks, members in the order of the value, doubles in the fewest
digits that read back.  Inside a string the quotation mark, the backslash and the control
characters below the space are escaped, the five with a letter by that letter and the others by
their number; every other character stands for itself.
-/

namespace LifecycleGuard.Json

/-- A double is written positionally from `0.00001` up to sixteen digits before the point. -/
def doubleStyle : Scientific.Style := ⟨-5, 15⟩

/-- A whole number in decimal. -/
def intChars (n : Int) : List Char :=
  if n < 0 then '-' :: Nat.toDigits 10 n.natAbs else Nat.toDigits 10 n.natAbs

/-- The written form of a number.  A double that is not finite has none and is written as null. -/
def numberChars : Number → List Char
  | .whole n _ => intChars n
  | .double d => if d.isFinite then Scientific.write doubleStyle d else ['n', 'u', 'l', 'l']

/-- A hexadecimal digit. -/
def hexDigit (n : Nat) : Char := Nat.digitChar n

/-- How one character is written inside a string. -/
def escapeChar (c : Char) : List Char :=
  if c.toNat = 0x22 then ['\\', c]
  else if c = '\\' then ['\\', '\\']
  else if c.toNat < 0x20 then
    if c.toNat = 8 then ['\\', 'b']
    else if c.toNat = 9 then ['\\', 't']
    else if c.toNat = 10 then ['\\', 'n']
    else if c.toNat = 12 then ['\\', 'f']
    else if c.toNat = 13 then ['\\', 'r']
    else ['\\', 'u', '0', '0', hexDigit (c.toNat / 16), hexDigit (c.toNat % 16)]
  else [c]

/-- The quotation mark that encloses strings. -/
def quote : Char := Char.ofNat 0x22

/-- The written form of a string. -/
def stringChars (s : String) : List Char := quote :: s.toList.flatMap escapeChar ++ [quote]

mutual

/-- The written form of a value. -/
def chars : Json → List Char
  | .null => ['n', 'u', 'l', 'l']
  | .bool true => ['t', 'r', 'u', 'e']
  | .bool false => ['f', 'a', 'l', 's', 'e']
  | .number n => numberChars n
  | .string s => stringChars s
  | .array items => '[' :: itemsChars items ++ [']']
  | .object members => Char.ofNat 0x7B :: membersChars members ++ [Char.ofNat 0x7D]

/-- Items, separated by commas. -/
def itemsChars : List Json → List Char
  | [] => []
  | [j] => chars j
  | j :: rest => chars j ++ ',' :: itemsChars rest

/-- Members, separated by commas. -/
def membersChars : List (String × Json) → List Char
  | [] => []
  | [(k, j)] => stringChars k ++ ':' :: chars j
  | (k, j) :: rest => stringChars k ++ ':' :: chars j ++ ',' :: membersChars rest

end

/-- The written form of a value. -/
def render (j : Json) : String := String.ofList (chars j)

end LifecycleGuard.Json
