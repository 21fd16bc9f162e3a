/-!
# Identifiers of entries

An identifier is thirty-two hexadecimal digits.  It is written in lower case in five groups,
`8-4-4-4-12`; it is also read without the hyphens, in braces, and behind `urn:uuid:`.  Letters
may be of either case, in the name of the scheme too.
-/

namespace LifecycleGuard

/-- An identifier of thirty-two hexadecimal digits. -/
structure Uuid where
  digits : List (Fin 16)
  length_digits : digits.length = 32
deriving DecidableEq

namespace Uuid

/-- The identifier whose digits are all zero. -/
def nil : Uuid := ⟨List.replicate 32 0, by simp⟩

instance : Inhabited Uuid := ⟨nil⟩

/-! ## Writing -/

/-- The character of a digit. -/
def digitChar (d : Fin 16) : Char := Nat.digitChar d

/-- The written form. -/
def chars (u : Uuid) : List Char :=
  let ds := u.digits.map digitChar
  ds.take 8 ++ '-' :: (ds.drop 8).take 4 ++ '-' :: (ds.drop 12).take 4 ++
    '-' :: (ds.drop 16).take 4 ++ '-' :: ds.drop 20

/-- The written form. -/
def render (u : Uuid) : String := String.ofList (chars u)

/-! ## Reading -/

/-- The digit that a character is, in either case. -/
def digit? (c : Char) : Option (Fin 16) :=
  if '0' ≤ c && c ≤ '9' then some (Fin.ofNat 16 (c.toNat - 48))
  else if 'a' ≤ c && c ≤ 'f' then some (Fin.ofNat 16 (c.toNat - 87))
  else if 'A' ≤ c && c ≤ 'F' then some (Fin.ofNat 16 (c.toNat - 55))
  else none

/-- The identifier with these digits. -/
def ofDigits? (ds : List (Fin 16)) : Option Uuid :=
  if h : ds.length = 32 then some ⟨ds, h⟩ else none

/-- The digits without hyphens. -/
def simple? (s : List Char) : Option Uuid := do ofDigits? (← s.mapM digit?)

/-- The digits in five groups. -/
def grouped? (s : List Char) : Option Uuid :=
  if s.length = 36 ∧ s[8]? = some '-' ∧ s[13]? = some '-' ∧ s[18]? = some '-' ∧ s[23]? = some '-'
  then simple? (s.take 8 ++ (s.drop 9).take 4 ++ (s.drop 14).take 4 ++ (s.drop 19).take 4 ++
    s.drop 24)
  else none

/-- What stands between braces. -/
def braced? : List Char → Option (List Char)
  | c :: rest => if c.toNat = 0x7B ∧ rest.getLast? = some (Char.ofNat 0x7D)
      then some rest.dropLast else none
  | [] => none

/-- What follows the name of the scheme, in either case. -/
def unscheme? (s : List Char) : Option (List Char) :=
  if (s.take 9).map Char.toLower = ['u', 'r', 'n', ':', 'u', 'u', 'i', 'd', ':']
  then some (s.drop 9) else none

/-- The identifier that a list of characters names. -/
def ofChars? (s : List Char) : Option Uuid :=
  if s.length = 32 then simple? s
  else if s.length = 36 then grouped? s
  else if s.length = 38 then (braced? s).bind grouped?
  else if s.length = 45 then (unscheme? s).bind grouped?
  else none

/-- The identifier that a text names. -/
def parse? (text : String) : Option Uuid := ofChars? text.toList

/-! ## Supply -/

/-- The last `k` hexadecimal digits of a number. -/
def hexPadded : Nat → Nat → List (Fin 16)
  | 0, _ => []
  | k + 1, n => hexPadded k (n / 16) ++ [Fin.ofNat 16 n]

@[simp] theorem length_hexPadded (k n : Nat) : (hexPadded k n).length = k := by
  induction k generalizing n with
  | zero => rfl
  | succ k ih => simp [hexPadded, ih]

/-- The identifier with a given serial number.  Its leading digits keep it apart from identifiers
that are written by hand. -/
def ofSerial (n : Nat) : Uuid :=
  ⟨hexPadded 12 0xE51CAB7F24C9 ++ hexPadded 4 0x4B6D ++ hexPadded 4 0xA3E8 ++ hexPadded 12 n,
    by simp⟩

end Uuid

end LifecycleGuard
