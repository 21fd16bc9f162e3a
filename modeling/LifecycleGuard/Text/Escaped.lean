import LifecycleGuard.Text.CaseTable
import LifecycleGuard.Text.PrintableTable

/-!
# Quoted text for diagnostics

How a name is shown to a developer: between double quotes, with the quote, the backslash, tab,
line feed, carriage return and NUL written as two characters, and every character without a
visible form of its own written by its number in braces.
-/

namespace LifecycleGuard.Text

/-- The digits of a number in lower-case hexadecimal. -/
def hexDigits (n : Nat) : List Char := Nat.toDigits 16 n

/-- A character by its number. -/
def numbered (c : Char) : List Char :=
  ['\\', 'u', Char.ofNat 0x7B] ++ hexDigits c.toNat ++ [Char.ofNat 0x7D]

/-- Whether a character is shown as it is inside quotes. -/
def isShown (c : Char) : Bool :=
  if c.toNat < 0x7F then 0x20 ≤ c.toNat
  else !CaseTable.within PrintableTable.extenderRanges c.toNat &&
    !CaseTable.within PrintableTable.hiddenRanges c.toNat

/-- How one character is written between quotes. -/
def escapedChar (c : Char) : List Char :=
  if c = Char.ofNat 0 then ['\\', '0']
  else if c = '\t' then ['\\', 't']
  else if c = '\n' then ['\\', 'n']
  else if c = '\r' then ['\\', 'r']
  else if c = '\\' then ['\\', '\\']
  else if c.toNat = 0x22 then ['\\', c]
  else if isShown c then [c]
  else numbered c

/-- A text between double quotes. -/
def quoted (s : String) : String :=
  String.ofList ([Char.ofNat 0x22] ++ s.toList.flatMap escapedChar ++ [Char.ofNat 0x22])

end LifecycleGuard.Text
