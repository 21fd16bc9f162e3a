import LifecycleGuard.Text.Blank
import LifecycleGuard.Text.Case

/-!
# Symbols

Names in declarations may be written with padding and with leading colons, `":title"` for
`"title"`.  `Symbol.bare` removes both, `Symbol.normalize` also disregards case.  Attribute and
relation names are kept bare; the words of the declaration language are compared normalized.

The colons are removed once, between two trimmings.  A name such as `": :title"` therefore still
begins with a colon afterwards.
-/

namespace LifecycleGuard.Symbol

/-- The characters of a name without padding and leading colons. -/
def bareChars (s : List Char) : List Char :=
  Text.trimmed ((Text.trimmed s).dropWhile (· = ':'))

/-- A name without padding and leading colons. -/
def bare (token : String) : String := String.ofList (bareChars token.toList)

/-- A name without padding, leading colons and difference of case. -/
def normalize (token : String) : String :=
  String.ofList (Text.lowered (bareChars token.toList))

end LifecycleGuard.Symbol
