import LifecycleGuard.Text.Blank
import LifecycleGuard.Text.Digit
import LifecycleGuard.Time.Instant

/-!
# Time stamps

The written form of an instant and what is accepted as one.

**Writing** gives one form: `2024-05-01T12:30:00Z`, with three, six or nine digits of a second
where fewer would lose something, and with a sign before a year outside 0 to 9999.

**Reading** is more liberal.  Numbers may have fewer digits and blanks before them, the time may
be separated by `T`, `t` or a space, further digits of a second are dropped, and the time may be
local with a difference to universal time behind it.
-/

namespace LifecycleGuard.Rfc3339

open Text (isDigit padded)

/-! ## Writing -/

/-- A year: four digits, or a sign and at least four. -/
def yearChars (year : Int) : List Char :=
  if 0 ≤ year ∧ year ≤ 9999 then padded 4 year.toNat
  else (if year < 0 then '-' else '+') ::
    (if year.natAbs < 10000 then padded 4 year.natAbs else Nat.toDigits 10 year.natAbs)

/-- Date and time of day to the second. -/
def secondChars (t : Instant) : List Char :=
  yearChars t.date.year ++ '-' :: padded 2 t.date.month ++ '-' :: padded 2 t.date.day ++
    'T' :: padded 2 t.hour ++ ':' :: padded 2 t.minute ++ ':' :: padded 2 t.second

/-- The fraction of a second, in the fewest of 0, 3, 6 or 9 digits. -/
def fractionChars (nano : Nat) : List Char :=
  if nano = 0 then []
  else if nano % 1000000 = 0 then '.' :: padded 3 (nano / 1000000)
  else if nano % 1000 = 0 then '.' :: padded 6 (nano / 1000)
  else '.' :: padded 9 nano

/-- The written form. -/
def chars (t : Instant) : List Char := secondChars t ++ fractionChars t.nano ++ ['Z']

/-- The written form. -/
def render (t : Instant) : String := String.ofList (chars t)

/-- The form for log lines: always three digits of a second, the others dropped. -/
def logText (t : Instant) : String :=
  String.ofList (secondChars t ++ '.' :: padded 3 (t.nano / 1000000) ++ ['Z'])

/-! ## Reading -/

/-- A number of at most `most` digits. -/
def number? (most : Nat) (s : List Char) : Option (Nat × List Char) :=
  let ds := (s.take most).takeWhile isDigit
  if ds.isEmpty then none else some (Text.value ds, s.drop ds.length)

/-- A number of one or two digits, with blanks before it. -/
def field? (s : List Char) : Option (Nat × List Char) := number? 2 (Text.dropBlanks s)

/-- A year: up to four digits, or a sign and any number of them. -/
def year? (s : List Char) : Option (Int × List Char) :=
  match Text.dropBlanks s with
  | '-' :: r => (number? r.length r).map fun x => (-(x.1 : Int), x.2)
  | '+' :: r => (number? r.length r).map fun x => ((x.1 : Int), x.2)
  | r => (number? 4 r).map fun x => ((x.1 : Int), x.2)

/-- What follows a mark that may have blanks before it. -/
def mark? (c : Char) (s : List Char) : Option (List Char) :=
  match Text.dropBlanks s with
  | d :: r => if d = c then some r else none
  | [] => none

/-- The fraction of a second in nanoseconds, if there is one. -/
def fraction? : List Char → Option (Nat × List Char)
  | '.' :: s =>
    let ds := s.takeWhile isDigit
    let kept := ds.take 9
    if ds.isEmpty then none
    else some (Text.value kept * Nat.pow 10 (9 - kept.length), s.drop ds.length)
  | s => some (0, s)

/-- Two digits, the first of them at most `top`. -/
def pair? (top : Char) : List Char → Option (Nat × List Char)
  | a :: b :: r =>
    if isDigit a && a ≤ top && isDigit b then some (Text.value [a, b], r) else none
  | _ => none

/-- What may stand between the hours and the minutes of a difference. -/
def dropColons (s : List Char) : List Char := s.dropWhile fun c => c = ':' || Text.isBlank c

/-- Hours and minutes of a difference, in minutes. -/
def difference? (s : List Char) : Option (Nat × List Char) := do
  let (h, s) ← pair? '9' s
  let (m, s) ← pair? '5' (dropColons s)
  return (h * 60 + m, s)

/-- The difference to universal time in minutes. -/
def offset? : List Char → Option (Int × List Char)
  | 'Z' :: s => some (0, s)
  | 'z' :: s => some (0, s)
  | '+' :: s => (difference? s).map fun x => ((x.1 : Int), x.2)
  | '-' :: s => (difference? s).map fun x => (-(x.1 : Int), x.2)
  | '−' :: s => (difference? s).map fun x => (-(x.1 : Int), x.2)
  | a :: b :: c :: s =>
    if a.toUpper = 'U' ∧ b.toUpper = 'T' ∧ c.toUpper = 'C' then some (0, s) else none
  | _ => none

/-- What follows the mark between date and time. -/
def separator? : List Char → Option (List Char)
  | 'T' :: s => some s
  | 't' :: s => some s
  | ' ' :: s => some s
  | _ => none

/-- The instant that a text names, and what follows it. -/
def readChars (s : List Char) : Option (Instant × List Char) := do
  let (year, s) ← year? s
  let (month, s) ← field? (← mark? '-' s)
  let (day, s) ← field? (← mark? '-' s)
  let (hour, s) ← field? (← separator? s)
  let (minute, s) ← field? (← mark? ':' s)
  let (second, s) ← field? (← mark? ':' s)
  let (nano, s) ← fraction? s
  let (offset, s) ← offset? (Text.dropBlanks s)
  let date ← Date.of? year month day
  let civil ← Instant.of? date hour minute second nano
  if offset.natAbs < 1440 then
    let t ← civil.turnBack? offset
    return (t, s)
  else none

/-- The instant that a text names; only blanks may follow. -/
def parse? (text : String) : Option Instant := do
  let (t, rest) ← readChars text.toList
  if (Text.dropBlanks rest).isEmpty then some t else none

end LifecycleGuard.Rfc3339
