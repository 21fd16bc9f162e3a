import LifecycleGuard.Time.Date

/-!
# Instants

A moment of universal time to the nanosecond, kept as date and time of day.  Second 60 is the
inserted second at the end of any minute; it comes after second 59 and before the next minute, so
instants are ordered by their components from the year down.
-/

namespace LifecycleGuard

/-- Whether hour, minute, second and nanosecond make a time of day. -/
def Calendar.IsTime (hour minute second nano : Nat) : Prop :=
  hour < 24 ∧ minute < 60 ∧ second ≤ 60 ∧ nano < 1000000000

instance (hour minute second nano : Nat) : Decidable (Calendar.IsTime hour minute second nano) :=
  inferInstanceAs (Decidable (_ ∧ _))

/-- A moment of universal time. -/
structure Instant where
  date : Date
  hour : Nat
  minute : Nat
  second : Nat
  nano : Nat
  valid : Calendar.IsTime hour minute second nano
deriving DecidableEq

namespace Instant

/-- The instant of a date with this time of day. -/
def of? (date : Date) (hour minute second nano : Nat) : Option Instant :=
  if h : Calendar.IsTime hour minute second nano then some ⟨date, hour, minute, second, nano, h⟩
  else none

/-- The components from the year down. -/
def components (t : Instant) : List Int :=
  [t.date.year, t.date.month, t.date.day, t.hour, t.minute, t.second, t.nano]

/-- Whether a list of components comes before another. -/
def before : List Int → List Int → Bool
  | a :: as, b :: bs => a < b || (a = b && before as bs)
  | _, _ => false

/-- Whether an instant is not later than another. -/
def le (s t : Instant) : Bool := !before t.components s.components

/-- The same time of day with the clock turned back by some minutes, less than a day. -/
def turnBack? (t : Instant) (minutes : Int) : Option Instant :=
  let m : Int := (t.hour * 60 + t.minute : Nat) - minutes
  if m < 0 then do
    let d ← t.date.previous?
    of? d ((m + 1440) / 60).toNat ((m + 1440) % 60).toNat t.second t.nano
  else if 1440 ≤ m then do
    let d ← t.date.next?
    of? d ((m - 1440) / 60).toNat ((m - 1440) % 60).toNat t.second t.nano
  else of? t.date (m / 60).toNat (m % 60).toNat t.second t.nano

/-- The first of January 1970. -/
def epoch : Instant := ⟨⟨1970, 1, 1, by decide⟩, 0, 0, 0, 0, by decide⟩

end Instant

end LifecycleGuard
