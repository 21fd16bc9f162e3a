import LifecycleGuard.Host.Command
import LifecycleGuard.Work.Noted

/-!
# Work

Checking and recording happen in a unit of work.  `Work` is the world that it can see and change,
and what is observed about it from outside.  A `Run` takes the work as it is and gives back what
has become of it, **also when it is interrupted**; an interruption does not undo anything.

There are two interruptions.  A panic comes from host code and can be caught.  `tooDeep` means
that host code called by the library called the library again too often; it is a limit of this
model and is never caught.

`Run.within` opens a scope around some work and closes it however the work ends.  `Run.on` turns to
another context for some work, and `Run.answering` takes down the call that was answered by some
work.
-/

namespace LifecycleGuard

/-- Why some work did not come to its end. -/
inductive Interrupt where
  | panic (text : String)
  | tooDeep
deriving DecidableEq

/-- A unit of work: its world, and what is observed about it. -/
structure Work extends World where
  /-- The events so far. -/
  events : List Event
  /-- The labels that host code has left so far. -/
  labels : List String
  /-- The calls that host code has made so far, in the order in which they were answered. -/
  calls : List Call
  /-- The serial number of the next entry. -/
  serial : Nat
  /-- The time. -/
  now : Instant

namespace Work

/-- The name of the context that work begins on. -/
def mainContext : String := "main"

/-- Work that has not begun, at a point of time; every context is fresh. -/
def start (now : Instant) : Work :=
  { contexts := .empty, current := mainContext, media := .blank, events := [], labels := [],
    calls := [], serial := 0, now }

/-- The work when everything that was observed of it has been seen. -/
def seen (w : Work) : Work :=
  { w with events := [], labels := [], calls := [], media := { w.media with printed := [] } }

/-- The work with another context under a name. -/
def put (w : Work) (name : String) (c : Context) : Work := { w with toWorld := w.toWorld.put name c }

/-- The work with the current context changed. -/
def change (w : Work) (f : Context → Context) : Work := w.put w.current (f w.context)

/-- The work when a scope is entered. -/
def entering (w : Work) (s : Scope) : Work := w.put w.current (s.enter w.context).2

/-- The work when the scope is left that was entered in `before`.  It is left in the context in
which it was entered. -/
def leaving (w : Work) (s : Scope) (before : Work) : Work :=
  w.put before.current (s.leave (s.enter before.context).1 (w.contextOf before.current))

/-- The work with a call taken down. -/
def noting (w : Work) (c : Command) (answer : c.Answer) : Work :=
  { w with calls := w.calls ++ [⟨c, answer, w.toWorld⟩] }

end Work

/-- A piece of work. -/
def Run (α : Type) : Type := Work → Except Interrupt α × Work

namespace Run

variable {α β : Type}

/-- Do nothing and give a result. -/
def pure (x : α) : Run α := fun w => (.ok x, w)

/-- Go on with the result, if there is one. -/
def bind (r : Run α) (f : α → Run β) : Run β := fun w =>
  match r w with
  | (.ok x, w) => f x w
  | (.error i, w) => (.error i, w)

instance : Monad Run where
  pure := pure
  bind := bind

/-- The context as it is. -/
def context : Run Context := fun w => (.ok w.context, w)

/-- Change the context. -/
def modifyContext (f : Context → Context) : Run Unit :=
  fun w => (.ok (), w.change f)

/-- Report an event. -/
def note (e : Event) : Run Unit := fun w => (.ok (), { w with events := w.events ++ [e] })

/-- Report the events of a declaration and give its result. -/
def noted {ε : Type} (x : Noted ε α) : Run (Except ε α) :=
  fun w => (.ok x.result, { w with events := w.events ++ x.events })

/-- Leave a label. -/
def leaveLabel (label : String) : Run Unit :=
  fun w => (.ok (), { w with labels := w.labels ++ [label] })

/-- Stop because host code failed. -/
def panic (text : String) : Run α := fun w => (.error (.panic text), w)

/-- Stop because calls nest too deeply. -/
def tooDeep : Run α := fun w => (.error .tooDeep, w)

/-- Work on the media. -/
def onMedia (f : Media → α × Media) : Run α := fun w =>
  let (x, m) := f w.media
  (.ok x, { w with media := m })

/-- Put an entry in flight.  The one that was in flight before is lost. -/
def hold (type : String) (e : AuditEntry) : Run Unit := do
  let c ← context
  modifyContext fun c => c.hold type e
  if c.hasInFlight type then note (.discardedInFlight type)

/-- Drop the entry in flight. -/
def abandon (type : String) : Run Unit := do
  let c ← context
  modifyContext fun c => c.release type
  if c.hasInFlight type then note (.abandonedInFlight type)

/-- An identifier that was not given out before. -/
def newId : Run Uuid := fun w => (.ok (Uuid.ofSerial w.serial), { w with serial := w.serial + 1 })

/-- The time. -/
def now : Run Instant := fun w => (.ok w.now, w)

/-- Do some work and catch a panic. -/
def attempt (r : Run α) : Run (Except String α) := fun w =>
  match r w with
  | (.ok x, w) => (.ok (.ok x), w)
  | (.error (.panic text), w) => (.ok (.error text), w)
  | (.error .tooDeep, w) => (.error .tooDeep, w)

/-- Do some work within a scope, which is left however the work ends. -/
def within (s : Scope) (r : Run α) : Run α := fun w =>
  let (x, w₁) := r (w.entering s)
  (x, w₁.leaving s w)

/-- Do some work on another context, and turn back however the work ends. -/
def on (name : String) (r : Run α) : Run α := fun w =>
  let (x, w₁) := r { w with current := name }
  (x, { w₁ with current := w.current })

/-- Do the work that answers a call, and take the call down. -/
def answering (c : Command) (r : Run c.Answer) : Run c.Answer := fun w =>
  match r w with
  | (.ok x, w) => (.ok x, w.noting c x)
  | (.error i, w) => (.error i, w)

end Run

end LifecycleGuard
