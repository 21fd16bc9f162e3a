import LifecycleGuard.Host.Units
import LifecycleGuard.Policy.Declaring

/-!
# Declaring while serving

Between the operations of its units of work a host can declare more in its policies.  A `Service`
is a host together with its units, and an `Occurrence` is a call that declares something or an
operation.  The policy that a call declares in is changed for all units, and for all host code that
calls it.
-/

namespace LifecycleGuard

variable {π μ : Type}

/-- A host and the units of work that it serves. -/
structure Service (π μ : Type) where
  host : Host π μ
  units : Units

/-- Something that happens while a host serves. -/
inductive Occurrence (π μ : Type) where
  /-- Something is declared in the policy of a name. -/
  | declare (policy : String) (d : Policy.Declaration π μ)
  /-- A unit of work does an operation. -/
  | operate (unit : String) (op : Operation)

/-- What an occurrence comes to. -/
inductive Upshot where
  | declared (answer : Except DeclarationError Unit)
  | unknownPolicy
  | turn (t : Turn)

/-- Whether a declaration has failed. -/
def Upshot.failed : Upshot → Bool
  | declared (.error _) => true
  | _ => false

/-- The host with another policy under a name. -/
def Host.put (h : Host π μ) (name : String) (p : Policy π μ) : Host π μ :=
  { h with policy? := fun other => if other = name then some p else h.policy? other }

/-- The units when some events have been reported. -/
def Units.reporting (u : Units) (events : List Event) : Units :=
  { u with work := { u.work with events := u.work.events ++ events } }

namespace Service

variable (depth : Nat)

/-- What happens next. -/
def step (s : Service π μ) : Occurrence π μ → Upshot × Service π μ
  | .declare name d =>
    match s.host.policy? name with
    | none => (.unknownPolicy, s)
    | some p =>
      let (answer, p) := d.make p
      (.declared answer.result, ⟨s.host.put name p, s.units.reporting answer.events⟩)
  | .operate unit op =>
    let (turn, units) := s.units.step s.host (s.host.oracle depth) unit op
    (.turn turn, ⟨s.host, units⟩)

/-- What happens in order, each with what it comes to. -/
def run (s : Service π μ) : List (Occurrence π μ) → List (Occurrence π μ × Upshot) × Service π μ
  | [] => ([], s)
  | x :: rest =>
    let (upshot, s) := s.step depth x
    let (history, s) := run s rest
    ((x, upshot) :: history, s)

end Service

end LifecycleGuard
