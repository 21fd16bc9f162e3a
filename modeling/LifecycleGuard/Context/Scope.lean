import LifecycleGuard.Context

/-!
# Scopes

A scope switches something off for the time of some work.  Entering it leaves a mark that says
what there is to put back, and leaving it puts that back:

* for a flag, the value that it had;
* for an entity type, whether the scope itself switched it off.

Marks are kept apart from the context, so scopes can be left in any order, and leaving one does
what its own mark says whatever has happened in between.
-/

namespace LifecycleGuard

/-- What can be switched off for the time of some work. -/
inductive Scope where
  | enforcement
  | audit
  | securityOf (type : String)
  | auditOf (type : String)
deriving DecidableEq

namespace Scope

/-- Switch off.  The mark is the flag's value, or whether the type was not switched off before. -/
def enter (s : Scope) (c : Context) : Bool × Context :=
  match s with
  | enforcement => (c.enforcing, { c with enforcing := false })
  | audit => (c.auditing, { c with auditing := false })
  | securityOf type =>
    (!SortedSet.mem c.securityOff type, { c with securityOff := SortedSet.add c.securityOff type })
  | auditOf type =>
    (!SortedSet.mem c.auditOff type, { c with auditOff := SortedSet.add c.auditOff type })

/-- Put back what the mark says. -/
def leave (s : Scope) (mark : Bool) (c : Context) : Context :=
  match s with
  | enforcement => { c with enforcing := mark }
  | audit => { c with auditing := mark }
  | securityOf type =>
    if mark then { c with securityOff := SortedSet.remove c.securityOff type } else c
  | auditOf type => if mark then { c with auditOff := SortedSet.remove c.auditOff type } else c

end Scope

/-- A scope that was entered and not yet left. -/
structure Guard where
  scope : Scope
  mark : Bool
deriving DecidableEq

namespace Guard

/-- Enter a scope. -/
def acquire (s : Scope) (c : Context) : Guard × Context :=
  let (mark, c) := s.enter c
  (⟨s, mark⟩, c)

/-- Leave it. -/
def release (g : Guard) (c : Context) : Context := g.scope.leave g.mark c

end Guard

end LifecycleGuard
