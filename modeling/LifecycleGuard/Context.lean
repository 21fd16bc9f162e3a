import LifecycleGuard.Audit.Entry

/-!
# Execution contexts

The state of one unit of work: who acts, what is switched off, and the entries of transitions
that have begun and not yet been committed, at most one for each entity type.

Two flags switch enforcement and auditing off altogether, two sets switch them off for single
entity types.  Switching enforcement off altogether switches auditing off as well; switching it
off for a type does not.
-/

namespace LifecycleGuard

/-- The state of one unit of work. -/
structure Context where
  actor : Option Actor
  enforcing : Bool
  auditing : Bool
  /-- Entity types for which enforcement is off. -/
  securityOff : SortedSet String
  /-- Entity types for which auditing is off. -/
  auditOff : SortedSet String
  /-- Entries that have begun, by entity type. -/
  inFlight : SortedMap String AuditEntry
deriving DecidableEq

namespace Context

/-- A context without actor in which nothing is switched off. -/
def fresh : Context := ⟨none, true, true, .empty, .empty, .empty⟩

/-- A fresh context in which enforcement is off. -/
def disabled : Context := { fresh with enforcing := false }

/-- A fresh context of an actor. -/
def of (a : Actor) : Context := { fresh with actor := some a }

/-- Whether permissions of an entity type are not checked. -/
def isSecurityBypassed (c : Context) (type : String) : Bool :=
  !c.enforcing || SortedSet.mem c.securityOff type

/-- Whether events of an entity type are not captured. -/
def isAuditBypassed (c : Context) (type : String) : Bool :=
  !c.enforcing || !c.auditing || SortedSet.mem c.auditOff type

/-- Whether an entry of an entity type is in flight. -/
def hasInFlight (c : Context) (type : String) : Bool := c.inFlight.contains type

/-- The context with another actor, or none. -/
def withActor (c : Context) (a : Option Actor) : Context := { c with actor := a }

/-- The context with an entry in flight, in the place of the one that was. -/
def hold (c : Context) (type : String) (e : AuditEntry) : Context :=
  { c with inFlight := c.inFlight.insert type e }

/-- The context without the entry in flight of a type. -/
def release (c : Context) (type : String) : Context :=
  { c with inFlight := c.inFlight.erase type }

/-- The context with everything cleared. -/
def reset (_ : Context) : Context := fresh

end Context

end LifecycleGuard
