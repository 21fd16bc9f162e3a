import LifecycleGuard.Policy.Error
import LifecycleGuard.Work.World

/-!
# Calls of host code

What host code can ask of the library, and what it is answered with.  Policies are called by
name, so policies can refer to each other in circles without any of them containing another.

A `Call` is a question together with its answer and the world as it was when the answer was
given.  The calls of a piece of work, in the order in which they were answered, are what the host
can know about it.
-/

namespace LifecycleGuard

/-- A call that host code can make. -/
inductive Command where
  | actor
  | isEnforcing
  | isAuditing
  | isSecurityBypassed (type : String)
  | isAuditBypassed (type : String)
  | hasInFlight (type : String)
  | setActor (a : Option Actor)
  | reset
  /-- Leave a label for an observer. -/
  | label (text : String)
  | checkAction (policy : String) (a : Action) (subject : Entity)
  | checkAttributes (policy : String) (a : Action) (subject : Entity)
  | isGranted (policy : String) (a : Action) (subject : Entity)
  | isAttributeGranted (policy name : String) (subject : Entity)
  | granted (policy : String) (subject : Entity) (actions : List Action)
      (attributes : List String) (wanted : Bool)
  | before (policy : String) (a : Action) (subject : Entity)
  | after (policy : String) (a : Action) (subject : Entity)
  | abandon (policy : String)
  | afterFind (policy : String) (subject : Entity)
  | beforeAssociation (policy : String) (a : AssociationAction) (relation : String)
      (subject associated : Entity)
deriving DecidableEq

/-- What a call is answered with. -/
def Command.Answer : Command → Type
  | actor => Option Actor
  | isEnforcing => Bool
  | isAuditing => Bool
  | isSecurityBypassed _ => Bool
  | isAuditBypassed _ => Bool
  | hasInFlight _ => Bool
  | setActor _ => Unit
  | reset => Unit
  | label _ => Unit
  | checkAction .. => Except Denial Unit
  | checkAttributes .. => Except Denial Unit
  | isGranted .. => Bool
  | isAttributeGranted .. => Bool
  | granted .. => List Action × List String
  | before .. => Except PolicyError Unit
  | after .. => Except PolicyError (Option AuditEntry)
  | abandon _ => Unit
  | afterFind .. => Except PolicyError (Option AuditEntry)
  | beforeAssociation .. => Except PolicyError Unit

/-- A call that was answered. -/
structure Call where
  command : Command
  answer : command.Answer
  /-- The world when the answer was given. -/
  world : World

end LifecycleGuard
