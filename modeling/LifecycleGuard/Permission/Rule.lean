import LifecycleGuard.Action
import LifecycleGuard.Actor
import LifecycleGuard.Entity
import LifecycleGuard.Text.Escaped

/-!
# Rules

A rule binds a predicate to a target: an action, an attribute, or an association action on a
relation.  Targets are ordered in this sequence, each kind by its parts.  What a predicate is and
how it is evaluated is left to the host; it sees a `Request`.
-/

namespace LifecycleGuard

/-- What a rule governs. -/
inductive RuleTarget where
  | action (action : Action)
  | attr (name : String)
  | association (action : AssociationAction) (relation : String)
deriving DecidableEq

namespace RuleTarget

/-- The target in words. -/
def describe : RuleTarget → String
  | action a => a.name
  | attr name => "attribute " ++ name
  | association a relation => a.name ++ " " ++ relation

/-- The order of targets. -/
def order : RuleTarget → RuleTarget → Ordering
  | action a, action b => compare a b
  | action _, _ => .lt
  | attr _, action _ => .gt
  | attr m, attr n => compare m n
  | attr _, association .. => .lt
  | association a r, association b s => (compare a b).then (compare r s)
  | association .., _ => .gt

instance : Ord RuleTarget := ⟨order⟩

/-- Targets in their order. -/
def sort (targets : List RuleTarget) : List RuleTarget :=
  targets.mergeSort fun a b => (order a b).isLE

/-- A word with its first letter in upper case. -/
def capitalized (s : String) : String := s.capitalize

/-- How the target is shown to a developer. -/
def debugText : RuleTarget → String
  | action a => "Action(" ++ capitalized a.name ++ ")"
  | attr name => "Attribute(" ++ Text.quoted name ++ ")"
  | association a relation =>
    "Association(" ++ capitalized a.name ++ ", " ++ Text.quoted relation ++ ")"

end RuleTarget

/-- A predicate bound to a target. -/
structure Rule (π : Type) where
  target : RuleTarget
  predicate : π

/-- How a rule is shown to a developer; a predicate has nothing to show. -/
def Rule.debugText {π : Type} (r : Rule π) : String :=
  "Rule \x7b target: " ++ r.target.debugText ++ ", .. \x7d"

/-- What a predicate gets to see, besides the context. -/
structure Request where
  /-- The actor when the check began. -/
  actor : Option Actor
  /-- The entity that the transition applies to. -/
  subject : Entity
  /-- The entity that is added to or removed from a relation. -/
  associated : Option Entity
deriving DecidableEq

namespace Request

/-- Whether there is an actor with a role. -/
def actorHasRole (r : Request) (role : String) : Bool :=
  match r.actor with
  | some a => a.hasRole role
  | none => false

/-- The identity of the actor. -/
def actorId? (r : Request) : Option String := r.actor.map Actor.id

end Request

end LifecycleGuard
