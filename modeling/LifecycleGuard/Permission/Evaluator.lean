import LifecycleGuard.Permission.Denial
import LifecycleGuard.Permission.RuleBook
import LifecycleGuard.Work.Run

/-!
# Evaluation

An evaluator answers three questions about a transition of an entity.

* **Action:** does a rule for the action permit it?
* **Attributes:** does, for every changed attribute, the rule for it permit the change?
* **Association:** does a rule for the association action on the relation permit it?

What has no rule is denied.  Nothing is asked where enforcement is bypassed for the type of the
entity or for the type of the evaluator.  Predicates run with enforcement off, in the order of
registration and only until one permits; what a predicate is to mean is the parameter `judge`.
All of them see the actor who was set when the check began.
-/

namespace LifecycleGuard

/-- The rules of an entity type, ready to be asked. -/
structure Evaluator (π : Type) where
  entityType : String
  book : RuleBook π

namespace Evaluator

variable {π : Type}

/-- Whether nothing is asked about an entity. -/
def bypassed (e : Evaluator π) (subject : Entity) (c : Context) : Bool :=
  c.isSecurityBypassed subject.type || c.isSecurityBypassed e.entityType

variable (judge : π → Request → Run Bool)

/-- Ask one rule, with enforcement off. -/
def permits (r : Request) (rule : Rule π) : Run Bool :=
  Run.within .enforcement (judge rule.predicate r)

/-- Ask rules until one permits. -/
def anyPermits (r : Request) : List (Rule π) → Run Bool
  | [] => pure false
  | rule :: rest => do
    if ← permits judge r rule then pure true else anyPermits r rest

/-- Ask the rule for an attribute. -/
def attributePermits (e : Evaluator π) (r : Request) (name : String) : Run Bool :=
  match e.book.attributeRule? name with
  | some rule => permits judge r rule
  | none => pure false

/-- The names for which the rule for the attribute does not permit. -/
def deniedNames (e : Evaluator π) (r : Request) : List String → Run (List String)
  | [] => pure []
  | name :: rest => do
    let permitted ← attributePermits judge e r name
    let others ← deniedNames e r rest
    return if permitted then others else name :: others

/-! ## Checks -/

/-- Check that a target is granted: ask its rules, unless nothing is asked.  What is reported about
it, and the denial, depend on the actor. -/
def checkTarget (e : Evaluator π) (t : RuleTarget) (subject : Entity) (associated : Option Entity)
    (action : String) (relation : Option String) (evaluated : Option Actor → Bool → Event)
    (denial : Option Actor → Denial) : Run (Except Denial Unit) := do
  let c ← Run.context
  if e.bypassed subject c then
    Run.note (.enforcementBypassed action relation e.entityType)
    return .ok ()
  let permitted ← anyPermits judge ⟨c.actor, subject, associated⟩ (e.book.rulesFor t)
  Run.note (evaluated c.actor permitted)
  if permitted then return .ok ()
  Run.note (.permissionDenied action relation (denial c.actor).message)
  return .error (denial c.actor)

/-- Check that an action is granted. -/
def checkAction (e : Evaluator π) (a : Action) (subject : Entity) : Run (Except Denial Unit) :=
  checkTarget judge e (.action a) subject none a.name none
    (fun actor => .evaluatedAction a subject.describe (Actor.describe actor))
    (fun actor => .action a.name (Actor.describe actor) subject.describe)

/-- Check that every changed attribute is granted.  The denial lists all that are not. -/
def checkAttributes (e : Evaluator π) (a : Action) (subject : Entity) :
    Run (Except Denial Unit) := do
  if !e.book.securesAttributes then return .ok ()
  let c ← Run.context
  if e.bypassed subject c then
    Run.note (.enforcementBypassed a.name none e.entityType)
    return .ok ()
  let denied ← deniedNames judge e ⟨c.actor, subject, none⟩ subject.changes.keys
  Run.note (.evaluatedAttributes a subject.describe denied.length)
  if denied.isEmpty then return .ok ()
  let denial : Denial :=
    .attributes a.name (SortedSet.ofList denied) (Actor.describe c.actor) subject.describe
  Run.note (.permissionDenied a.name none denial.message)
  return .error denial

/-- Check that an entity may be added to or removed from a relation. -/
def checkAssociation (e : Evaluator π) (a : AssociationAction) (relation : String)
    (subject associated : Entity) : Run (Except Denial Unit) :=
  checkTarget judge e (.association a relation) subject (some associated) a.name (some relation)
    (fun _ => .evaluatedAssociation a relation subject.describe associated.describe)
    (fun actor =>
      .association a.name relation associated.describe (Actor.describe actor) subject.describe)

/-! ## Questions -/

/-- Whether an action is granted now. -/
def isGranted (e : Evaluator π) (a : Action) (subject : Entity) : Run Bool := do
  let c ← Run.context
  if e.bypassed subject c then return true
  anyPermits judge ⟨c.actor, subject, none⟩ (e.book.rulesFor (.action a))

/-- Whether changes of an attribute are granted now. -/
def isAttributeGranted (e : Evaluator π) (name : String) (subject : Entity) : Run Bool := do
  if !e.book.securesAttributes then return true
  let c ← Run.context
  if e.bypassed subject c then return true
  attributePermits judge e ⟨c.actor, subject, none⟩ name

/-- The members of a list for which a question has the wanted answer, in order. -/
def answering {α : Type} (question : α → Run Bool) (wanted : Bool) : List α → Run (List α)
  | [] => pure []
  | x :: rest => do
    let answer ← question x
    let others ← answering question wanted rest
    return if answer = wanted then x :: others else others

/-- All actions in the order of their names. -/
def actionsByName : List Action := [.create, .destroy, .find, .update]

/-- The actions and attributes whose grant has the wanted state.  An empty list asks about all:
every action in the order of the names, and every known attribute. -/
def granted (e : Evaluator π) (subject : Entity) (actions : List Action)
    (attributes : List String) (wanted : Bool) : Run (List Action × List String) := do
  let actions := if actions.isEmpty then actionsByName else actions
  let attributes := if attributes.isEmpty then e.book.knownAttributes else attributes
  let as ← answering (fun a => isGranted judge e a subject) wanted actions
  let ns ← answering (fun n => isAttributeGranted judge e n subject) wanted attributes
  return (as, ns)

end Evaluator

end LifecycleGuard
