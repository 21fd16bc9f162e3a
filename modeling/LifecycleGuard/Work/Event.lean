import LifecycleGuard.Action
import LifecycleGuard.Json.Printer
import LifecycleGuard.Uuid

/-!
# Diagnostic events

What the library reports about its own decisions while it works.  An event is data; `level`,
`message` and `fields` say how it is shown.
-/

namespace LifecycleGuard

/-- How important an event is. -/
inductive Level where
  | trace
  | debug
  | warn
deriving DecidableEq

/-- The name of a level. -/
def Level.name : Level → String
  | .trace => "TRACE"
  | .debug => "DEBUG"
  | .warn => "WARN"

/-- Something that is worth reporting. -/
inductive Event where
  | enforcementBypassed (action : String) (relation : Option String) (type : String)
  | evaluatedAction (action : Action) (subject actor : String) (permitted : Bool)
  | evaluatedAttributes (action : Action) (subject : String) (denied : Nat)
  | evaluatedAssociation (action : AssociationAction) (relation subject associated : String)
      (permitted : Bool)
  | permissionDenied (action : String) (relation : Option String) (error : String)
  | registeredGrant (type : String) (actions attributes : Nat)
  | discardedInFlight (type : String)
  | abandonedInFlight (type : String)
  | replacedDeclaration (type : String) (action : Action)
  | auditBypassed (action : Action) (type : String)
  | holdingEntry (action : Action) (type : String) (entry : Uuid)
  | otherActionInFlight (action inFlight : Action) (type : String)
  | persistedEntry (action : Action) (subject actor : String)
  | loadedDeclarations (entities : Nat) (auditing : Bool)
  | undeclaredType (type : String)
  | builtPolicy (type : String) (grants attributeGrants audits : Nat)
deriving DecidableEq

namespace Event

/-- How important the event is. -/
def level : Event → Level
  | enforcementBypassed .. => .trace
  | permissionDenied .. => .warn
  | auditBypassed .. => .trace
  | holdingEntry .. => .trace
  | _ => .debug

/-- What happened. -/
def message : Event → String
  | enforcementBypassed .. => "Enforcement bypassed"
  | evaluatedAction .. => "Evaluated action"
  | evaluatedAttributes .. => "Evaluated changed attributes"
  | evaluatedAssociation .. => "Evaluated association"
  | permissionDenied .. => "Permission denied"
  | registeredGrant .. => "Registered grant"
  | discardedInFlight .. => "Discarding abandoned in-flight audit entry"
  | abandonedInFlight .. => "Abandoned in-flight audit entry"
  | replacedDeclaration .. => "Replaced audit declaration"
  | auditBypassed .. => "Audit bypassed"
  | holdingEntry .. => "Holding in-flight audit entry"
  | otherActionInFlight .. => "In-flight audit entry belongs to another action"
  | persistedEntry .. => "Persisted audit entry"
  | loadedDeclarations .. => "Loaded grant declarations"
  | undeclaredType .. => "No declarations; every action is denied"
  | builtPolicy .. => "Built entity policy"

/-- A number of things. -/
def count (n : Nat) : Json := (Json.ofInt? n).getD .null

/-- A relation, if one is concerned. -/
def relationField (relation : Option String) : List (String × Json) :=
  match relation with
  | some r => [("relation", .string r)]
  | none => []

/-- What is known about it. -/
def fields : Event → List (String × Json)
  | enforcementBypassed action relation type =>
    ("action", .string action) :: relationField relation ++ [("entity_type", .string type)]
  | evaluatedAction action subject actor permitted =>
    [("action", .string action.name), ("subject", .string subject), ("actor", .string actor),
      ("permitted", .bool permitted)]
  | evaluatedAttributes action subject denied =>
    [("action", .string action.name), ("subject", .string subject), ("denied", count denied)]
  | evaluatedAssociation action relation subject associated permitted =>
    [("action", .string action.name), ("relation", .string relation),
      ("subject", .string subject), ("associated", .string associated),
      ("permitted", .bool permitted)]
  | permissionDenied action relation error =>
    ("action", .string action) :: relationField relation ++ [("error", .string error)]
  | registeredGrant type actions attributes =>
    [("entity_type", .string type), ("actions", count actions), ("attributes", count attributes)]
  | discardedInFlight type => [("entity_type", .string type)]
  | abandonedInFlight type => [("entity_type", .string type)]
  | replacedDeclaration type action =>
    [("entity_type", .string type), ("action", .string action.name)]
  | auditBypassed action type => [("action", .string action.name), ("entity_type", .string type)]
  | holdingEntry action type entry =>
    [("action", .string action.name), ("entity_type", .string type),
      ("entry_id", .string entry.render)]
  | otherActionInFlight action inFlight type =>
    [("action", .string action.name), ("in_flight", .string inFlight.name),
      ("entity_type", .string type)]
  | persistedEntry action subject actor =>
    [("action", .string action.name), ("subject", .string subject), ("actor", .string actor)]
  | loadedDeclarations entities auditing =>
    [("entities", count entities), ("audit_enabled", .bool auditing)]
  | undeclaredType type => [("entity_type", .string type)]
  | builtPolicy type grants attributeGrants audits =>
    [("entity_type", .string type), ("grants", count grants),
      ("attribute_grants", count attributeGrants), ("audits", count audits)]

end Event

end LifecycleGuard
