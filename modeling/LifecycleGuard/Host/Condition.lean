import LifecycleGuard.Audit.Template
import LifecycleGuard.Host.Program

/-!
# Conditions and message rules

A small language in which a host writes predicates and messages as data.  Conditions look at
the request, at the context and at other policies; three of them act on the context and then go
on with another condition.  `all` and `any` stop as soon as the answer is known.
-/

namespace LifecycleGuard

/-- A predicate as data. -/
inductive Condition where
  | always
  | never
  | authenticated
  | role (role : String)
  | actorId (id : String)
  /-- The actor is named by an attribute of the subject. -/
  | owner (name : String)
  | actorAttribute (key : String) (value : Json)
  | subjectAttribute (name : String) (value : Json)
  | subjectNew (value : Bool)
  | associatedType (type : String)
  | associatedId (id : String)
  | enforced (value : Bool)
  | securityBypassed (type : String)
  | auditBypassed (type : String)
  /-- The actor who is set now has this descriptor. -/
  | currentActor (descriptor : String)
  | not (c : Condition)
  | all (cs : List Condition)
  | any (cs : List Condition)
  | panic (text : String)
  /-- A policy lets the entity be found. -/
  | finds (policy : String) (subject : Entity)
  /-- A policy grants an action on the entity. -/
  | grants (policy : String) (action : Action) (subject : Entity)
  | labelled (label : String) (next : Condition)
  | actingAs (actor : Option Actor) (next : Condition)
  | afterReset (next : Condition)

namespace Condition

/-- The conditions that every host has under these names. -/
def builtIn : SortedMap String Condition :=
  SortedMap.ofList [("always", always), ("never", never), ("authenticated", authenticated)]

/-- Whether an optional value is there and agrees. -/
def agrees (found : Option Json) (value : Json) : Bool :=
  match found with
  | some x => x.same value
  | none => false

/-- Whether the subject's attribute is a text that names the actor. -/
def isOwner (r : Request) (name : String) : Bool :=
  match r.actorId?, r.subject.attribute? name with
  | some id, some (.string text) => id = text
  | _, _ => false

/-- A Boolean as a program. -/
def said (b : Bool) : Program Bool := .done b

mutual

/-- What a condition does. -/
def program (r : Request) : Condition → Program Bool
  | always => said true
  | never => said false
  | authenticated => said r.actor.isSome
  | role name => said (r.actorHasRole name)
  | actorId id => said (r.actorId? = some id)
  | owner name => said (isOwner r name)
  | actorAttribute key value => said (agrees (r.actor.bind fun a => a.attribute? key) value)
  | subjectAttribute name value => said (agrees (r.subject.attribute? name) value)
  | subjectNew value => said (r.subject.id.isNone = value)
  | associatedType type => said (r.associated.map Entity.type = some type)
  | associatedId id => said (r.associated.bind Entity.id = some id)
  | enforced value => .ask .isEnforcing fun (b : Bool) => said (b == value)
  | securityBypassed type => .call (.isSecurityBypassed type)
  | auditBypassed type => .call (.isAuditBypassed type)
  | currentActor descriptor => .ask .actor fun a => said (Actor.describe a = descriptor)
  | not c => (program r c).bind fun b => said !b
  | all cs => programAll r cs
  | any cs => programAny r cs
  | panic text => .panic text
  | finds policy subject => .ask (.afterFind policy subject) fun x => said x.isOk
  | grants policy action subject => .call (.isGranted policy action subject)
  | labelled label next => .ask (.label label) fun _ => program r next
  | actingAs actor next => .ask (.setActor actor) fun _ => program r next
  | afterReset next => .ask .reset fun _ => program r next

/-- Whether every condition of a list holds. -/
def programAll (r : Request) : List Condition → Program Bool
  | [] => said true
  | c :: rest => (program r c).bind fun b => if b then programAll r rest else said false

/-- Whether some condition of a list holds. -/
def programAny (r : Request) : List Condition → Program Bool
  | [] => said false
  | c :: rest => (program r c).bind fun b => if b then said true else programAny r rest

end

end Condition

/-- A message as data. -/
inductive MessageRule where
  | template (action : Action) (text : String)
  | literal (text : String)
  | panic (text : String)
  /-- The state of the context. -/
  | state
  /-- What comes of finding an entity through a policy. -/
  | find (policy : String) (subject : Entity)

namespace MessageRule

/-- The state of a context in words. -/
def stateText (enforced audit security auditOff inFlight : Bool) (actor : String) : String :=
  "enforced=" ++ AuditEntry.flagText enforced ++ " audit=" ++ AuditEntry.flagText audit ++
    " security_bypassed=" ++ AuditEntry.flagText security ++
    " audit_bypassed=" ++ AuditEntry.flagText auditOff ++
    " in_flight=" ++ AuditEntry.flagText inFlight ++ " actor=" ++ actor

/-- What came of finding an entity. -/
def foundText : Except PolicyError (Option AuditEntry) → String
  | .ok none => "found"
  | .ok (some _) => "found and audited"
  | .error e => e.message

/-- What a message rule does. -/
def program (subject : Entity) (actor : Option Actor) : MessageRule → Program String
  | template action text => .done (Template.message action text subject actor)
  | literal text => .done text
  | panic text => .panic text
  | state =>
    .ask .isEnforcing fun enforced =>
    .ask .isAuditing fun audit =>
    .ask (.isSecurityBypassed subject.type) fun security =>
    .ask (.isAuditBypassed subject.type) fun auditOff =>
    .ask (.hasInFlight subject.type) fun inFlight =>
    .done (stateText enforced audit security auditOff inFlight (Actor.describe actor))
  | find policy found => .ask (.afterFind policy found) fun x => .done (foundText x)

end MessageRule

/-- The host whose predicates are conditions and whose messages are message rules. -/
def Host.ofPolicies (policy? : String → Option (Policy Condition MessageRule)) :
    Host Condition MessageRule where
  policy? := policy?
  judge c r := c.program r
  compose m subject actor := m.program subject actor

end LifecycleGuard
