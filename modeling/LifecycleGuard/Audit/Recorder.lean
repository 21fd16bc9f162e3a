import LifecycleGuard.Audit.Book
import LifecycleGuard.Work.Run

/-!
# Recording

A recorder captures mutations in two phases and finds in one.

* `begin` takes the changes that pass the filter and has the message composed, before the
  transition runs, and puts an unfinished entry into the context.
* `commit` takes that entry out, completes it with the identity that the entity has now, and
  persists it.  Whether auditing is off does not matter to it.
* `record` does both at once for a find.

An entry that was begun for another action is none of commit's business and stays where it is.
Messages are composed with enforcement off; what a message rule is to mean is the parameter
`compose`.
-/

namespace LifecycleGuard

/-- What is captured of an entity type, and where it goes. -/
structure Recorder (μ : Type) where
  entityType : String
  book : AuditBook μ
  store : Store
  enabled : Bool

namespace Recorder

variable {μ : Type}

/-- Whether nothing of an entity is captured. -/
def bypassed (r : Recorder μ) (subject : Entity) (c : Context) : Bool :=
  !r.enabled || c.isAuditBypassed r.entityType || c.isAuditBypassed subject.type

/-- The declaration that applies now to an action on an entity. -/
def activeDeclaration? (r : Recorder μ) (a : Action) (subject : Entity) :
    Run (Option (AuditDeclaration μ)) := do
  if r.bypassed subject (← Run.context) then
    Run.note (.auditBypassed a r.entityType)
    return none
  return r.book.declaration? a

/-- Persist an entry, if it is valid. -/
def persist (r : Recorder μ) (e : AuditEntry) : Run (Except AuditError AuditEntry) :=
  match e.missingField? with
  | some field => pure (.error (.invalid (AuditEntry.missingMessage field)))
  | none => do
    match ← Run.onMedia (r.store.save e) with
    | .error error => return .error error
    | .ok () =>
      Run.note (.persistedEntry e.action (e.subjectType ++ ":" ++ e.subjectId)
        (e.actorType ++ ":" ++ e.actorId))
      return .ok e

/-- Finish the capture of a transition and persist it.  Without an entry of this action in
flight there is nothing to finish. -/
def commit (r : Recorder μ) (a : Action) (subject : Entity) :
    Run (Except AuditError (Option AuditEntry)) := do
  match (← Run.context).inFlight.get? r.entityType with
  | none => return .ok none
  | some e =>
    if e.action ≠ a then
      Run.note (.otherActionInFlight a e.action r.entityType)
      return .ok none
    Run.modifyContext fun c => c.release r.entityType
    let now ← Run.now
    let saved ← r.persist (e.finished subject now)
    return some <$> saved

/-- Drop the capture of a transition that failed. -/
def abandon (r : Recorder μ) : Run Unit := Run.abandon r.entityType

variable (compose : μ → Entity → Option Actor → Run String)

/-- Have the message composed, with enforcement off. -/
def composed (message : Option μ) (subject : Entity) (actor : Option Actor) :
    Run (Option String) :=
  match message with
  | none => pure none
  | some m => do
    let text ← Run.within .enforcement (compose m subject actor)
    return some text

/-- Put the unfinished entry about a mutation in flight. -/
def park (r : Recorder μ) (d : AuditDeclaration μ) (a : Action) (subject : Entity)
    (actor : Option Actor) (message : Option String) : Run Unit := do
  let id ← Run.newId
  let now ← Run.now
  Run.note (.holdingEntry a r.entityType id)
  Run.hold r.entityType
    (AuditEntry.unfinished id now a subject actor (d.filter.apply subject.changes) message)

/-- Begin the capture of a mutation. -/
def begin (r : Recorder μ) (a : Action) (subject : Entity) : Run Unit := do
  if !a.isMutation then return ()
  match ← r.activeDeclaration? a subject with
  | none => return ()
  | some d =>
    let actor := (← Run.context).actor
    let message ← composed compose d.message subject actor
    r.park d a subject actor message

/-- Persist the entry about a find. -/
def conclude (r : Recorder μ) (subject : Entity) (actor : Option Actor) (message : Option String) :
    Run (Except AuditError (Option AuditEntry)) := do
  let id ← Run.newId
  let now ← Run.now
  let saved ← r.persist (AuditEntry.found id now subject actor message)
  return some <$> saved

/-- Capture a find. -/
def record (r : Recorder μ) (subject : Entity) : Run (Except AuditError (Option AuditEntry)) := do
  match ← r.activeDeclaration? .find subject with
  | none => return .ok none
  | some d =>
    let actor := (← Run.context).actor
    let message ← composed compose d.message subject actor
    r.conclude subject actor message

end Recorder

end LifecycleGuard
