import LifecycleGuard.Audit.Recorder
import LifecycleGuard.Declaration.Grammar
import LifecycleGuard.Permission.Evaluator
import LifecycleGuard.Policy.Error

/-!
# Policies

The rules and audit declarations of one entity type, and what a host calls around each
transition:

| moment                        | call                | effect                                     |
|-------------------------------|---------------------|--------------------------------------------|
| before create, update         | `before`            | check action and attributes, begin capture |
| before destroy                | `before`            | check action, begin capture                |
| after create, update, destroy | `after`             | commit the capture                         |
| after a failed transition     | `abandon`           | drop the capture                           |
| after find                    | `afterFind`         | check action, record the find              |
| before a change of a relation | `beforeAssociation` | check association                          |

The meaning of predicates and message rules is given by an `Oracle`.
-/

namespace LifecycleGuard

/-- What predicates and message rules mean. -/
structure Oracle (π μ : Type) where
  judge : π → Request → Run Bool
  compose : μ → Entity → Option Actor → Run String

/-- The rules and audit declarations of one entity type. -/
structure Policy (π μ : Type) where
  entityType : String
  rules : RuleBook π
  audits : AuditBook μ
  store : Store
  /-- Whether anything is captured at all. -/
  recording : Bool

namespace Policy

variable {π μ : Type}

/-- A policy without rules, which denies everything. -/
def blank (type : String) (schema : Option Schema) (store : Store) : Policy π μ :=
  ⟨type, .blank schema, .blank, store, true⟩

/-- The checking half. -/
def evaluator (p : Policy π μ) : Evaluator π := ⟨p.entityType, p.rules⟩

/-- The recording half. -/
def recorder (p : Policy π μ) : Recorder μ := ⟨p.entityType, p.audits, p.store, p.recording⟩

/-! ## Declarations -/

/-- Grant the actions, attributes and relations that tokens name. -/
def grant (p : Policy π μ) (tokens : List RuleToken) (predicate : π) :
    Noted DeclarationError (Policy π μ) := do
  let s ← Noted.ofExcept (RuleSpec.ofTokens p.rules.schema tokens)
  let rules ← p.rules.register p.entityType s predicate
  return { p with rules }

/-- Grant changes of the attributes that tokens name. -/
def grantAttributes (p : Policy π μ) (tokens : List RuleToken) (predicate : π) :
    Noted DeclarationError (Policy π μ) := do
  let s ← Noted.ofExcept (RuleSpec.ofTokens p.rules.schema tokens)
  let rules ← p.rules.registerAttributes p.entityType s predicate
  return { p with rules }

/-- Ask for attribute security. -/
def secureAttributes (p : Policy π μ) : Policy π μ := { p with rules := p.rules.secure }

/-- Audit the actions that tokens name. -/
def auditOn (p : Policy π μ) (tokens : List RuleToken) (message : Option μ) :
    Noted DeclarationError (Policy π μ) := do
  let s ← Noted.ofExcept (RuleSpec.ofTokens p.rules.schema tokens)
  let audits ← p.audits.auditOn p.entityType s message
  return { p with audits }

/-- Register an audit declaration. -/
def audit (p : Policy π μ) (d : AuditDeclaration μ) : Noted DeclarationError (Policy π μ) := do
  let audits ← p.audits.register p.entityType d
  return { p with audits }

/-! ## Bypass -/

/-- The scope in which nothing of this type is checked. -/
def withoutSecurity (p : Policy π μ) : Scope := .securityOf p.entityType

/-- The scope in which nothing of this type is captured. -/
def withoutAudit (p : Policy π μ) : Scope := .auditOf p.entityType

/-! ## Extension points -/

variable (o : Oracle π μ)

/-- Whether the changed attributes are checked before an action. -/
def checksAttributes : Action → Bool
  | .create => true
  | .update => true
  | _ => false

/-- Before a mutation: check it, then begin its capture. -/
def before (p : Policy π μ) (a : Action) (subject : Entity) : Run (Except PolicyError Unit) := do
  match ← p.evaluator.checkAction o.judge a subject with
  | .error d => return .error (.denied d)
  | .ok () =>
    let checked ←
      if checksAttributes a then p.evaluator.checkAttributes o.judge a subject else pure (.ok ())
    match checked with
    | .error d => return .error (.denied d)
    | .ok () =>
      p.recorder.begin o.compose a subject
      return .ok ()

/-- After a mutation: commit its capture. -/
def after (p : Policy π μ) (a : Action) (subject : Entity) :
    Run (Except PolicyError (Option AuditEntry)) := do
  let r ← p.recorder.commit a subject
  return r.mapError .audit

/-- After a mutation that failed: drop its capture. -/
def abandon (p : Policy π μ) : Run Unit := p.recorder.abandon

/-- After a find: check it, then record it. -/
def afterFind (p : Policy π μ) (subject : Entity) :
    Run (Except PolicyError (Option AuditEntry)) := do
  match ← p.evaluator.checkAction o.judge .find subject with
  | .error d => return .error (.denied d)
  | .ok () =>
    let r ← p.recorder.record o.compose subject
    return r.mapError .audit

/-- Before a relation changes: check the change. -/
def beforeAssociation (p : Policy π μ) (a : AssociationAction) (relation : String)
    (subject associated : Entity) : Run (Except PolicyError Unit) := do
  let r ← p.evaluator.checkAssociation o.judge a relation subject associated
  return r.mapError .denied

end Policy

end LifecycleGuard
