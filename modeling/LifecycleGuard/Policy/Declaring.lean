import LifecycleGuard.Policy
import LifecycleGuard.Work.Revision

/-!
# Declaring in place

What a call declares in a policy is spread over its books.  The books are changed one entry after
the other, and a call can fail before the first of them and between any two:

* `RuleBook.registering` adds one rule for each action, attribute and relation that is named.
* `AuditBook.auditing` registers one declaration for each action that is named.  Every one of them
  is checked when its turn comes.

`Policy.Declaration` is a call on a policy, and `Declaration.make` makes it.
-/

namespace LifecycleGuard

variable {π μ : Type}

/-! ## Rules -/

namespace RuleBook

/-- Put a rule behind the others. -/
def push (predicate : π) (t : RuleTarget) : Revision DeclarationError (RuleBook π) Unit :=
  .modify fun b => { b with rules := b.rules ++ [⟨t, predicate⟩] }

/-- Register a grant. -/
def registering (type : String) (s : RuleSpec) (predicate : π) :
    Revision DeclarationError (RuleBook π) Unit :=
  if s.filter.isEmpty then do
    Revision.each (fun a => push predicate (.action a)) s.actions.toList
    Revision.each (fun name => push predicate (.attr name)) s.attributes.toList
    Revision.each (fun p => push predicate (.association p.1 p.2)) s.relationPairs
    Revision.note (.registeredGrant type s.actions.size s.attributes.size)
  else .ofExcept (.error .filteredGrant)

/-- Register a grant that may name nothing but attributes. -/
def registeringAttributes (type : String) (s : RuleSpec) (predicate : π) :
    Revision DeclarationError (RuleBook π) Unit :=
  if !s.actions.isEmpty || s.namesRelation then .ofExcept (.error .attributeGrantScope)
  else if s.attributes.isEmpty then .ofExcept (.error .attributeGrantEmpty)
  else registering type s predicate

end RuleBook

/-! ## Audit declarations -/

namespace AuditBook

/-- Declare what to capture for one action. -/
def registering (type : String) (d : AuditDeclaration μ) :
    Revision DeclarationError (AuditBook μ) Unit := do
  Revision.ofExcept d.filter.validate
  let b ← Revision.get
  Revision.modify fun b => ⟨b.declarations ++ [d]⟩
  if b.declares d.action then Revision.note (.replacedDeclaration type d.action)

/-- Declare every action that a specification names. -/
def auditing (type : String) (s : RuleSpec) (message : Option μ) :
    Revision DeclarationError (AuditBook μ) Unit :=
  if !s.attributes.isEmpty || s.namesRelation then .ofExcept (.error .auditScope)
  else if s.actions.isEmpty then .ofExcept (.error .auditEmpty)
  else Revision.each (fun a => registering type ⟨a, s.filter, message⟩) s.actions.toList

end AuditBook

/-! ## Policies -/

namespace Policy

/-- Work on the rules. -/
def onRules (r : Revision DeclarationError (RuleBook π) Unit) :
    Revision DeclarationError (Policy π μ) Unit :=
  .part rules (fun p b => { p with rules := b }) r

/-- Work on the audit declarations. -/
def onAudits (r : Revision DeclarationError (AuditBook μ) Unit) :
    Revision DeclarationError (Policy π μ) Unit :=
  .part audits (fun p b => { p with audits := b }) r

/-- A call that declares something in a policy. -/
inductive Declaration (π μ : Type) where
  /-- Grant the actions, attributes and relations that tokens name. -/
  | grant (tokens : List RuleToken) (predicate : π)
  /-- Grant changes of the attributes that tokens name. -/
  | grantAttributes (tokens : List RuleToken) (predicate : π)
  /-- Ask for attribute security. -/
  | secureAttributes
  /-- Audit the actions that tokens name. -/
  | auditOn (tokens : List RuleToken) (message : Option μ)
  /-- Register an audit declaration. -/
  | audit (d : AuditDeclaration μ)

/-- Read tokens with the schema of the policy, and go on with what they say. -/
def reading (tokens : List RuleToken)
    (f : String → RuleSpec → Revision DeclarationError (Policy π μ) Unit) :
    Revision DeclarationError (Policy π μ) Unit := do
  let p ← Revision.get
  let s ← Revision.ofExcept (RuleSpec.ofTokens p.rules.schema tokens)
  f p.entityType s

/-- Make a call. -/
def Declaration.make : Declaration π μ → Revision DeclarationError (Policy π μ) Unit
  | grant tokens predicate =>
    reading tokens fun type s => onRules (RuleBook.registering type s predicate)
  | grantAttributes tokens predicate =>
    reading tokens fun type s => onRules (RuleBook.registeringAttributes type s predicate)
  | secureAttributes => onRules (Revision.modify RuleBook.secure)
  | auditOn tokens message =>
    reading tokens fun type s => onAudits (AuditBook.auditing type s message)
  | audit d => do
    let p ← Revision.get
    onAudits (AuditBook.registering p.entityType d)

end Policy

end LifecycleGuard
