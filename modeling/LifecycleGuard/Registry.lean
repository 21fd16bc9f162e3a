import LifecycleGuard.Declaration.Loading
import LifecycleGuard.Policy

/-!
# Registries

From declarations to policies.  A registry holds a document of declarations that was checked, and
the store that all of its policies share.

* **Opening.**  `ofDeclarations` opens the store that the document asks for and then checks the
  document, so a store that cannot be opened is reported before a declaration that is wrong, and
  a store stays open behind a document that is refused.  `withStore` checks the document only.
* **Building.**  `build` makes the policy of one entity type.  Predicates are found by their
  names.  A type that the document does not mention gets a policy without rules.
-/

namespace LifecycleGuard

/-- Why there is no registry. -/
inductive RegistryError where
  | load (error : LoadError)
  | audit (error : AuditError)
deriving DecidableEq

/-- Open the store that is asked for. -/
def Store.ofSettings (s : StorageSettings) (m : Media) : Except AuditError Store × Media :=
  match s.kind with
  | .console => (.ok .console, m)
  | .file => Store.openFile (s.path.getD StorageSettings.standardPath) m
  | .memory => let (s, m) := Store.newMemory m; (.ok s, m)
  | .null => (.ok .null, m)

/-- Declarations that were checked, and the store behind them. -/
structure Registry where
  declarations : Declarations
  store : Store

namespace Registry

/-! ## Opening -/

/-- Check declarations whose entries go to a store. -/
def withStore (d : Declarations) (s : Store) : Noted DeclarationError Registry := do
  Noted.ofExcept d.validate
  Noted.note (.loadedDeclarations d.entities.size d.audit.enabled)
  return ⟨d, s⟩

/-- Open the store that declarations ask for, and check them. -/
def ofDeclarations (d : Declarations) : Run (Except RegistryError Registry) := do
  match ← Run.onMedia (Store.ofSettings d.audit.storage) with
  | .error e => return .error (.audit e)
  | .ok s =>
    let r ← Run.noted (withStore d s)
    return r.mapError fun e => .load (.declaration e)

/-- The registry of a document, if it could be loaded. -/
def ofLoaded : Except LoadError Declarations → Run (Except RegistryError Registry)
  | .ok d => ofDeclarations d
  | .error e => pure (.error (.load e))

/-- The registry of a text. -/
def ofYaml (text : String) : Run (Except RegistryError Registry) :=
  ofLoaded (Declarations.ofYaml text)

/-- The registry of a file. -/
def ofFile (path : String) : Run (Except RegistryError Registry) := do
  let d ← Run.onMedia fun m => (Declarations.ofFile m.files path, m)
  ofLoaded d

/-- The entity types that are declared, in order. -/
def entityTypes (r : Registry) : List String := r.declarations.entities.keys

/-! ## Building -/

variable {π μ : Type}

/-- The predicate of a name. -/
def resolve (predicates : SortedMap String π) (type name : String) : Noted DeclarationError π :=
  match predicates.get? name with
  | some p => pure p
  | none => .ofExcept (.error (.unknownPredicate type name))

/-- Register grants, one after the other. -/
def registerGrants (predicates : SortedMap String π)
    (register : Policy π μ → List RuleToken → π → Noted DeclarationError (Policy π μ)) :
    List GrantDeclaration → Policy π μ → Noted DeclarationError (Policy π μ)
  | [], p => pure p
  | g :: rest, p => do
    let predicate ← resolve predicates p.entityType g.predicate
    registerGrants predicates register rest (← register p g.rule predicate)

/-- The declarations of an audit clause, one for each action that it names. -/
def clauseDeclarations (template : Action → String → μ) (c : AuditClause) :
    Except DeclarationError (List (AuditDeclaration μ)) := do
  let (actions, filter) ← c.parse
  return actions.map fun a => ⟨a, filter, c.template.map (template a)⟩

/-- Register audit clauses, one after the other. -/
def registerClauses (template : Action → String → μ) :
    List AuditClause → Policy π μ → Noted DeclarationError (Policy π μ)
  | [], p => pure p
  | c :: rest, p => do
    let ds ← Noted.ofExcept (clauseDeclarations template c)
    let audits ← p.audits.registerAll p.entityType ds
    registerClauses template rest { p with audits }

/-- Register everything that is declared for an entity type. -/
def apply (predicates : SortedMap String π) (template : Action → String → μ)
    (d : EntityDeclaration) (p : Policy π μ) : Noted DeclarationError (Policy π μ) := do
  let p ← registerGrants predicates Policy.grant d.grants p
  let p ← registerGrants predicates Policy.grantAttributes d.attributeGrants p
  let p := if d.attributeSecurity then p.secureAttributes else p
  let p ← registerClauses template d.audits p
  Noted.note (.builtPolicy p.entityType d.grants.length d.attributeGrants.length d.audits.length)
  return p

/-- Build the policy of an entity type from named predicates; `template` makes a message rule of a
template for an action. -/
def build (r : Registry) (type : String) (predicates : SortedMap String π)
    (template : Action → String → μ) : Noted DeclarationError (Policy π μ) := do
  let d? := r.declarations.entity? type
  let p : Policy π μ :=
    { Policy.blank type (d?.bind EntityDeclaration.schema) r.store with
      recording := r.declarations.audit.enabled }
  match d? with
  | none =>
    Noted.note (.undeclaredType type)
    return p
  | some d => apply predicates template d p

end Registry

end LifecycleGuard
