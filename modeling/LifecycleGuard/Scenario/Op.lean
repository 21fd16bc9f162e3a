import LifecycleGuard.Host.Condition
import LifecycleGuard.Registry

/-!
# Operations of a scenario

A scenario is a list of operations on named things: contexts, stores, policies, registries and
what else the library has.  An operation says which names it works on and with what data.

The operations are grouped by what they need.

* `ContextOp`: the current context.
* `StoreOp` and `FileOp`: the media.
* `DeclareOp`: makes a new thing, or changes what is declared in one.
* `AskOp`: looks at a policy or asks it, and changes nothing that a later operation could see.
* `TransitionOp`: the calls around a transition.

`Op` adds scopes, which run operations of their own, and the failure that ends a scope.
-/

namespace LifecycleGuard.Scenario

/-- A policy of a scenario. -/
abbrev ScriptedPolicy : Type := Policy Condition MessageRule

/-- An operation on the current context. -/
inductive ContextOp where
  /-- Only look at the context. -/
  | look
  | actor
  | setActor (a : Option Actor)
  | reset
  | hold (type : String) (e : AuditEntry)
  | take (type : String)
  /-- Take the entry in flight and put it back. -/
  | peek (type : String)
  /-- Change the time of the entry in flight. -/
  | backdate (type : String) (created : Instant)
  | abandon (type : String)

/-- An operation on a scope that outlives its operation. -/
inductive GuardOp where
  | acquire (name : String) (s : Scope)
  | release (name : String)
  /-- Forget the scope, so that it is never left. -/
  | forget (name : String)

/-- The store that is to be made. -/
inductive StoreChoice where
  | memory
  | null
  | console
  | file (path : String)
  | chosen (s : StorageSettings)
  | limited (capacity : Nat) (refusal : AuditError) (text : String)

/-- The entry that is meant: one with an identifier, or the one whose identifier was the nth to be
shown. -/
inductive EntryRef where
  | id (u : Uuid)
  | shown (n : Nat)

/-- An operation on an existing store. -/
inductive StoreOp where
  | save (owner : String) (e : AuditEntry)
  | query (owner : String) (f : AuditFilter)
  | get (owner : String) (e : EntryRef)
  /-- Everything in a memory store. -/
  | entries (owner : String)

/-- An operation on files. -/
inductive FileOp where
  | read (path : String)
  | append (path : String) (bytes : List UInt8)
  | remove (path : String)
  | makeDirectory (path : String)

/-- A rule in either form. -/
inductive RuleText where
  | spec (s : RuleSpec)
  | tokens (ts : List RuleToken)

/-- Where a recorder persists entries: to a store that exists, or as settings say. -/
inductive RecorderStore where
  | named (owner : String)
  | chosen (s : AuditSettings)

/-- Where a registry comes from. -/
inductive RegistrySource where
  | yaml (text : String)
  | file (path : String)
  | given (d : Declarations)

/-- An operation that makes or declares something. -/
inductive DeclareOp where
  | store (name : String) (choice : StoreChoice)
  | policy (name type : String) (schema : Option Schema) (store : Option String)
  | evaluator (name type : String) (schema : Option Schema)
  | recorder (name type : String) (store : RecorderStore)
  | grant (owner : String) (tokens : List RuleToken) (predicate : Condition)
  | grantAttributes (owner : String) (tokens : List RuleToken) (predicate : Condition)
  | register (owner : String) (rule : RuleText) (predicate : Condition)
  | registerAttributes (owner : String) (rule : RuleText) (predicate : Condition)
  | secureAttributes (owner : String)
  | auditOn (owner : String) (rule : RuleText) (message : Option MessageRule)
  | audit (owner : String) (d : AuditDeclaration MessageRule)
  | setRecording (owner : String) (enabled : Bool)
  | registry (name : String) (source : RegistrySource)
  /-- A registry with a store that exists already. -/
  | registryOn (name : String) (source : RegistrySource) (store : String)
  | build (registry name type : String) (predicates : SortedMap String Condition)

/-- A question. -/
inductive AskOp where
  | registry (owner : String)
  | rules (owner : String)
  | declarations (owner : String)
  | policyType (owner : String)
  | isGranted (owner : String) (a : Action) (subject : Entity)
  | isAttributeGranted (owner name : String) (subject : Entity)
  | granted (owner : String) (subject : Entity) (actions : List Action)
      (attributes : List String) (wanted : Bool)
  | checkAction (owner : String) (a : Action) (subject : Entity)
  | checkAttributes (owner : String) (a : Action) (subject : Entity)
  | checkAssociation (owner : String) (a : AssociationAction) (relation : String)
      (subject associated : Entity)

/-- A call around a transition. -/
inductive TransitionOp where
  | begin (owner : String) (a : Action) (subject : Entity)
  | commit (owner : String) (a : Action) (subject : Entity)
  | record (owner : String) (subject : Entity)
  | abandon (owner : String)
  | before (owner : String) (a : Action) (subject : Entity)
  | after (owner : String) (a : Action) (subject : Entity)
  | afterFind (owner : String) (subject : Entity)
  | beforeAssociation (owner : String) (a : AssociationAction) (relation : String)
      (subject associated : Entity)

/-- The scope in which operations are to run. -/
inductive ScopeChoice where
  | plain (s : Scope)
  /-- The scope in which a policy checks nothing. -/
  | withoutSecurity (policy : String)
  /-- The scope in which a policy captures nothing. -/
  | withoutAudit (policy : String)

/-- An operation of a scenario.  Each operation of a body has the name of its context with it. -/
inductive Op where
  | context (op : ContextOp)
  | guard (op : GuardOp)
  | store (op : StoreOp)
  | file (op : FileOp)
  | declare (op : DeclareOp)
  | ask (op : AskOp)
  | transition (op : TransitionOp)
  | within (s : ScopeChoice) (body : List (String × Op))
  /-- Work that fails; what follows in the same body is not done. -/
  | fail (text : String)

end LifecycleGuard.Scenario
