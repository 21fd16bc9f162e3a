import LifecycleGuard.Policy.Declaring
import LifecycleGuard.Scenario.Object

/-!
# Declaring in a scenario

Making stores, policies, their halves and registries, and declaring in them.  What cannot be made
gets no name; what is declared in is kept as the call has left it, be it that it failed.
-/

namespace LifecycleGuard.Scenario

/-- An outcome and the things behind it. -/
abbrev Declared : Type := Outcome × Objects

/-- Give a name to what was made, or report why it was not. -/
def Objects.store {ε : Type} (os : Objects) (name : String) (failure : ε → Failure) :
    Except ε Object → Declared
  | .ok o => (.done, os.insert name o)
  | .error e => (.failed (failure e), os)

/-- Make a call on the thing of a name, as far as it can be seen as what is wanted.  The thing is
kept as the call has left it. -/
def Objects.revise {α β : Type} (os : Objects) (view : Object → Option α) (name : String)
    (call : Object → α → Noted DeclarationError Unit × β) (put : Object → β → Object) :
    Run Declared :=
  match os.get? name with
  | none => pure (.unknownName name, os)
  | some o =>
    match view o with
    | none => pure (.unknownName name, os)
    | some x => do
      let (answer, y) := call o x
      let r ← Run.noted answer
      return (.ofUnit .declaration r, os.insert name (put o y))

/-- Make a store. -/
def StoreChoice.make : StoreChoice → Media → Except AuditError Store × Media
  | memory, m => let (s, m) := Store.newMemory m; (.ok s, m)
  | null, m => (.ok .null, m)
  | console, m => (.ok .console, m)
  | file path, m => Store.openFile path m
  | chosen s, m => Store.ofSettings s m
  | limited capacity refusal text, m =>
    let (s, m) := Store.newLimited capacity refusal text m; (.ok s, m)

/-- The specification of a rule, its tokens being read with a schema. -/
def RuleText.parse (schema : Option Schema) : RuleText → Except DeclarationError RuleSpec
  | spec s => .ok s
  | tokens ts => RuleSpec.ofTokens schema ts

/-- The store of a recorder, and whether it records at all. -/
def RecorderStore.open (os : Objects) :
    RecorderStore → Run (Option (Except AuditError (Store × Bool)))
  | named owner => pure ((os.find? Object.store? owner).map fun s => .ok (s, true))
  | chosen a => do
    let s ← Run.onMedia (Store.ofSettings a.storage)
    return some (s.map fun s => (s, a.enabled))

/-- The declarations of a registry. -/
def RegistrySource.load : RegistrySource → Run (Except LoadError Declarations)
  | yaml text => pure (Declarations.ofYaml text)
  | file path => Run.onMedia fun m => (Declarations.ofFile m.files path, m)
  | given d => pure (.ok d)

/-- Make or declare something. -/
def DeclareOp.perform (os : Objects) : DeclareOp → Run Declared
  | store name choice => do
    let s ← Run.onMedia choice.make
    return os.store name .audit (s.map .store)
  | policy name type schema none => do
    let s ← Run.onMedia Store.newMemory
    return (.done, os.insert name (.policy (Policy.blank type schema s)))
  | policy name type schema (some owner) =>
    match os.find? Object.store? owner with
    | none => pure (.unknownName owner, os)
    | some s => pure (.done, os.insert name (.policy (Policy.blank type schema s)))
  | evaluator name type schema =>
    pure (.done, os.insert name (.evaluator ⟨type, .blank schema⟩))
  | recorder name type place => do
    match ← place.open os with
    | none => return (.unknownName name, os)
    | some r =>
      return os.store name .audit (r.map fun x => .recorder ⟨type, .blank, x.1, x.2⟩)
  | grant owner tokens predicate =>
    os.revise Object.policy? owner (fun _ => (Policy.Declaration.grant tokens predicate).make)
      fun _ => .policy
  | grantAttributes owner tokens predicate =>
    os.revise Object.policy? owner
      (fun _ => (Policy.Declaration.grantAttributes tokens predicate).make) fun _ => .policy
  | register owner rule predicate =>
    os.revise Object.evaluator? owner (fun _ e => (do
      let s ← Revision.ofExcept (rule.parse e.book.schema)
      RuleBook.registering e.entityType s predicate : Revision _ _ Unit) e.book) Object.withBook
  | registerAttributes owner rule predicate =>
    os.revise Object.evaluator? owner (fun _ e => (do
      let s ← Revision.ofExcept (rule.parse e.book.schema)
      RuleBook.registeringAttributes e.entityType s predicate : Revision _ _ Unit) e.book)
      Object.withBook
  | secureAttributes owner =>
    os.revise Object.evaluator? owner (fun _ e => Revision.modify RuleBook.secure e.book)
      Object.withBook
  | auditOn owner rule message =>
    os.revise Object.recorder? owner (fun o r => (do
      let s ← Revision.ofExcept (rule.parse o.auditSchema?)
      AuditBook.auditing r.entityType s message : Revision _ _ Unit) r.book) Object.withAudits
  | audit owner d =>
    os.revise Object.recorder? owner (fun _ r => AuditBook.registering r.entityType d r.book)
      Object.withAudits
  | setRecording owner enabled =>
    os.revise Object.recorder? owner (fun _ r => Revision.modify (fun _ => enabled) r.enabled)
      Object.withRecording
  | registry name source => do
    let r ← Registry.ofLoaded (← source.load)
    return os.store name Failure.ofRegistry (r.map .registry)
  | registryOn name source owner =>
    match os.find? Object.store? owner with
    | none => pure (.unknownName owner, os)
    | some s => do
      match ← source.load with
      | .error e => return (.failed (.load e), os)
      | .ok d =>
        let r ← Run.noted (Registry.withStore d s)
        return os.store name .declaration (r.map .registry)
  | build owner name type predicates =>
    match os.find? Object.registry? owner with
    | none => pure (.unknownName owner, os)
    | some r => do
      let p ← Run.noted (r.build type predicates MessageRule.template)
      return os.store name .declaration (p.map .policy)

end LifecycleGuard.Scenario
