import LifecycleGuard.Scenario.Outcome

/-!
# The things of a scenario

Everything that a scenario makes is an `Object` under a name, and a name that is used again names
the later thing.  A policy serves wherever one of its halves or its store will do.
-/

namespace LifecycleGuard.Scenario

/-- Something that a scenario has made. -/
inductive Object where
  | store (s : Store)
  | policy (p : ScriptedPolicy)
  | evaluator (e : Evaluator Condition)
  | recorder (r : Recorder MessageRule)
  | registry (r : Registry)

namespace Object

/-- The store that something owns. -/
def store? : Object → Option Store
  | store s => some s
  | policy p => some p.store
  | recorder r => some r.store
  | registry r => some r.store
  | _ => none

/-- The policy. -/
def policy? : Object → Option ScriptedPolicy
  | policy p => some p
  | _ => none

/-- The evaluator, which may be the checking half of a policy. -/
def evaluator? : Object → Option (Evaluator Condition)
  | evaluator e => some e
  | policy p => some p.evaluator
  | _ => none

/-- The recorder, which may be the recording half of a policy. -/
def recorder? : Object → Option (Recorder MessageRule)
  | recorder r => some r
  | policy p => some p.recorder
  | _ => none

/-- The registry. -/
def registry? : Object → Option Registry
  | registry r => some r
  | _ => none

/-- The same with another checking half. -/
def withBook (o : Object) (b : RuleBook Condition) : Object :=
  match o with
  | evaluator e => evaluator { e with book := b }
  | policy p => policy { p with rules := b }
  | o => o

/-- The same with another recording half. -/
def withAudits (o : Object) (b : AuditBook MessageRule) : Object :=
  match o with
  | recorder r => recorder { r with book := b }
  | policy p => policy { p with audits := b }
  | o => o

/-- The same with recording switched on or off. -/
def withRecording (o : Object) (enabled : Bool) : Object :=
  match o with
  | recorder r => recorder { r with enabled }
  | policy p => policy { p with recording := enabled }
  | o => o

/-- The schema that tokens of audit declarations are read with.  A recorder has none. -/
def auditSchema? : Object → Option Schema
  | policy p => p.rules.schema
  | _ => none

end Object

/-- The things of a scenario by name. -/
abbrev Objects : Type := SortedMap String Object

namespace Objects

/-- The thing of a name, if it can be seen as what is wanted. -/
def find? {α : Type} (os : Objects) (view : Object → Option α) (name : String) : Option α :=
  (os.get? name).bind view

/-- Work with the thing of a name. -/
def use {α : Type} (os : Objects) (view : Object → Option α) (name : String)
    (work : α → Run Outcome) : Run Outcome :=
  match os.find? view name with
  | some x => work x
  | none => pure (.unknownName name)

/-- How deeply host code and the library may call each other. -/
def depth : Nat := 200

/-- What predicates and message rules mean, where they call the policies of a scenario. -/
def oracle (os : Objects) : Oracle Condition MessageRule :=
  (Host.ofPolicies (os.find? Object.policy?)).oracle depth

end Objects

end LifecycleGuard.Scenario
