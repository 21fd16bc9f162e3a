import LifecycleGuard.Declaration.Spec
import LifecycleGuard.Permission.Rule
import LifecycleGuard.Work.Noted

/-!
# Rule books

The rules of one entity type, in the order of registration.  A specification is registered as one
rule for each action, attribute and relation that it names, all with the same predicate.

The rules of a target are found by `rulesFor`.  Actions and associations ask all of them;
an attribute asks only the last, which is `attributeRule?`.

**Attribute security** begins with the first rule for an attribute, or when it is asked for, and
does not end.
-/

namespace LifecycleGuard

/-- The rules of one entity type. -/
structure RuleBook (π : Type) where
  schema : Option Schema
  rules : List (Rule π)
  /-- Whether attribute security was asked for. -/
  strict : Bool

namespace RuleBook

variable {π : Type}

/-- A book without rules. -/
def blank (schema : Option Schema) : RuleBook π := ⟨schema, [], false⟩

/-- The rules of a target, in the order of registration. -/
def rulesFor (b : RuleBook π) (t : RuleTarget) : List (Rule π) :=
  b.rules.filter fun r => r.target = t

/-- The rule that decides about an attribute. -/
def attributeRule? (b : RuleBook π) (name : String) : Option (Rule π) :=
  (b.rulesFor (.attr name)).getLast?

/-- The attribute that a rule is for. -/
def attributeOf? (r : Rule π) : Option String :=
  match r.target with
  | .attr name => some name
  | _ => none

/-- The attributes that have a rule. -/
def attributes (b : RuleBook π) : SortedSet String :=
  SortedSet.ofList (b.rules.filterMap attributeOf?)

/-- Whether changed attributes are checked. -/
def securesAttributes (b : RuleBook π) : Bool :=
  b.strict || b.rules.any fun r => (attributeOf? r).isSome

/-- The targets that a specification names. -/
def targets (s : RuleSpec) : List RuleTarget :=
  s.actions.toList.map .action ++ s.attributes.toList.map .attr
    ++ s.relationPairs.map fun p => .association p.1 p.2

/-- Add a rule for everything that a specification names. -/
def add (b : RuleBook π) (s : RuleSpec) (predicate : π) : RuleBook π :=
  { b with rules := b.rules ++ (targets s).map fun t => ⟨t, predicate⟩ }

/-- Register a grant. -/
def register (type : String) (s : RuleSpec) (predicate : π) (b : RuleBook π) :
    Noted DeclarationError (RuleBook π) :=
  if s.filter.isEmpty then
    ⟨[.registeredGrant type s.actions.size s.attributes.size], .ok (b.add s predicate)⟩
  else .ofExcept (.error .filteredGrant)

/-- Register a grant that may name nothing but attributes. -/
def registerAttributes (type : String) (s : RuleSpec) (predicate : π) (b : RuleBook π) :
    Noted DeclarationError (RuleBook π) :=
  if !s.actions.isEmpty || s.namesRelation then .ofExcept (.error .attributeGrantScope)
  else if s.attributes.isEmpty then .ofExcept (.error .attributeGrantEmpty)
  else b.register type s predicate

/-- Ask for attribute security. -/
def secure (b : RuleBook π) : RuleBook π := { b with strict := true }

/-- The attributes that are known: those of the schema, or those that have a rule. -/
def knownAttributes (b : RuleBook π) : List String :=
  match b.schema with
  | some s => (SortedSet.ofList s.attributes).toList
  | none => b.attributes.toList

end RuleBook

end LifecycleGuard
