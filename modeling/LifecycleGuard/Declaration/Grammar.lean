import LifecycleGuard.Declaration.Spec
import LifecycleGuard.Declaration.Token

/-!
# From tokens to a specification

A declaration is a list of symbols, optionally closed by one mapping.

* A symbol is an action if it normalizes to the name of one, and otherwise an attribute, whose
  name keeps its case.
* The keys of the mapping are compared normalized.  `actions`, `attributes`, `only` and `except`
  are the words of the language; every other key must be an association action, and its names
  are relations.
* Under `attributes` the single name `all` stands for every attribute of the schema, which is
  none where there is no schema.

`RuleSpec.ofTokens` collects what the tokens declare and then checks the result as a whole:
something must be declared, the filter must be valid, and the schema, if there is one, must list
every attribute.
-/

namespace LifecycleGuard

namespace NameList

/-- The word for every attribute. -/
def allWord : String := "all"

/-- Whether these names ask for every attribute. -/
def isAll (n : NameList) : Bool :=
  match n.names with
  | [name] => Symbol.normalize name = allWord
  | _ => false

end NameList

namespace RuleSpec

/-- The symbols of a declaration, and the members of its closing mapping. -/
def split (tokens : List RuleToken) : List RuleToken × List (String × NameList) :=
  match tokens.getLast? with
  | some (.mapping members) => (tokens.dropLast, members.entries)
  | _ => (tokens, [])

/-- Add what one symbol declares. -/
def addSymbol (s : RuleSpec) (name : String) : RuleSpec :=
  match Action.parse? name with
  | some a => { s with actions := SortedSet.add s.actions a }
  | none => { s with attributes := SortedSet.add s.attributes (Symbol.bare name) }

/-- Add what one token before the closing mapping declares. -/
def addToken (s : RuleSpec) : RuleToken → Except DeclarationError RuleSpec
  | .symbol name => .ok (s.addSymbol name)
  | .mapping _ => .error .misplacedMapping

/-- Add one of the actions that are listed under a key. -/
def addAction (s : RuleSpec) (name : String) : Except DeclarationError RuleSpec :=
  match Action.parse? name with
  | some a => .ok { s with actions := SortedSet.add s.actions a }
  | none => .error (.unknownAction name)

/-- Names as the members of a set of names. -/
def bareNames (n : NameList) : List String := n.names.map Symbol.bare

/-- The attributes that a list under `attributes` declares. -/
def listedAttributes (schema : Option Schema) (n : NameList) : List String :=
  if n.isAll then (schema.map Schema.attributes).getD [] else bareNames n

/-- Add relations for an association action, which is present from then on. -/
def addRelations (s : RuleSpec) (a : AssociationAction) (names : List String) : RuleSpec :=
  { s with
    associations :=
      s.associations.insert a (SortedSet.addAll ((s.associations.get? a).getD .empty) names) }

/-- Add what one member of the closing mapping declares. -/
def addMember (schema : Option Schema) (s : RuleSpec) (m : String × NameList) :
    Except DeclarationError RuleSpec :=
  let key := Symbol.normalize m.1
  if key = "actions" then m.2.names.foldlM addAction s
  else if key = "attributes" then
    .ok { s with attributes := SortedSet.addAll s.attributes (listedAttributes schema m.2) }
  else if key = "only" then
    .ok { s with filter.only := SortedSet.addAll s.filter.only (bareNames m.2) }
  else if key = "except" then
    .ok { s with filter.except := SortedSet.addAll s.filter.except (bareNames m.2) }
  else
    match AssociationAction.parse? key with
    | some a => .ok (s.addRelations a (bareNames m.2))
    | none => .error (.unknownKey key)

/-- What the tokens declare, before it is checked as a whole. -/
def collect (schema : Option Schema) (tokens : List RuleToken) :
    Except DeclarationError RuleSpec := do
  let (symbols, members) := split tokens
  let s ← symbols.foldlM addToken empty
  members.foldlM (addMember schema) s

/-- The attributes that a schema does not list. -/
def unlisted (schema : Schema) (s : RuleSpec) : List String :=
  s.attributes.toList.filter fun a => !schema.has a

/-- Refuse attributes that the schema does not list. -/
def checkSchema (schema : Option Schema) (s : RuleSpec) : Except DeclarationError Unit :=
  match schema with
  | none => .ok ()
  | some schema =>
    match unlisted schema s with
    | [] => .ok ()
    | names => .error (.unknownAttributes names)

/-- Check a specification as a whole. -/
def check (schema : Option Schema) (s : RuleSpec) : Except DeclarationError Unit := do
  if s.isEmpty then .error .emptyRule
  s.filter.validate
  checkSchema schema s

/-- The specification that a list of tokens declares. -/
def ofTokens (schema : Option Schema) (tokens : List RuleToken) :
    Except DeclarationError RuleSpec := do
  let s ← collect schema tokens
  check schema s
  return s

end RuleSpec

end LifecycleGuard
