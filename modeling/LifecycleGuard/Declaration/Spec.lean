import LifecycleGuard.Declaration.Filter

/-!
# Rule specifications

What a rule declaration amounts to once it is normalized: a set of actions, a set of attributes,
for each association action the relations it is declared for, and a change filter.  An
association action is present as soon as it was named, even without a relation.
-/

namespace LifecycleGuard

/-- A normalized rule declaration. -/
structure RuleSpec where
  actions : SortedSet Action
  attributes : SortedSet String
  associations : SortedMap AssociationAction (SortedSet String)
  filter : ChangeFilter
deriving DecidableEq

namespace RuleSpec

/-- The specification that declares nothing. -/
def empty : RuleSpec := ⟨.empty, .empty, .empty, .all⟩

/-- Whether some relation is named. -/
def namesRelation (s : RuleSpec) : Bool := s.associations.values.any fun r => !r.isEmpty

/-- Whether no action, attribute or relation is named. -/
def isEmpty (s : RuleSpec) : Bool :=
  s.actions.isEmpty && s.attributes.isEmpty && !s.namesRelation

/-- The relations named for an association action, in order. -/
def relations (s : RuleSpec) (a : AssociationAction) : List String :=
  match s.associations.get? a with
  | some r => r.toList
  | none => []

/-- Every pair of an association action and a relation, in order. -/
def relationPairs (s : RuleSpec) : List (AssociationAction × String) :=
  s.associations.entries.flatMap fun e => e.2.toList.map fun r => (e.1, r)

/-- The written form. -/
def toJson (s : RuleSpec) : Json :=
  .object [
    ("actions", .array (s.actions.toList.map fun a => .string a.name)),
    ("attributes", ChangeFilter.namesJson s.attributes),
    ("associations", .object (s.associations.entries.map fun e =>
      (e.1.name, ChangeFilter.namesJson e.2))),
    ("options", s.filter.toJson)]

/-- A specification that is being read. -/
structure Draft where
  actions : Option (SortedSet Action)
  attributes : Option (SortedSet String)
  associations : Option (SortedMap AssociationAction (SortedSet String))
  filter : Option ChangeFilter

/-- The names of the fields. -/
def fieldNames : List String := ["actions", "attributes", "associations", "options"]

variable {σ : Type} {m : Type → Type} [Monad m] [MonadExcept ReadError m] [Source σ m]

/-- Read a set of actions. -/
def readActions (s : σ) : m (SortedSet Action) :=
  SortedSet.ofList <$> Decoding.readList (Decoding.readChoice Action.ofName?) s

/-- Read the relations of each association action. -/
def readAssociations (s : σ) :
    m (SortedMap AssociationAction (SortedSet String)) :=
  SortedMap.ofList <$>
    Decoding.readEntries (Decoding.readChoice AssociationAction.ofName?) ChangeFilter.readNames s

/-- Read one field into its place. -/
def Draft.step (d : Draft) (name : String) (s : σ) : m Draft := do
  match name with
  | "actions" => return { d with actions := ← Decoding.Slot.fill readActions d.actions s }
  | "attributes" =>
    return { d with attributes := ← Decoding.Slot.fill ChangeFilter.readNames d.attributes s }
  | "associations" =>
    return { d with associations := ← Decoding.Slot.fill readAssociations d.associations s }
  | "options" => return { d with filter := ← Decoding.Slot.fill ChangeFilter.read d.filter s }
  | _ => Source.skip s; return d

/-- Read a specification; every field must be there. -/
def read (s : σ) : m RuleSpec := do
  let d ← Decoding.readRecord fieldNames Draft.step ⟨none, none, none, none⟩ s
  return {
    actions := ← Decoding.Slot.required d.actions
    attributes := ← Decoding.Slot.required d.attributes
    associations := ← Decoding.Slot.required d.associations
    filter := ← Decoding.Slot.required d.filter }

end RuleSpec

end LifecycleGuard
