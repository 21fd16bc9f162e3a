import LifecycleGuard.Collections.SortedMap
import LifecycleGuard.Decoding.Source

/-!
# Entities

The kernel does not own the entities it governs.  It sees of each what an `Entity` holds: the
type, the identity once there is one, a version if the entity has one, the changes since it was
loaded, and the attributes it exposes.  A `Schema` is the list of attribute names that an entity
type is known to have.
-/

namespace LifecycleGuard

/-- The old and the new value of an attribute. -/
structure AttributeChange where
  old : Json
  new : Json
deriving DecidableEq

/-- Pending changes by attribute name. -/
abbrev ChangeSet := SortedMap String AttributeChange

/-- What the kernel sees of an entity. -/
structure Entity where
  type : String
  id : Option String
  version : Option Int64
  changes : ChangeSet
  attributes : SortedMap String Json
deriving DecidableEq

namespace Entity

/-- An entity of which only the type and the identity are known. -/
def plain (type : String) (id : Option String) : Entity := ⟨type, id, none, .empty, .empty⟩

/-- How an entity without identity is shown. -/
def unsaved : String := "new"

/-- The identity as shown. -/
def shownId (e : Entity) : String := e.id.getD unsaved

/-- The type and the identity, with a colon between them. -/
def describe (e : Entity) : String := e.type ++ ":" ++ e.shownId

/-- The value of an attribute, if the entity exposes it. -/
def attribute? (e : Entity) (name : String) : Option Json := e.attributes.get? name

end Entity

/-- The attribute names of an entity type. -/
structure Schema where
  attributes : List String
deriving DecidableEq

namespace Schema

/-- Whether the schema lists a name. -/
def has (s : Schema) (name : String) : Bool := s.attributes.contains name

/-- The written form. -/
def toJson (s : Schema) : Json := .object [("attributes", .array (s.attributes.map .string))]

variable {σ : Type} {m : Type → Type} [Monad m] [MonadExcept ReadError m] [Source σ m]

/-- Read the only field into its place. -/
def step (d : Option (List String)) (name : String) (s : σ) :
    m (Option (List String)) := do
  match name with
  | "attributes" => Decoding.Slot.fill (Decoding.readList Source.text) d s
  | _ => Source.skip s; return d

/-- Read a schema. -/
def read (s : σ) : m Schema := do
  let d ← Decoding.readRecord ["attributes"] step none s
  return ⟨← Decoding.Slot.required d⟩

end Schema

namespace AttributeChange

/-- The written form. -/
def toJson (c : AttributeChange) : Json := .object [("old", c.old), ("new", c.new)]

variable {σ : Type} {m : Type → Type} [Monad m] [MonadExcept ReadError m] [Source σ m]

/-- Read one field into its place. -/
def step (d : Option Json × Option Json) (name : String) (s : σ) :
    m (Option Json × Option Json) := do
  match name with
  | "old" => return (← Decoding.Slot.fill Source.json d.1 s, d.2)
  | "new" => return (d.1, ← Decoding.Slot.fill Source.json d.2 s)
  | _ => Source.skip s; return d

/-- Read a change; both values must be there, even when they are null. -/
def read (s : σ) : m AttributeChange := do
  let d ← Decoding.readRecord ["old", "new"] step (none, none) s
  return ⟨← Decoding.Slot.required d.1, ← Decoding.Slot.required d.2⟩

end AttributeChange

namespace ChangeSet

/-- The written form, in the order of the names. -/
def toJson (c : ChangeSet) : Json := .object (c.entries.map fun e => (e.1, e.2.toJson))

/-- Read a change-set; of two changes of one attribute the later counts. -/
def read {σ : Type} {m : Type → Type} [Monad m] [MonadExcept ReadError m]
    [Source σ m] (s : σ) : m ChangeSet :=
  SortedMap.ofList <$> Decoding.readMembers AttributeChange.read s

end ChangeSet

end LifecycleGuard
