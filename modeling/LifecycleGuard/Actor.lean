import LifecycleGuard.Decoding.Source

/-!
# Actors

Who performs an operation: a kind of principal, an identity within that kind, roles, and
attributes for predicates to look at.  Messages and audit rows show an actor by its descriptor,
and show a missing actor as anonymous.
-/

namespace LifecycleGuard

/-- A user or a system principal. -/
structure Actor where
  kind : String
  id : String
  roles : List String
  attributes : Json
deriving DecidableEq

namespace Actor

/-- How a missing actor is shown. -/
def anonymous : String := "anonymous"

/-- The identity recorded for a missing actor. -/
def anonymousId : String := "0"

/-- Whether the actor has a role. -/
def hasRole (a : Actor) (role : String) : Bool := a.roles.contains role

/-- The value of an attribute. -/
def attribute? (a : Actor) (key : String) : Option Json := a.attributes.member? key

/-- The kind and the identity, with a colon between them. -/
def descriptor (a : Actor) : String := a.kind ++ ":" ++ a.id

/-- The descriptor of an actor that may be missing. -/
def describe : Option Actor → String
  | some a => a.descriptor
  | none => anonymous

/-! ## Written form -/

/-- The written form; empty roles and null attributes are left out. -/
def toJson (a : Actor) : Json :=
  .object ([("actor_type", .string a.kind), ("id", .string a.id)]
    ++ (if a.roles.isEmpty then [] else [("roles", .array (a.roles.map .string))])
    ++ (if a.attributes = .null then [] else [("attrs", a.attributes)]))

/-- An actor that is being read. -/
structure Draft where
  kind : Option String
  id : Option String
  roles : Option (List String)
  attributes : Option Json

/-- The names of the fields. -/
def fieldNames : List String := ["actor_type", "id", "roles", "attrs"]

variable {σ : Type} {m : Type → Type} [Monad m] [MonadExcept ReadError m] [Source σ m]

/-- Read one field into its place. -/
def Draft.step (d : Draft) (name : String) (s : σ) : m Draft := do
  match name with
  | "actor_type" => return { d with kind := ← Decoding.Slot.fill Source.text d.kind s }
  | "id" => return { d with id := ← Decoding.Slot.fill Source.text d.id s }
  | "roles" =>
    return { d with roles := ← Decoding.Slot.fill (Decoding.readList Source.text) d.roles s }
  | "attrs" => return { d with attributes := ← Decoding.Slot.fill Source.json d.attributes s }
  | _ => Source.skip s; return d

/-- Read an actor; roles and attributes may be missing. -/
def read (s : σ) : m Actor := do
  let d ← Decoding.readRecord fieldNames Draft.step ⟨none, none, none, none⟩ s
  return {
    kind := ← Decoding.Slot.required d.kind
    id := ← Decoding.Slot.required d.id
    roles := d.roles.getD []
    attributes := d.attributes.getD .null }

end Actor

end LifecycleGuard
