import LifecycleGuard.Json.Value

/-!
# JSON schemas

The part of the schema language that rows are described in: what kind a value is of, how long a
text must be and which texts there are to choose from, and which members an object may and must
have.  A schema that is met says nothing about the order of members.

Formats of texts are left out.  They are annotations, which do not restrict what is valid.
-/

namespace LifecycleGuard

/-- Whether a number is an integer; a double without a fraction is one. -/
def Number.isIntegral : Number → Bool
  | .whole .. => true
  | .double d => d.toFloat.floor == d.toFloat

/-- A description of values. -/
inductive JsonSchema where
  | anything
  | flag
  | integer
  /-- A text of some length, which may have to be one of a list. -/
  | text (minLength : Nat) (choices : Option (List String))
  /-- An object.  Members that are not described by name are described by `others`, or there must be
  none. -/
  | object (properties : List (String × JsonSchema)) (required : List String)
      (others : Option JsonSchema) (minMembers : Nat)

namespace JsonSchema

mutual

/-- Whether a value meets a schema. -/
def accepts : JsonSchema → Json → Bool
  | anything, _ => true
  | flag, .bool _ => true
  | integer, .number n => n.isIntegral
  | text minLength choices, .string s =>
    minLength ≤ s.length && (choices.map fun names => names.contains s).getD true
  | object properties required others minMembers, .object members =>
    decide (members.map Prod.fst).Nodup
      && required.all (fun name => (members.map Prod.fst).contains name)
      && minMembers ≤ members.length
      && members.all fun m => acceptsMember properties m.1 m.2 (acceptsOther others m.2)
  | _, _ => false

/-- Whether the value of a member meets the description of its name.  Without one, `other` says
so. -/
def acceptsMember : List (String × JsonSchema) → String → Json → Bool → Bool
  | [], _, _, other => other
  | (described, s) :: rest, name, j, other =>
    if described = name then accepts s j else acceptsMember rest name j other

/-- Whether a value meets the description of members that are not described by name. -/
def acceptsOther : Option JsonSchema → Json → Bool
  | none, _ => false
  | some s, j => accepts s j

end

/-- A member is described by the first description of its name. -/
theorem acceptsMember_eq (name : String) (j : Json) (other : Bool) :
    ∀ properties : List (String × JsonSchema), acceptsMember properties name j other
      = ((properties.find? fun p => p.1 = name).map fun p => p.2.accepts j).getD other
  | [] => by simp [acceptsMember]
  | (described, s) :: rest => by
      rw [acceptsMember, acceptsMember_eq name j other rest]
      by_cases h : described = name <;> simp [h]

/-- What an object must have. -/
theorem accepts_object_iff {properties : List (String × JsonSchema)} {required : List String}
    {others : Option JsonSchema} {minMembers : Nat} {members : List (String × Json)} :
    (object properties required others minMembers).accepts (.object members) = true ↔
      (members.map Prod.fst).Nodup ∧ (∀ name ∈ required, name ∈ members.map Prod.fst) ∧
      minMembers ≤ members.length ∧
      ∀ m ∈ members, acceptsMember properties m.1 m.2 (acceptsOther others m.2) = true := by
  simp only [accepts, Bool.and_eq_true, decide_eq_true_eq, List.all_eq_true,
    List.contains_iff_mem, and_assoc]

end JsonSchema

end LifecycleGuard
