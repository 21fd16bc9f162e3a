import LifecycleGuard.Number.Double

/-!
# JSON values

A JSON number is a whole number of sixty-four bits, signed or unsigned, or a double; the two
kinds never mix, so `3` and `3.0` are different values.  An object is a list of members.  Values
that are *held* (attributes, changes) are `Canonical`: the members of every object are in
strictly ascending order of their names.  Values that are about to be *written* may list their
members in any order, which is how a record puts its fields in the order of its declaration.
-/

namespace LifecycleGuard

/-- A number: a whole number of sixty-four bits or a double. -/
inductive Number where
  | whole (value : Int) (fits : -9223372036854775808 ≤ value ∧ value < 18446744073709551616)
  | double (value : Double)
deriving DecidableEq

/-- A JSON value. -/
inductive Json where
  | null
  | bool (value : Bool)
  | number (value : Number)
  | string (value : String)
  | array (items : List Json)
  | object (members : List (String × Json))
deriving Inhabited

namespace Number

/-- Whether two numbers are of one kind and equal; as doubles, zero equals minus zero. -/
def same : Number → Number → Bool
  | .whole a _, .whole b _ => a = b
  | .double a, .double b => a.toFloat == b.toFloat
  | _, _ => false

end Number

namespace Json

/-- A whole number, when it fits into sixty-four bits. -/
def ofInt? (n : Int) : Option Json :=
  if h : -9223372036854775808 ≤ n ∧ n < 18446744073709551616 then some (.number (.whole n h))
  else none

/-- A signed whole number of sixty-four bits. -/
def ofInt64 (n : Int64) : Json :=
  .number (.whole n.toInt ⟨n.le_toInt, Int.lt_trans n.toInt_lt (by decide)⟩)

mutual

/-- Equality of values. -/
def beq : Json → Json → Bool
  | .null, .null => true
  | .bool a, .bool b => a = b
  | .number a, .number b => a = b
  | .string a, .string b => a = b
  | .array a, .array b => beqItems a b
  | .object a, .object b => beqMembers a b
  | _, _ => false

/-- Equality of lists of values. -/
def beqItems : List Json → List Json → Bool
  | [], [] => true
  | a :: as, b :: bs => beq a b && beqItems as bs
  | _, _ => false

/-- Equality of lists of members. -/
def beqMembers : List (String × Json) → List (String × Json) → Bool
  | [], [] => true
  | (k, a) :: as, (l, b) :: bs => decide (k = l) && beq a b && beqMembers as bs
  | _, _ => false

end

mutual

theorem beq_iff : ∀ a b : Json, beq a b = true ↔ a = b
  | .null, b => by cases b <;> simp [beq]
  | .bool _, b => by cases b <;> simp [beq]
  | .number _, b => by cases b <;> simp [beq]
  | .string _, b => by cases b <;> simp [beq]
  | .array a, b => by cases b <;> simp [beq, beqItems_iff a]
  | .object a, b => by cases b <;> simp [beq, beqMembers_iff a]

theorem beqItems_iff : ∀ a b : List Json, beqItems a b = true ↔ a = b
  | [], b => by cases b <;> simp [beqItems]
  | a :: as, b => by cases b <;> simp [beqItems, beq_iff a, beqItems_iff as]

theorem beqMembers_iff : ∀ a b : List (String × Json), beqMembers a b = true ↔ a = b
  | [], b => by cases b <;> simp [beqMembers]
  | (k, a) :: as, b => by
    rcases b with _ | ⟨⟨l, b⟩, bs⟩
    · simp [beqMembers]
    · simp [beqMembers, beq_iff a, beqMembers_iff as, and_assoc]

end

instance : DecidableEq Json := fun a b => decidable_of_iff _ (beq_iff a b)

mutual

/-- Whether two values agree, numbers by `Number.same`. -/
def same : Json → Json → Bool
  | .null, .null => true
  | .bool a, .bool b => a = b
  | .number a, .number b => a.same b
  | .string a, .string b => a = b
  | .array a, .array b => sameItems a b
  | .object a, .object b => sameMembers a b
  | _, _ => false

/-- Whether two lists of values agree. -/
def sameItems : List Json → List Json → Bool
  | [], [] => true
  | a :: as, b :: bs => same a b && sameItems as bs
  | _, _ => false

/-- Whether two lists of members agree. -/
def sameMembers : List (String × Json) → List (String × Json) → Bool
  | [], [] => true
  | (k, a) :: as, (l, b) :: bs => decide (k = l) && same a b && sameMembers as bs
  | _, _ => false

end

/-- The value of a member, if the value is an object that has it. -/
def member? (j : Json) (name : String) : Option Json :=
  match j with
  | .object members => (members.find? fun m => m.1 = name).map Prod.snd
  | _ => none

end Json

end LifecycleGuard
