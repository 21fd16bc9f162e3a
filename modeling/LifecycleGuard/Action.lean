import LifecycleGuard.Symbol

/-!
# Actions

The four lifecycle actions that rules govern, and the two ways to change a relation.  Each has a
name under which it is written, and is read from any spelling of that name; `read` and `delete`
are accepted for `find` and `destroy`.

Actions are ordered as they are declared, which is not the order of their names.
-/

namespace LifecycleGuard

/-- A lifecycle action. -/
inductive Action where
  | create
  | find
  | update
  | destroy
deriving DecidableEq, Repr, Ord, Inhabited

namespace Action

instance : Std.TransOrd Action where
  eq_swap := by intro a b; cases a <;> cases b <;> rfl
  isLE_trans := by intro a b c; cases a <;> cases b <;> cases c <;> decide

instance : Std.LawfulEqOrd Action where
  compare_self := by intro a; cases a <;> rfl
  eq_of_compare := by intro a b; cases a <;> cases b <;> decide

/-- All actions in their order. -/
def all : List Action := [.create, .find, .update, .destroy]

/-- The name of an action. -/
def name : Action → String
  | .create => "create"
  | .find => "find"
  | .update => "update"
  | .destroy => "destroy"

/-- The name in capitals, as log lines show it. -/
def capitals : Action → String
  | .create => "CREATE"
  | .find => "FIND"
  | .update => "UPDATE"
  | .destroy => "DESTROY"

/-- Whether the action changes the entity, and so is captured in two phases. -/
def isMutation : Action → Bool
  | .find => false
  | _ => true

/-- The action with exactly this name. -/
def ofName? (s : String) : Option Action := all.find? fun a => a.name = s

/-- The action that a normalized word stands for. -/
def ofWord? : String → Option Action
  | "create" => some .create
  | "find" => some .find
  | "read" => some .find
  | "update" => some .update
  | "destroy" => some .destroy
  | "delete" => some .destroy
  | _ => none

/-- The action that a token names. -/
def parse? (token : String) : Option Action := ofWord? (Symbol.normalize token)

/-- What is said about a token that names no action. -/
def unknownMessage (token : String) : String :=
  Symbol.normalize token ++
    " is not a valid action; valid actions are create, find, update, destroy"

end Action

/-- A way to change which entities a relation holds. -/
inductive AssociationAction where
  | add
  | remove
deriving DecidableEq, Repr, Ord, Inhabited

namespace AssociationAction

instance : Std.TransOrd AssociationAction where
  eq_swap := by intro a b; cases a <;> cases b <;> rfl
  isLE_trans := by intro a b c; cases a <;> cases b <;> cases c <;> decide

instance : Std.LawfulEqOrd AssociationAction where
  compare_self := by intro a; cases a <;> rfl
  eq_of_compare := by intro a b; cases a <;> cases b <;> decide

/-- Both ways, in their order. -/
def all : List AssociationAction := [.add, .remove]

/-- The name of an association action. -/
def name : AssociationAction → String
  | .add => "add"
  | .remove => "remove"

/-- The association action with exactly this name. -/
def ofName? (s : String) : Option AssociationAction := all.find? fun a => a.name = s

/-- The association action that a token names. -/
def parse? (token : String) : Option AssociationAction := ofName? (Symbol.normalize token)

/-- What is said about a token that names no association action. -/
def unknownMessage (token : String) : String :=
  Symbol.normalize token ++ " is not a valid association action; " ++
    "add and remove are the only valid association specifications"

end AssociationAction

end LifecycleGuard
