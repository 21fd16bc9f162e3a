import LifecycleGuard.Collections.SortedMap
import LifecycleGuard.Json.Value

/-!
# Denials

What a refused transition reports: the action, who wanted it on what, and for attributes and
associations what exactly was refused.  Denied attributes are listed in order and once each.
-/

namespace LifecycleGuard

/-- Why a transition is refused. -/
inductive Denial where
  | action (action actor subject : String)
  | attributes (action : String) (names : SortedSet String) (actor subject : String)
  | association (action relation associated actor subject : String)
deriving DecidableEq

namespace Denial

/-- The kind of denial. -/
def kind : Denial → String
  | action .. => "action"
  | attributes .. => "attributes"
  | association .. => "association"

/-- Who was refused what, with the refused thing in front. -/
def refusal (what actor subject : String) : String :=
  what ++ " not granted to " ++ actor ++ " for resource " ++ subject

/-- The denial in words. -/
def message : Denial → String
  | action a actor subject => refusal (a ++ " permission") actor subject
  | attributes _ names actor subject =>
    refusal (String.intercalate ", " names.toList ++ " permission") actor subject
  | association a relation associated actor subject =>
    refusal (a ++ " permission to " ++ relation ++ ":" ++ associated ++ " association") actor
      subject

/-- The written form; what does not apply to a kind is left out. -/
def toJson (d : Denial) : Json :=
  .object ([("kind", .string d.kind)]
    ++ (match d with
      | action a actor subject =>
        [("action", .string a), ("actor", .string actor), ("subject", .string subject)]
      | attributes a names actor subject =>
        [("action", .string a), ("actor", .string actor), ("subject", .string subject)]
        ++ (if names.isEmpty then [] else [("attributes", .array (names.toList.map .string))])
      | association a relation associated actor subject =>
        [("action", .string a), ("actor", .string actor), ("subject", .string subject),
          ("relation", .string relation), ("associated", .string associated)])
    ++ [("message", .string d.message)])

end Denial

end LifecycleGuard
