import LifecycleGuard.Audit.Store
import LifecycleGuard.Context.Scope

/-!
# What work can see and change

A `World` is everything that host code can look at or change through the library: the contexts
of all units of work, and the media behind the stores.  One of the contexts is the one that is
worked on; the others belong to other units of work, which share the media.
-/

namespace LifecycleGuard

/-- Everything that host code can look at or change through the library. -/
structure World where
  /-- The contexts by name; one that is not listed is fresh. -/
  contexts : SortedMap String Context
  /-- The name of the context that is worked on. -/
  current : String
  media : Media
deriving DecidableEq

namespace World

/-- The context of a name. -/
def contextOf (w : World) (name : String) : Context := (w.contexts.get? name).getD .fresh

/-- The context that is worked on. -/
def context (w : World) : Context := w.contextOf w.current

/-- The world with another context under a name. -/
def put (w : World) (name : String) (c : Context) : World :=
  { w with contexts := w.contexts.insert name c }

@[simp] theorem contextOf_put (w : World) (name : String) (c : Context) (other : String) :
    (w.put name c).contextOf other = if other = name then c else w.contextOf other := by
  unfold contextOf put
  rw [SortedMap.get?_insert]
  split <;> rfl

end World

end LifecycleGuard
