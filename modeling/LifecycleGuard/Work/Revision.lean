import LifecycleGuard.Work.Noted

/-!
# Revising in place

A call that declares something changes a thing that is there already, piece by piece.  A `Revision`
takes the thing as it is and gives back what has become of it, **also when it fails**; a failure
ends the call and does not undo anything.  So it does not follow from what a revision is that one
which fails leaves the thing as it was.
-/

namespace LifecycleGuard

/-- A call that changes something in place. -/
def Revision (ε σ α : Type) : Type := σ → Noted ε α × σ

namespace Revision

variable {ε σ τ α β : Type}

/-- Change nothing and give a result. -/
def pure (x : α) : Revision ε σ α := fun s => (Pure.pure x, s)

/-- Go on with the result, if there is one. -/
def bind (r : Revision ε σ α) (f : α → Revision ε σ β) : Revision ε σ β := fun s =>
  match r s with
  | (⟨before, .ok x⟩, s) => let (y, s) := f x s; (⟨before ++ y.events, y.result⟩, s)
  | (⟨before, .error e⟩, s) => (⟨before, .error e⟩, s)

instance : Monad (Revision ε σ) where
  pure := pure
  bind := bind

/-- The thing as it is. -/
def get : Revision ε σ σ := fun s => (Pure.pure s, s)

/-- Change the thing. -/
def modify (f : σ → σ) : Revision ε σ Unit := fun s => (Pure.pure (), f s)

/-- A result that changes nothing. -/
def ofExcept (x : Except ε α) : Revision ε σ α := fun s => (.ofExcept x, s)

/-- Report an event. -/
def note (e : Event) : Revision ε σ Unit := fun s => (.note e, s)

/-- Go through a list, up to the first failure. -/
def each (f : α → Revision ε σ Unit) : List α → Revision ε σ Unit
  | [] => pure ()
  | x :: rest => do
    f x
    each f rest

/-- Work on a part of the thing. -/
def part (view : σ → τ) (put : σ → τ → σ) (r : Revision ε τ α) : Revision ε σ α := fun s =>
  let (x, t) := r (view s)
  (x, put s t)

variable (f : α → Revision ε σ β)

theorem bind_of_ok {r : Revision ε σ α} {s s' : σ} {before : List Event} {x : α}
    (h : r s = (⟨before, .ok x⟩, s')) :
    (r >>= f) s = (⟨before ++ (f x s').1.events, (f x s').1.result⟩, (f x s').2) := by
  show bind r f s = _
  rw [bind, h]

theorem bind_of_error {r : Revision ε σ α} {s s' : σ} {before : List Event} {e : ε}
    (h : r s = (⟨before, .error e⟩, s')) : (r >>= f) s = (⟨before, .error e⟩, s') := by
  show bind r f s = _
  rw [bind, h]

theorem ofExcept_ok_bind (x : α) : ofExcept (.ok x) >>= f = f x := rfl

theorem get_bind (f : σ → Revision ε σ β) (s : σ) : (get >>= f) s = f s s := rfl

theorem modify_bind (g : σ → σ) (f : Unit → Revision ε σ β) (s : σ) :
    (modify g >>= f) s = f () (g s) := rfl

end Revision

end LifecycleGuard
