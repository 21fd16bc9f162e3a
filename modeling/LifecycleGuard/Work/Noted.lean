import LifecycleGuard.Work.Event

/-!
# Declaring with notes

Declarations are pure: they give a new value or an error.  `Noted` adds the events that are
reported on the way, which are kept even when a later step fails.
-/

namespace LifecycleGuard

/-- A result together with the events on the way to it. -/
structure Noted (ε α : Type) where
  events : List Event
  result : Except ε α

namespace Noted

variable {ε α β : Type}

/-- A result without events. -/
def pure (x : α) : Noted ε α := ⟨[], .ok x⟩

/-- Go on with the result, if there is one. -/
def bind (x : Noted ε α) (f : α → Noted ε β) : Noted ε β :=
  match x.result with
  | .ok a => ⟨x.events ++ (f a).events, (f a).result⟩
  | .error e => ⟨x.events, .error e⟩

instance : Monad (Noted ε) where
  pure := pure
  bind := bind

/-- A result that reports nothing. -/
def ofExcept (r : Except ε α) : Noted ε α := ⟨[], r⟩

/-- Report an event. -/
def note (e : Event) : Noted ε Unit := ⟨[e], .ok ()⟩

@[simp] theorem result_pure (x : α) : (Pure.pure x : Noted ε α).result = .ok x := rfl

@[simp] theorem result_ofExcept (r : Except ε α) : (ofExcept r).result = r := rfl

@[simp] theorem result_note (e : Event) : (note e : Noted ε Unit).result = .ok () := rfl

theorem bind_of_ok {x : Noted ε α} {before : List Event} {a : α} (h : x = ⟨before, .ok a⟩)
    (f : α → Noted ε β) : x >>= f = ⟨before ++ (f a).events, (f a).result⟩ := by
  show bind x f = _
  rw [bind, h]

theorem bind_of_error {x : Noted ε α} {before : List Event} {e : ε} (h : x = ⟨before, .error e⟩)
    (f : α → Noted ε β) : x >>= f = ⟨before, .error e⟩ := by
  show bind x f = _
  rw [bind, h]

/-- Two steps give a result if both do. -/
theorem bind_ok {x : Noted ε α} {f : α → Noted ε β} {b : β} :
    (x >>= f).result = .ok b ↔ ∃ a, x.result = .ok a ∧ (f a).result = .ok b := by
  show (Noted.bind x f).result = .ok b ↔ _
  unfold Noted.bind
  cases x.result with
  | ok a => simp
  | error e => simp

/-- Two steps fail with the error of the first that fails. -/
theorem bind_error {x : Noted ε α} {f : α → Noted ε β} {e : ε} :
    (x >>= f).result = .error e ↔
      x.result = .error e ∨ ∃ a, x.result = .ok a ∧ (f a).result = .error e := by
  show (Noted.bind x f).result = .error e ↔ _
  unfold Noted.bind
  cases x.result with
  | ok a => simp
  | error e => simp

/-- The same with the errors of another kind. -/
def mapError {ε' : Type} (f : ε → ε') (x : Noted ε α) : Noted ε' α :=
  ⟨x.events, x.result.mapError f⟩

end Noted

end LifecycleGuard
