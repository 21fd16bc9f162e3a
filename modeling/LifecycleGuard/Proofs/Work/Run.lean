import LifecycleGuard.Work.Run

/-!
# What a run does to its work

Equations for the pieces that runs are put together from, so that nothing else unfolds them.

* **Contexts.**  `put`, `change`, `entering` and `leaving` replace one context of the work; the
  lemmas say which one, and that all others stay.
* **Order.**  `bind_of_ok` and `bind_of_error` take a run apart after its first step.
* **Ends.**  `SameEnd` compares what comes of two runs, by a relation between results.
* **Calls.**  `answering_bind` moves the taking down of a call behind the first step of the work
  that answers it.  That is how a proof gets at the last step of an operation, after all the host
  code that the operation runs.
-/

namespace LifecycleGuard

namespace Work

variable (w : Work)

@[simp] theorem contextOf_change (f : Context → Context) (name : String) :
    (w.change f).contextOf name = if name = w.current then f w.context else w.contextOf name :=
  World.contextOf_put ..

@[simp] theorem contextOf_entering (s : Scope) (name : String) :
    (w.entering s).contextOf name
      = if name = w.current then (s.enter w.context).2 else w.contextOf name :=
  World.contextOf_put ..

@[simp] theorem contextOf_leaving (s : Scope) (before : Work) (name : String) :
    (w.leaving s before).contextOf name
      = if name = before.current then s.leave (s.enter before.context).1 (w.contextOf name)
        else w.contextOf name := by
  rw [show (w.leaving s before).contextOf name = _ from World.contextOf_put ..]
  split
  · rename_i h
    rw [h]
  · rfl

@[simp] theorem context_change (f : Context → Context) : (w.change f).context = f w.context := by
  rw [World.context, contextOf_change]
  exact if_pos rfl

@[simp] theorem context_entering (s : Scope) : (w.entering s).context = (s.enter w.context).2 := by
  rw [World.context, contextOf_entering]
  exact if_pos rfl

end Work

namespace Run

variable {α β : Type}

/-- Results that are alike, or the same interruption. -/
inductive SameEnd (A : α → α → Prop) : Except Interrupt α → Except Interrupt α → Prop where
  | ok {x x' : α} : A x x' → SameEnd A (.ok x) (.ok x')
  | error (i : Interrupt) : SameEnd A (.error i) (.error i)

@[simp] theorem pure_apply (x : α) (w : Work) : (Pure.pure x : Run α) w = (.ok x, w) := rfl

theorem bind_of_ok {r : Run α} {w w₁ : Work} {x : α} (h : r w = (.ok x, w₁)) (f : α → Run β) :
    (r >>= f) w = f x w₁ := by
  show Run.bind r f w = f x w₁
  rw [Run.bind, h]

theorem bind_of_error {r : Run α} {w w₁ : Work} {i : Interrupt} (h : r w = (.error i, w₁))
    (f : α → Run β) : (r >>= f) w = (.error i, w₁) := by
  show Run.bind r f w = (.error i, w₁)
  rw [Run.bind, h]

/-- The same where only the result of the step is known. -/
theorem bind_of_fst {r : Run α} {w : Work} {x : α} (h : (r w).1 = .ok x) (f : α → Run β) :
    (r >>= f) w = f x (r w).2 :=
  bind_of_ok (Prod.ext h rfl) f

/-- What follows a step depends on nothing but what comes of the step. -/
theorem bind_congr {r r' : Run α} {w : Work} (h : r' w = r w) (f : α → Run β) :
    (r' >>= f) w = (r >>= f) w := by
  show Run.bind r' f w = Run.bind r f w
  rw [Run.bind, Run.bind, h]

/-- Steps can be taken together in any way. -/
theorem bind_assoc {γ : Type} (r : Run α) (f : α → Run β) (g : β → Run γ) :
    (r >>= f) >>= g = r >>= fun x => f x >>= g := by
  funext w
  show Run.bind (Run.bind r f) g w = Run.bind r (fun x => Run.bind (f x) g) w
  unfold Run.bind
  rcases r w with ⟨x | x, w₁⟩ <;> rfl

@[simp] theorem context_bind (f : Context → Run β) (w : Work) :
    (context >>= f) w = f w.context w := rfl

@[simp] theorem note_bind (e : Event) (f : Unit → Run β) (w : Work) :
    (note e >>= f) w = f () { w with events := w.events ++ [e] } := rfl

/-- What is put in flight replaces what was. -/
theorem hold_apply (type : String) (e : AuditEntry) (w : Work) :
    ∃ events, hold type e w = (.ok (), { w.change (fun c => c.hold type e) with events }) := by
  have hhold : hold type e w = (if w.context.hasInFlight type then note (.discardedInFlight type)
      else Pure.pure ()) (w.change fun c => c.hold type e) := rfl
  rw [hhold]
  cases w.context.hasInFlight type with
  | true => exact ⟨_, rfl⟩
  | false => exact ⟨_, rfl⟩

theorem abandon_apply (type : String) (w : Work) :
    ∃ events, abandon type w = (.ok (), { w.change (fun c => c.release type) with events }) := by
  have habandon : abandon type w = (if w.context.hasInFlight type
      then note (.abandonedInFlight type) else Pure.pure ()) (w.change fun c => c.release type) :=
    rfl
  rw [habandon]
  cases w.context.hasInFlight type with
  | true => exact ⟨_, rfl⟩
  | false => exact ⟨_, rfl⟩

theorem attempt_of_ok {r : Run α} {w w₁ : Work} {x : α} (h : r w = (.ok x, w₁)) :
    attempt r w = (.ok (.ok x), w₁) := by
  rw [attempt, h]

theorem attempt_of_panic {r : Run α} {w w₁ : Work} {text : String}
    (h : r w = (.error (.panic text), w₁)) : attempt r w = (.ok (.error text), w₁) := by
  rw [attempt, h]

theorem within_of_eq {r : Run α} {s : Scope} {w w₁ : Work} {x : Except Interrupt α}
    (h : r (w.entering s) = (x, w₁)) : within s r w = (x, w₁.leaving s w) := by
  rw [within, h]

/-- A call is taken down after the last step of the work that answers it. -/
theorem answering_bind (c : Command) (r : Run α) (f : α → Run c.Answer) :
    answering c (r >>= f) = r >>= fun x => answering c (f x) := by
  funext w
  show answering c (r.bind f) w = r.bind (fun x => answering c (f x)) w
  unfold answering Run.bind
  rcases r w with ⟨x | x, w₁⟩ <;> rfl

theorem answering_of_ok {c : Command} {r : Run c.Answer} {w w₁ : Work} {x : c.Answer}
    (h : r w = (.ok x, w₁)) : answering c r w = (.ok x, w₁.noting c x) := by
  rw [answering, h]

theorem answering_of_error {c : Command} {r : Run c.Answer} {w w₁ : Work} {i : Interrupt}
    (h : r w = (.error i, w₁)) : answering c r w = (.error i, w₁) := by
  rw [answering, h]

end Run

end LifecycleGuard
