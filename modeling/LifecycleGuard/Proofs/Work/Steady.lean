import LifecycleGuard.Proofs.Permission.Congruence
import LifecycleGuard.Proofs.Work.Settings

/-!
# Runs that leave their context as it is

A predicate that only looks neither changes the context that it is asked in nor turns away from it,
and says the same whenever it is asked in such a context.  These are two properties of runs, and
a run has each of them in contexts of some kind.

**Still.**  `Run.StillIn` says that a run leaves the context as it is, whatever else it does, and
also if it is interrupted.

**Steady.**  `Run.SteadyIn` says in addition that what comes of the run depends on the context only:
not on what was written, on what is observed, or on other contexts.

**Failures and media.**  `Run.FailsOnly` says how a run can fail, and `Run.KeepsMedia` what it keeps
true of the media.

**Putting runs together.**  Each of these is kept by every means to put runs together, so each is a
`Run.Congruence` that looks at one side.  A scope that switches enforcement off makes a run that is
still where enforcement is off one that is still everywhere (`Run.StillIn.unenforced`), which is how
a property of predicates becomes one of the checks that ask them.
-/

namespace LifecycleGuard

/-- Enforcement is off altogether. -/
def Context.Unenforced (c : Context) : Prop := c.enforcing = false

/-- The work goes on in the same context, and nothing in it has changed. -/
structure Work.Still (w w₁ : Work) : Prop where
  current : w₁.current = w.current
  context : w₁.context = w.context

namespace Work.Still

variable {w w₁ w₂ : Work}

theorem of_world (h : w₁.toWorld = w.toWorld) : Still w w₁ :=
  ⟨congrArg World.current h, congrArg World.context h⟩

theorem refl (w : Work) : Still w w := of_world rfl

theorem trans (h : Still w w₁) (h' : Still w₁ w₂) : Still w w₂ :=
  ⟨h'.current.trans h.current, h'.context.trans h.context⟩

/-- What is in flight is part of the context. -/
theorem inFlight (h : Still w w₁) (type : String) :
    w₁.context.inFlight.get? type = w.context.inFlight.get? type := by
  rw [h.context]

/-- A scope that is left in the context that it was entered in changes nothing. -/
theorem leaving {s : Scope} (h : Still (w.entering s) w₁) : Still w (w₁.leaving s w) := by
  have hcurrent : w₁.current = w.current := h.current
  refine ⟨hcurrent, ?_⟩
  have hcontext := h.context
  rw [Work.context_entering, World.context, hcurrent] at hcontext
  rw [World.context, show (w₁.leaving s w).current = w.current from hcurrent,
    Work.contextOf_leaving, if_pos rfl, hcontext, Scope.leave_enter]

end Work.Still

namespace Run

variable {α β : Type} {C D : Context → Prop}

/-- In contexts of a kind, the run leaves the context as it is. -/
def StillIn (C : Context → Prop) (r : Run α) : Prop := ∀ w : Work, C w.context → w.Still (r w).2

/-- In contexts of a kind, the run leaves the context as it is, and what comes of it depends on the
context only. -/
structure SteadyIn (C : Context → Prop) (r : Run α) : Prop where
  still : StillIn C r
  answer : ∀ w w' : Work, C w.context → w'.context = w.context → (r w').1 = (r w).1

/-- A property of runs, as a relation between runs that looks at one of them only. -/
def OneSided (P : {α : Type} → Run α → Prop) (α : Type) (r _ : Run α) : Prop := P r

theorem Congruence.step {P : {α : Type} → Run α → Prop} (hP : Congruence (OneSided P)) {r : Run α}
    {f : α → Run β} (hr : P r) (hf : ∀ x, P (f x)) : P (r >>= f) := by
  have hboth : OneSided P β (r >>= f) (r >>= f) := hP.bind hr hf
  exact hboth

/-! ## Still runs -/

namespace StillIn

theorem of_world {r : Run α} (h : ∀ w : Work, C w.context → (r w).2.toWorld = w.toWorld) :
    StillIn C r := fun w hw => .of_world (h w hw)

theorem bind {r : Run α} {f : α → Run β} (hr : StillIn C r) (hf : ∀ x, StillIn C (f x)) :
    StillIn C (r >>= f) := by
  intro w hw
  have hfirst := hr w hw
  rcases hrun : r w with ⟨i | x, w₁⟩
  · rw [bind_of_error hrun]
    rw [hrun] at hfirst
    exact hfirst
  · rw [bind_of_ok hrun]
    rw [hrun] at hfirst
    exact hfirst.trans (hf x w₁ (by rwa [hfirst.context]))

/-- Within a scope the run may rely on what the scope switches off. -/
theorem within {s : Scope} {r : Run α} (hr : StillIn D r)
    (henter : ∀ c, C c → D (s.enter c).2) : StillIn C (Run.within s r) := fun w hw =>
  (hr (w.entering s) (by rw [Work.context_entering]; exact henter _ hw)).leaving

/-- Around a scope that switches enforcement off nothing is left to rely on. -/
theorem unenforced {r : Run α} (hr : StillIn Context.Unenforced r) :
    StillIn C (Run.within .enforcement r) := hr.within fun _ _ => rfl

theorem congruence (C : Context → Prop) : Congruence (OneSided (StillIn C)) where
  pure := fun _ => of_world fun _ _ => rfl
  context := of_world fun _ _ => rfl
  note := fun _ => of_world fun _ _ => rfl
  bind := fun hr hf => bind hr hf

end StillIn

/-! ## Steady runs -/

namespace SteadyIn

/-- A run that leaves no more than events and labels, and whose answer is read off the context. -/
theorem of_aside {r : Run α} (x : Context → Except Interrupt α)
    (h : ∀ w : Work, C w.context → ∃ events labels,
      r w = (x w.context, { w with events, labels })) : SteadyIn C r where
  still w hw := by
    obtain ⟨events, labels, hrun⟩ := h w hw
    rw [hrun]
    exact .of_world rfl
  answer w w' hw hcontext := by
    obtain ⟨events, labels, hrun⟩ := h w hw
    obtain ⟨events', labels', hrun'⟩ := h w' (by rwa [hcontext])
    rw [hrun, hrun', hcontext]

theorem pure (x : α) : SteadyIn C (Pure.pure x : Run α) :=
  of_aside (fun _ => .ok x) fun w _ => ⟨w.events, w.labels, rfl⟩

theorem panic (text : String) : SteadyIn C (Run.panic text : Run α) :=
  of_aside (fun _ => .error (.panic text)) fun w _ => ⟨w.events, w.labels, rfl⟩

theorem tooDeep : SteadyIn C (Run.tooDeep : Run α) :=
  of_aside (fun _ => .error .tooDeep) fun w _ => ⟨w.events, w.labels, rfl⟩

theorem context : SteadyIn C Run.context :=
  of_aside Except.ok fun w _ => ⟨w.events, w.labels, rfl⟩

theorem note (e : Event) : SteadyIn C (Run.note e) :=
  of_aside (fun _ => .ok ()) fun w _ => ⟨w.events ++ [e], w.labels, rfl⟩

theorem bind {r : Run α} {f : α → Run β} (hr : SteadyIn C r) (hf : ∀ x, SteadyIn C (f x)) :
    SteadyIn C (r >>= f) where
  still := hr.still.bind fun x => (hf x).still
  answer w w' hw hcontext := by
    have hfirst := hr.still w hw
    have hfirst' := hr.still w' (by rwa [hcontext])
    have hsame := hr.answer w w' hw hcontext
    rcases hrun : r w with ⟨x, w₁⟩
    rcases hrun' : r w' with ⟨x', w₁'⟩
    rw [hrun, hrun'] at hsame
    rw [hrun] at hfirst
    rw [hrun'] at hfirst'
    obtain rfl : x' = x := hsame
    cases x' with
    | error i => rw [bind_of_error hrun, bind_of_error hrun']
    | ok x =>
        rw [bind_of_ok hrun, bind_of_ok hrun']
        refine (hf x).answer w₁ w₁' (by rwa [hfirst.context]) ?_
        rw [hfirst.context, hfirst'.context, hcontext]

theorem within {s : Scope} {r : Run α} (hr : SteadyIn D r)
    (henter : ∀ c, C c → D (s.enter c).2) : SteadyIn C (Run.within s r) where
  still := hr.still.within henter
  answer w w' hw hcontext := by
    refine hr.answer (w.entering s) (w'.entering s) ?_ ?_
    · rw [Work.context_entering]
      exact henter _ hw
    · rw [Work.context_entering, Work.context_entering, hcontext]

theorem unenforced {r : Run α} (hr : SteadyIn Context.Unenforced r) :
    SteadyIn C (Run.within .enforcement r) := hr.within fun _ _ => rfl

theorem attempt {r : Run α} (hr : SteadyIn C r) : SteadyIn C (Run.attempt r) where
  still w hw := by
    have hfirst := hr.still w hw
    rw [Run.attempt]
    rcases hrun : r w with ⟨(_ | _) | _, _⟩ <;> rw [hrun] at hfirst <;> exact hfirst
  answer w w' hw hcontext := by
    have hsame := hr.answer w w' hw hcontext
    rw [Run.attempt, Run.attempt]
    rcases hrun : r w with ⟨x, w₁⟩
    rcases hrun' : r w' with ⟨x', w₁'⟩
    rw [hrun, hrun'] at hsame
    obtain rfl : x' = x := hsame
    rcases x' with (_ | _) | _ <;> rfl

/-- To take down a call changes no context. -/
theorem answering {c : Command} {r : Run c.Answer} (hr : SteadyIn C r) :
    SteadyIn C (Run.answering c r) where
  still w hw := by
    have hfirst := hr.still w hw
    rcases hrun : r w with ⟨i | x, w₁⟩
    · rw [answering_of_error hrun]
      rw [hrun] at hfirst
      exact hfirst
    · rw [answering_of_ok hrun]
      rw [hrun] at hfirst
      exact hfirst.trans (.of_world rfl)
  answer w w' hw hcontext := by
    have hends : ∀ v, (Run.answering c r v).1 = (r v).1 := fun v => by
      rcases hrun : r v with ⟨i | x, v₁⟩
      · rw [answering_of_error hrun]
      · rw [answering_of_ok hrun]
    rw [hends, hends]
    exact hr.answer w w' hw hcontext

theorem congruence (C : Context → Prop) : Congruence (OneSided (SteadyIn C)) where
  pure := fun x => pure x
  context := context
  note := note
  bind := fun hr hf => bind hr hf

end SteadyIn

/-! ## Failures and media -/

/-- The run fails in some ways only. -/
def FailsOnly (F : Interrupt → Prop) (r : Run α) : Prop := ∀ w i, (r w).1 = .error i → F i

/-- The run keeps something true of the media. -/
def KeepsMedia (I : Media → Prop) (r : Run α) : Prop := ∀ w : Work, I w.media → I (r w).2.media

theorem FailsOnly.congruence (F : Interrupt → Prop) : Congruence (OneSided (FailsOnly F)) where
  pure := fun _ _ _ hi => nomatch hi
  context := fun _ _ hi => nomatch hi
  note := fun _ _ _ hi => nomatch hi
  bind := by
    intro _ _ r _ f _ hr hf w i hi
    rcases hrun : r w with ⟨j | x, w₁⟩
    · rw [bind_of_error hrun] at hi
      obtain rfl := Except.error.inj hi
      exact hr w j (by rw [hrun])
    · rw [bind_of_ok hrun] at hi
      exact hf x w₁ i hi

theorem KeepsMedia.congruence (I : Media → Prop) : Congruence (OneSided (KeepsMedia I)) where
  pure := fun _ _ hw => hw
  context := fun _ hw => hw
  note := fun _ _ hw => hw
  bind := by
    intro _ _ r _ f _ hr hf w hw
    have hfirst := hr w hw
    rcases hrun : r w with ⟨j | x, w₁⟩
    · rw [bind_of_error hrun]
      rw [hrun] at hfirst
      exact hfirst
    · rw [bind_of_ok hrun]
      rw [hrun] at hfirst
      exact hf x w₁ hfirst

end Run

end LifecycleGuard
