import LifecycleGuard.Proofs.Host.Bypass

/-!
# Work that leaves settings alone

Who acts and what is switched off are the settings of a context.  They are changed by the host, and
by nothing that the library does on its own: what a scope changes it puts back, and a capture
touches nothing but what is in flight.

**Scopes.**  `Scope.leave_enter` says that a scope which is left at once changes nothing, and
`Scope.leave_settings` that what is in flight does not matter to leaving it.  So whatever keeps
settings within a scope keeps them around it (`Work.Kept.leaving`).

**Runs.**  A run that `Keeps` leaves the settings of all contexts alone.  Such runs are put together
to such runs by every means to put runs together, and `Recorder.keeps_begin` and its companions say
it of captures.
-/

namespace LifecycleGuard

/-! ## Scopes -/

/-- A context but for what is in flight: who acts, and what is switched off. -/
def Context.settings (c : Context) : Context := { c with inFlight := .empty }

namespace Scope

variable (s : Scope) (c : Context)

theorem leave_settings (mark : Bool) : s.leave mark c.settings = (s.leave mark c).settings := by
  cases s with
  | enforcement => rfl
  | audit => rfl
  | securityOf type => cases mark <;> rfl
  | auditOf type => cases mark <;> rfl

/-- A scope that is left at once changes nothing. -/
theorem leave_enter : s.leave (s.enter c).1 (s.enter c).2 = c := by
  cases s with
  | enforcement => rfl
  | audit => rfl
  | securityOf type =>
      rw [Context.Sealed.leave_securityOf]
      exact congrArg (fun off => { c with securityOff := off })
        (Context.Sealed.putBack_add c.securityOff type)
  | auditOf type =>
      rw [Context.Sealed.leave_auditOf]
      exact congrArg (fun off => { c with auditOff := off })
        (Context.Sealed.putBack_add c.auditOff type)

end Scope

/-! ## Runs -/

/-- Every context keeps its settings. -/
structure Work.Kept (w w₁ : Work) : Prop where
  current : w₁.current = w.current
  settings : ∀ name, (w₁.contextOf name).settings = (w.contextOf name).settings

namespace Work.Kept

variable {w w₁ w₂ : Work}

theorem of_world (h : w₁.toWorld = w.toWorld) : Kept w w₁ where
  current := congrArg World.current h
  settings name := by rw [h]

theorem refl (w : Work) : Kept w w := of_world rfl

theorem of_eq {α : Type} {y : Except Interrupt α × Work} {x : Except Interrupt α}
    (hy : y = (x, w₁)) (h : Kept w w₁) : Kept w y.2 := by
  rw [hy]
  exact h

theorem trans (h : Kept w w₁) (h' : Kept w₁ w₂) : Kept w w₂ where
  current := h'.current.trans h.current
  settings name := (h'.settings name).trans (h.settings name)

theorem context (h : Kept w w₁) : w₁.context.settings = w.context.settings := by
  rw [World.context, World.context, h.current]
  exact h.settings _

/-- The current context changes, but not its settings. -/
theorem of_change {f : Context → Context} (hf : ∀ c, (f c).settings = c.settings)
    (hcurrent : w₁.current = w.current) (hcontexts : w₁.contexts = (w.change f).contexts) :
    Kept w w₁ := by
  refine ⟨hcurrent, fun name => ?_⟩
  rw [show w₁.contextOf name = (w.change f).contextOf name by
    rw [World.contextOf, World.contextOf, hcontexts], contextOf_change]
  by_cases hname : name = w.current
  · rw [if_pos hname, hf, hname]
    rfl
  · rw [if_neg hname]

/-- A change that changes nothing may be left out. -/
theorem change_id (h : Kept w w₁) : Kept (w.change id) w₁ := by
  refine ⟨h.current, fun name => ?_⟩
  have hsame : (w.change id).contextOf name = w.contextOf name := by
    rw [contextOf_change]
    by_cases hname : name = w.current
    · rw [if_pos hname, hname]
      rfl
    · rw [if_neg hname]
  rw [hsame]
  exact h.settings name

/-- Settings that are kept within a scope are kept around it. -/
theorem leaving {s : Scope} (h : Kept (w.entering s) w₁) : Kept w (w₁.leaving s w) := by
  refine ⟨h.current, fun name => ?_⟩
  have hname := h.settings name
  rw [contextOf_entering] at hname
  rw [contextOf_leaving]
  by_cases hcurrent : name = w.current
  · rw [if_pos hcurrent] at hname ⊢
    calc (s.leave (s.enter w.context).1 (w₁.contextOf name)).settings
        = s.leave (s.enter w.context).1 (s.enter w.context).2.settings := by
          rw [← Scope.leave_settings, hname]
      _ = w.context.settings := by rw [Scope.leave_settings, Scope.leave_enter]
      _ = (w.contextOf name).settings := by rw [hcurrent, World.context]
  · rw [if_neg hcurrent] at hname ⊢
    exact hname

end Work.Kept

namespace Run

variable {α β : Type}

/-- A run that leaves the settings of all contexts alone. -/
def Keeps (r : Run α) : Prop := ∀ w : Work, w.Kept (r w).2

namespace Keeps

theorem pure (x : α) : Keeps (Pure.pure x) := fun w => .refl w

theorem panic (text : String) : Keeps (Run.panic text : Run α) := fun w => .refl w

theorem note (e : Event) : Keeps (Run.note e) := fun _ => .of_world rfl

theorem leaveLabel (text : String) : Keeps (Run.leaveLabel text) := fun _ => .of_world rfl

theorem bind {r : Run α} {f : α → Run β} (hr : Keeps r) (hf : ∀ x, Keeps (f x)) :
    Keeps (r >>= f) := by
  intro w
  have hw := hr w
  rcases hrun : r w with ⟨x | x, w₁⟩
  · rw [hrun] at hw
    exact .of_eq (bind_of_error hrun f) hw
  · rw [hrun] at hw
    rw [bind_of_ok hrun]
    exact hw.trans (hf x w₁)

theorem context {f : Context → Run β} (hf : ∀ c, Keeps (f c)) : Keeps (Run.context >>= f) :=
  fun w => hf w.context w

theorem within (s : Scope) {r : Run α} (hr : Keeps r) : Keeps (Run.within s r) := fun w =>
  (hr (w.entering s)).leaving

theorem modifyContext {f : Context → Context} (hf : ∀ c, (f c).settings = c.settings) :
    Keeps (Run.modifyContext f) := fun _ => .of_change hf rfl rfl

theorem hold (type : String) (e : AuditEntry) : Keeps (Run.hold type e) := by
  intro w
  obtain ⟨events, hhold⟩ := hold_apply type e w
  exact .of_eq hhold (.of_change (f := fun c => c.hold type e) (fun _ => rfl) rfl rfl)

theorem abandon (type : String) : Keeps (Run.abandon type) := by
  intro w
  obtain ⟨events, habandon⟩ := abandon_apply type w
  exact .of_eq habandon (.of_change (f := fun c => c.release type) (fun _ => rfl) rfl rfl)

end Keeps

end Run

/-! ## Captures -/

namespace Recorder

open Run

variable {μ : Type} (r : Recorder μ)

theorem keeps_commit (a : Action) (subject : Entity) : Keeps (r.commit a subject) := by
  intro w
  cases he : w.context.inFlight.get? r.entityType with
  | none => exact .of_eq (r.commit_of_none subject he) (.refl w)
  | some e =>
      by_cases ha : e.action = a
      · obtain ⟨events, hcommit⟩ := r.commit_of_some subject he ha
        exact .of_eq hcommit
          (.of_change (f := fun c => c.release r.entityType) (fun _ => rfl) rfl rfl)
      · obtain ⟨events, hcommit⟩ := r.commit_of_other subject he ha
        exact .of_eq hcommit (.of_world rfl)

theorem keeps_park (d : AuditDeclaration μ) (a : Action) (subject : Entity) (actor : Option Actor)
    (message : Option String) : Keeps (r.park d a subject actor message) := by
  intro w
  obtain ⟨events, hpark⟩ := r.park_apply d a subject actor message w
  exact .of_eq hpark
    (.of_change (f := fun c => c.hold r.entityType _) (fun _ => rfl) rfl rfl)

theorem keeps_conclude (subject : Entity) (actor : Option Actor) (message : Option String) :
    Keeps (r.conclude subject actor message) := by
  intro w
  obtain ⟨events, hconclude⟩ := r.conclude_apply subject actor message w
  exact .of_eq hconclude ⟨rfl, fun _ => rfl⟩

variable {compose : μ → Entity → Option Actor → Run String}
  (hcompose : ∀ m subject actor, Keeps (compose m subject actor))

include hcompose

omit r in
theorem keeps_composed (message : Option μ) (subject : Entity) (actor : Option Actor) :
    Keeps (composed compose message subject actor) := by
  cases message with
  | none => exact .pure none
  | some m => exact .bind (.within .enforcement (hcompose m subject actor)) fun text => .pure _

theorem keeps_begin (a : Action) (subject : Entity) : Keeps (r.begin compose a subject) := by
  intro w
  cases ha : a.isMutation with
  | false =>
      rw [begin, ha]
      exact .refl w
  | true =>
      cases hd : r.applicable? a subject w.context with
      | none =>
          obtain ⟨events, hbegin⟩ := r.begin_of_none hd
          exact .of_eq (hbegin compose) (.of_world rfl)
      | some d =>
          rw [r.begin_of_some compose ha hd]
          exact Keeps.bind (keeps_composed hcompose d.message subject w.context.actor)
            (fun message => r.keeps_park d a subject w.context.actor message) w

theorem keeps_record (subject : Entity) : Keeps (r.record compose subject) := by
  intro w
  cases hd : r.applicable? .find subject w.context with
  | none =>
      obtain ⟨events, hrecord⟩ := r.record_of_none hd
      exact .of_eq (hrecord compose) (.of_world rfl)
  | some d =>
      rw [r.record_of_some compose hd]
      exact Keeps.bind (keeps_composed hcompose d.message subject w.context.actor)
        (fun message => r.keeps_conclude subject w.context.actor message) w

end Recorder

end LifecycleGuard
