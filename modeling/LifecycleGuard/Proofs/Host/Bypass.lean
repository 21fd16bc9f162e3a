import LifecycleGuard.Proofs.Collections.SortedMap
import LifecycleGuard.Proofs.Host.Reach

/-!
# No bypass outlives its scope

Scopes switch checking and recording off, and put back what they found.  A flag puts back the value
that it had; an entity type is taken out of a set if it was the scope that put it in.  The two ways
to put back meet in one and the same context, and a reset may clear everything under open scopes.

**The relation.**  `Context.NoLooser` says that nothing is switched off that was not switched off
before, and `Context.SameSwitches` that nothing has changed.  `Context.Sealed` takes the two
together: never looser, and without a reset the same.

**One scope.**  `Context.Sealed.scope` is the heart of it: what holds of the context within a scope
holds of the context around it.

**All runs.**  `Host.sealed_run` follows by induction on what can happen.  It speaks of every
context, also of those that a program turns to in passing.
-/

namespace LifecycleGuard

namespace Context

/-- Nothing is switched off that was not switched off before. -/
structure NoLooser (before after : Context) : Prop where
  enforcing : after.enforcing = before.enforcing ∨ after.enforcing = true
  auditing : after.auditing = before.auditing ∨ after.auditing = true
  securityOff : ∀ type, SortedSet.mem after.securityOff type = true →
    SortedSet.mem before.securityOff type = true
  auditOff : ∀ type, SortedSet.mem after.auditOff type = true →
    SortedSet.mem before.auditOff type = true

/-- The same things are switched off as before. -/
structure SameSwitches (before after : Context) : Prop where
  enforcing : after.enforcing = before.enforcing
  auditing : after.auditing = before.auditing
  securityOff : after.securityOff = before.securityOff
  auditOff : after.auditOff = before.auditOff

/-- Nothing is looser, and where nothing was reset everything is the same. -/
def Sealed (reset : Prop) (before after : Context) : Prop :=
  NoLooser before after ∧ (¬ reset → SameSwitches before after)

theorem SameSwitches.noLooser {c c₁ : Context} (h : SameSwitches c c₁) : NoLooser c c₁ where
  enforcing := .inl h.enforcing
  auditing := .inl h.auditing
  securityOff := fun _ ht => h.securityOff ▸ ht
  auditOff := fun _ ht => h.auditOff ▸ ht

theorem SameSwitches.trans {c c₁ c₂ : Context} (h : SameSwitches c c₁) (h' : SameSwitches c₁ c₂) :
    SameSwitches c c₂ where
  enforcing := h'.enforcing.trans h.enforcing
  auditing := h'.auditing.trans h.auditing
  securityOff := h'.securityOff.trans h.securityOff
  auditOff := h'.auditOff.trans h.auditOff

theorem NoLooser.trans {c c₁ c₂ : Context} (h : NoLooser c c₁) (h' : NoLooser c₁ c₂) :
    NoLooser c c₂ where
  enforcing := by
    rcases h'.enforcing with heq | hon
    · rw [heq]
      exact h.enforcing
    · exact .inr hon
  auditing := by
    rcases h'.auditing with heq | hon
    · rw [heq]
      exact h.auditing
    · exact .inr hon
  securityOff := fun type ht => h.securityOff type (h'.securityOff type ht)
  auditOff := fun type ht => h.auditOff type (h'.auditOff type ht)

namespace Sealed

theorem of_same {reset : Prop} {c c₁ : Context} (h : SameSwitches c c₁) : Sealed reset c c₁ :=
  ⟨h.noLooser, fun _ => h⟩

theorem refl (reset : Prop) (c : Context) : Sealed reset c c := of_same ⟨rfl, rfl, rfl, rfl⟩

theorem trans {r r₁ r₂ : Prop} {c c₁ c₂ : Context} (h : Sealed r₁ c c₁) (h' : Sealed r₂ c₁ c₂)
    (hleft : r₁ → r) (hright : r₂ → r) : Sealed r c c₂ :=
  ⟨h.1.trans h'.1, fun hr => (h.2 fun hr₁ => hr (hleft hr₁)).trans (h'.2 fun hr₂ => hr (hright hr₂))⟩

/-- In a fresh context nothing is switched off. -/
theorem fresh {reset : Prop} (hreset : reset) (c : Context) : Sealed reset c c.reset :=
  ⟨⟨.inr rfl, .inr rfl, fun _ ht => (nomatch ht), fun _ ht => (nomatch ht)⟩,
    fun hr => absurd hreset hr⟩

/-! ## One scope -/

/-- The set around a scope for a type, after what is left of the set within it was put back. -/
theorem mem_of_putBack {s s₁ : SortedSet String} {type : String}
    (hsub : ∀ t, SortedSet.mem s₁ t = true → SortedSet.mem (SortedSet.add s type) t = true)
    (t : String)
    (ht : SortedSet.mem (if !SortedSet.mem s type then SortedSet.remove s₁ type else s₁) t = true) :
    SortedSet.mem s t = true := by
  cases hmem : SortedSet.mem s type with
  | true =>
      simp only [hmem, Bool.not_true, Bool.false_eq_true, if_false] at ht
      have hin := hsub t ht
      rw [SortedSet.add_of_mem hmem] at hin
      exact hin
  | false =>
      simp only [hmem, Bool.not_false, if_true, SortedSet.mem_remove, Bool.and_eq_true,
        decide_eq_true_eq] at ht
      have hin := hsub t ht.2
      rw [SortedSet.mem_add, Bool.or_eq_true, decide_eq_true_eq] at hin
      exact hin.resolve_left ht.1

/-- Where nothing else touched the set, it is the one that was there before. -/
theorem putBack_add (s : SortedSet String) (type : String) :
    (if !SortedSet.mem s type then SortedSet.remove (SortedSet.add s type) type
      else SortedSet.add s type) = s := by
  cases hmem : SortedSet.mem s type with
  | true => exact SortedSet.add_of_mem hmem
  | false => exact SortedSet.remove_add hmem

theorem leave_securityOf (type : String) (mark : Bool) (c : Context) :
    Scope.leave (.securityOf type) mark c
      = { c with securityOff := if mark then SortedSet.remove c.securityOff type else c.securityOff }
        := by
  cases mark <;> rfl

theorem leave_auditOf (type : String) (mark : Bool) (c : Context) :
    Scope.leave (.auditOf type) mark c
      = { c with auditOff := if mark then SortedSet.remove c.auditOff type else c.auditOff } := by
  cases mark <;> rfl

/-- **A scope puts back what it found.** -/
theorem scope (s : Scope) {reset : Prop} {c c₁ : Context} (h : Sealed reset (s.enter c).2 c₁) :
    Sealed reset c (s.leave (s.enter c).1 c₁) := by
  obtain ⟨hloose, hsame⟩ := h
  cases s with
  | enforcement =>
      refine ⟨⟨.inl rfl, hloose.auditing, hloose.securityOff, hloose.auditOff⟩, fun hr => ?_⟩
      have h := hsame hr
      exact ⟨rfl, h.auditing, h.securityOff, h.auditOff⟩
  | audit =>
      refine ⟨⟨hloose.enforcing, .inl rfl, hloose.securityOff, hloose.auditOff⟩, fun hr => ?_⟩
      have h := hsame hr
      exact ⟨h.enforcing, rfl, h.securityOff, h.auditOff⟩
  | securityOf type =>
      rw [leave_securityOf]
      refine ⟨⟨hloose.enforcing, hloose.auditing, mem_of_putBack hloose.securityOff,
        hloose.auditOff⟩, fun hr => ?_⟩
      have h := hsame hr
      refine ⟨h.enforcing, h.auditing, ?_, h.auditOff⟩
      show (if _ then SortedSet.remove c₁.securityOff type else c₁.securityOff) = c.securityOff
      rw [h.securityOff]
      exact putBack_add c.securityOff type
  | auditOf type =>
      rw [leave_auditOf]
      refine ⟨⟨hloose.enforcing, hloose.auditing, hloose.securityOff,
        mem_of_putBack hloose.auditOff⟩, fun hr => ?_⟩
      have h := hsame hr
      refine ⟨h.enforcing, h.auditing, h.securityOff, ?_⟩
      show (if _ then SortedSet.remove c₁.auditOff type else c₁.auditOff) = c.auditOff
      rw [h.auditOff]
      exact putBack_add c.auditOff type

end Sealed

end Context

/-! ## All runs -/

/-- A call that clears the context of a name. -/
def Call.Resets (name : String) (c : Call) : Prop :=
  c.command = .reset ∧ c.world.current = name

/-- Between two works every context is sealed, up to the resets among the calls made meanwhile. -/
def Work.Sealed (w w₁ : Work) : Prop :=
  ∃ calls, w₁.calls = w.calls ++ calls ∧
    ∀ name, Context.Sealed (∃ c ∈ calls, c.Resets name) (w.contextOf name) (w₁.contextOf name)

namespace Work.Sealed

/-- Where no context changes, it does not matter which calls are made. -/
theorem of_contexts {w w₁ : Work} {calls : List Call} (hcalls : w₁.calls = w.calls ++ calls)
    (hctx : w₁.contexts = w.contexts) : Work.Sealed w w₁ := by
  refine ⟨calls, hcalls, fun name => ?_⟩
  rw [show w₁.contextOf name = w.contextOf name by rw [World.contextOf, World.contextOf, hctx]]
  exact .refl _ _

theorem refl (w : Work) : Work.Sealed w w := of_contexts (List.append_nil _).symm rfl

theorem trans {w w₁ w₂ : Work} (h : Work.Sealed w w₁) (h' : Work.Sealed w₁ w₂) :
    Work.Sealed w w₂ := by
  obtain ⟨calls, hcalls, hctx⟩ := h
  obtain ⟨calls', hcalls', hctx'⟩ := h'
  refine ⟨calls ++ calls', ?_, fun name => (hctx name).trans (hctx' name) ?_ ?_⟩
  · rw [hcalls', hcalls, List.append_assoc]
  · rintro ⟨c, hmem, hc⟩
    exact ⟨c, List.mem_append_left _ hmem, hc⟩
  · rintro ⟨c, hmem, hc⟩
    exact ⟨c, List.mem_append_right _ hmem, hc⟩

/-- One call, in which only the current context may change. -/
theorem of_call {w w₁ : Work} (f : Context → Context) {c : Call}
    (hcalls : w₁.calls = w.calls ++ [c]) (hctx : w₁.contexts = (w.change f).contexts)
    (hf : Context.Sealed (c.Resets w.current) w.context (f w.context)) : Work.Sealed w w₁ := by
  refine ⟨[c], hcalls, fun name => ?_⟩
  rw [show w₁.contextOf name = (w.change f).contextOf name by
    rw [World.contextOf, World.contextOf, hctx], contextOf_change]
  by_cases hname : name = w.current
  · subst hname
    rw [if_pos rfl]
    refine ⟨hf.1, fun hr => hf.2 fun hc => hr ⟨c, List.mem_singleton_self c, hc⟩⟩
  · rw [if_neg hname]
    exact .refl _ _

end Work.Sealed

namespace Host

variable {π μ : Type} {h : Host π μ}

/-- Nothing that can happen leaves a bypass behind. -/
theorem sealed_of_reaches {w w₁ : Work} (hreach : Reaches h w w₁) : Work.Sealed w w₁ := by
  induction hreach with
  | refl w => exact .refl w
  | trans _ _ ih ih' => exact ih.trans ih'
  | aside w => exact .of_contexts (List.append_nil _).symm rfl
  | @scope s w w₁ _ ih =>
      obtain ⟨calls, hcalls, hctx⟩ := ih
      refine ⟨calls, hcalls, fun name => ?_⟩
      have hname := hctx name
      rw [Work.contextOf_entering] at hname
      rw [Work.contextOf_leaving]
      by_cases hcurrent : name = w.current
      · rw [if_pos hcurrent] at hname ⊢
        rw [hcurrent] at hname ⊢
        exact hname.scope s
      · rw [if_neg hcurrent] at hname ⊢
        exact hname
  | turn _ _ ih => exact ih
  | idle w => exact .of_contexts rfl rfl
  | actor w a => exact .of_call (fun c => c.withActor a) rfl rfl (.of_same ⟨rfl, rfl, rfl, rfl⟩)
  | reset w => exact .of_call Context.reset rfl rfl (.fresh ⟨rfl, rfl⟩ _)
  | @captured name p a d w subject now actor message =>
      exact .of_call (fun c => c.hold p.entityType (.unfinished (.ofSerial w.serial) now a subject
        actor (d.filter.apply subject.changes) message)) rfl rfl (.of_same ⟨rfl, rfl, rfl, rfl⟩)
  | @committed name p a e w =>
      exact .of_call (fun c => c.release p.entityType) rfl rfl (.of_same ⟨rfl, rfl, rfl, rfl⟩)
  | uncommitted w => exact .of_contexts rfl rfl
  | @abandoned name p w =>
      exact .of_call (fun c => c.release p.entityType) rfl rfl (.of_same ⟨rfl, rfl, rfl, rfl⟩)
  | recorded w => exact .of_contexts rfl rfl

/-- **No bypass leaks.**  However a program ends, in every context both flags are what they were or
on, and the sets contain nothing that they did not contain; and where the context was not reset on
the way, flags and sets are what they were. -/
theorem sealed_run (h : Host π μ) (depth : Nat) {α : Type} (p : Program α) (w : Work) :
    ∃ calls, (h.run depth p w).2.calls = w.calls ++ calls ∧ ∀ name,
      Context.NoLooser (w.contextOf name) ((h.run depth p w).2.contextOf name) ∧
        ((∀ c ∈ calls, ¬ c.Resets name) →
          Context.SameSwitches (w.contextOf name) ((h.run depth p w).2.contextOf name)) := by
  obtain ⟨calls, hcalls, hctx⟩ := sealed_of_reaches (h.reaches_run depth p w)
  refine ⟨calls, hcalls, fun name => ⟨(hctx name).1, fun hr => (hctx name).2 ?_⟩⟩
  rintro ⟨c, hmem, hc⟩
  exact hr c hmem hc

end Host

end LifecycleGuard
