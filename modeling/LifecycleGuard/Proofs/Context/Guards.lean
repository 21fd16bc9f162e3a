import LifecycleGuard.Context.Scope
import Mathlib.Data.List.Induction

/-!
# Guards that are dropped in any order

A guard of a flag puts back the value that the flag had when the guard was created.  Guards are
values: a host may keep several of them and drop them as it likes.

**The law.**  While a guard is alive the flag is off, and when none is alive it is as it was before
the first (`Lawful`).  The law does not hold in general: the first guard puts back what was there
before all of them, whether others are alive or not.

**When it holds.**  As long as the law holds only the oldest guard remembers the value before all of
them (`Steady`).  From there a step either leads to such a state again, or drops the oldest guard
before its time and breaks the law (`Steady.step`).  Hence the law holds throughout if and only if
the flag was off all along or the oldest guard is always dropped last (`lawful_iff`); the others may
go in any order.
-/

namespace LifecycleGuard

/-! ## Flags and their guards -/

/-- The flags of a context. -/
inductive Flag where
  | enforcement
  | audit
deriving DecidableEq

namespace Flag

/-- The scope that a guard of the flag holds open. -/
def scope : Flag → Scope
  | enforcement => .enforcement
  | audit => .audit

/-- Whether the flag is on. -/
def value : Flag → Context → Bool
  | enforcement, c => c.enforcing
  | audit, c => c.auditing

/-- The context with another value of the flag. -/
def put (f : Flag) (c : Context) (v : Bool) : Context :=
  match f with
  | enforcement => { c with enforcing := v }
  | audit => { c with auditing := v }

variable (f : Flag) (c : Context)

@[simp] theorem value_put (v : Bool) : f.value (f.put c v) = v := by
  cases f <;> rfl

@[simp] theorem put_put (v v' : Bool) : f.put (f.put c v) v' = f.put c v' := by
  cases f <;> rfl

@[simp] theorem put_value : f.put c (f.value c) = c := by
  cases f <;> rfl

/-- The guard of the flag with some memory. -/
def guard (mark : Bool) : Guard := ⟨f.scope, mark⟩

@[simp] theorem acquire_scope :
    Guard.acquire f.scope c = (f.guard (f.value c), f.put c false) := by
  cases f <;> rfl

@[simp] theorem release_guard (mark : Bool) : (f.guard mark).release c = f.put c mark := by
  cases f <;> rfl

end Flag

/-! ## Creating and dropping -/

/-- A context with the guards that are alive on it, the oldest first. -/
structure Guarded where
  context : Context
  guards : List Guard
deriving DecidableEq

namespace Guarded

/-- Something that a host does with guards. -/
inductive Step where
  | create
  /-- Drop the guard in this place, if there is one. -/
  | drop (i : Nat)
deriving DecidableEq

/-- Create or drop a guard of a flag. -/
def step (f : Flag) (b : Guarded) : Step → Guarded
  | .create =>
    let (g, c) := Guard.acquire f.scope b.context
    ⟨c, b.guards ++ [g]⟩
  | .drop i =>
    match b.guards[i]? with
    | some g => ⟨g.release b.context, b.guards.eraseIdx i⟩
    | none => b

/-- Create and drop guards of a flag on a context where none is alive. -/
def run (f : Flag) (c : Context) (steps : List Step) : Guarded := steps.foldl (step f) ⟨c, []⟩

theorem run_concat (f : Flag) (c : Context) (steps : List Step) (s : Step) :
    run f c (steps ++ [s]) = (run f c steps).step f s :=
  List.foldl_append ..

variable {f : Flag} {c : Context}

/-- The flag is off while a guard is alive, and as it was before the first when none is. -/
structure Lawful (f : Flag) (c : Context) (b : Guarded) : Prop where
  off : b.guards ≠ [] → f.value b.context = false
  restored : b.guards = [] → f.value b.context = f.value c

/-- No guard is alive, or the oldest remembers the value before all of them and the others remember
that the flag is off. -/
inductive Steady (f : Flag) (c : Context) : Guarded → Prop where
  | free : Steady f c ⟨c, []⟩
  | held (n : Nat) :
      Steady f c ⟨f.put c false, f.guard (f.value c) :: .replicate n (f.guard false)⟩

theorem Steady.lawful {b : Guarded} (h : Steady f c b) : Lawful f c b := by
  cases h with
  | free => exact ⟨fun h => absurd rfl h, fun _ => rfl⟩
  | held n => exact ⟨fun _ => Flag.value_put .., nofun⟩

/-- The oldest guard is dropped before its time. -/
def Early (b : Guarded) (s : Step) : Prop := s = .drop 0 ∧ 2 ≤ b.guards.length

theorem not_early_create (b : Guarded) : ¬ Early b .create := fun h => nomatch h.1

theorem not_early_drop_succ (b : Guarded) (i : Nat) : ¬ Early b (.drop (i + 1)) :=
  fun h => nomatch h.1

/-- A new guard next to others remembers that the flag is off. -/
theorem Steady.create {b : Guarded} (h : Steady f c b) : Steady f c (b.step f .create) := by
  cases h with
  | free =>
      simp only [Guarded.step, Flag.acquire_scope]
      exact .held 0
  | held n =>
      simp only [Guarded.step, Flag.acquire_scope, Flag.value_put, Flag.put_put, List.cons_append,
        ← List.replicate_succ']
      exact .held (n + 1)

/-- A guard that is not the oldest leaves the flag off. -/
theorem Steady.drop_succ {b : Guarded} (h : Steady f c b) (i : Nat) :
    Steady f c (b.step f (.drop (i + 1))) := by
  cases h with
  | free => exact .free
  | held n =>
      simp only [Guarded.step, List.getElem?_cons_succ, List.getElem?_replicate]
      by_cases hi : i < n
      · simp only [if_pos hi, Flag.release_guard, Flag.put_put, List.eraseIdx_cons_succ,
          List.eraseIdx_replicate]
        exact .held (n - 1)
      · simp only [if_neg hi]
        exact .held n

/-- The oldest guard puts back what was there before all of them. -/
theorem step_drop_zero (n : Nat) :
    step f ⟨f.put c false, f.guard (f.value c) :: .replicate n (f.guard false)⟩ (.drop 0) =
      ⟨c, .replicate n (f.guard false)⟩ := by
  simp only [step, List.getElem?_cons_zero, Flag.release_guard, Flag.put_put, Flag.put_value,
    List.eraseIdx_cons_zero]

/-- A step keeps a state steady, or drops the oldest guard before its time and breaks the law. -/
theorem Steady.step {b : Guarded} (h : Steady f c b) (s : Step) :
    (Steady f c (b.step f s) ∧ (f.value c = true → ¬ Early b s)) ∨
      (f.value c = true ∧ Early b s ∧ ¬ Lawful f c (b.step f s)) := by
  match s, h with
  | .create, h => exact .inl ⟨h.create, fun _ => not_early_create b⟩
  | .drop (i + 1), h => exact .inl ⟨h.drop_succ i, fun _ => not_early_drop_succ b i⟩
  | .drop 0, .free => exact .inl ⟨.free, fun _ hearly => absurd hearly.2 (by simp)⟩
  | .drop 0, .held 0 =>
      rw [step_drop_zero]
      exact .inl ⟨.free, fun _ hearly => absurd hearly.2 (by simp)⟩
  | .drop 0, .held (n + 1) =>
      rw [step_drop_zero]
      cases hon : f.value c with
      | true =>
          refine .inr ⟨rfl, ⟨rfl, by simp⟩, fun hlaw => ?_⟩
          have hoff : f.value c = false := hlaw.off (by simp)
          rw [hon] at hoff
          cases hoff
      | false =>
          -- The guards all remember the same, so the next one is as good as the oldest.
          have hsame : (⟨c, .replicate (n + 1) (f.guard false)⟩ : Guarded) =
              ⟨f.put c false, f.guard (f.value c) :: .replicate n (f.guard false)⟩ := by
            rw [← hon, Flag.put_value, List.replicate_succ]
          rw [hsame]
          exact .inl ⟨.held n, nofun⟩

/-- The oldest guard is dropped when it is the only one. -/
def OldestLast (f : Flag) (c : Context) (steps : List Step) : Prop :=
  ∀ before s, before ++ [s] <+: steps → ¬ Early (run f c before) s

/-- What holds at every point of a run. -/
theorem steady_of_lawful {steps : List Step}
    (h : ∀ before, before <+: steps → Lawful f c (run f c before)) :
    Steady f c (run f c steps) := by
  induction steps using List.reverseRecOn with
  | nil => exact .free
  | append_singleton steps s ih =>
      have hbefore : Steady f c (run f c steps) :=
        ih fun before hpre => h before (hpre.trans (List.prefix_append ..))
      have hlaw := h _ (List.prefix_refl _)
      rw [run_concat] at hlaw ⊢
      obtain ⟨hsteady, -⟩ | ⟨-, -, hbroken⟩ := hbefore.step s
      · exact hsteady
      · exact absurd hlaw hbroken

theorem steady_of_oldestLast {steps : List Step} (h : f.value c = true → OldestLast f c steps) :
    Steady f c (run f c steps) := by
  induction steps using List.reverseRecOn with
  | nil => exact .free
  | append_singleton steps s ih =>
      have hbefore : Steady f c (run f c steps) :=
        ih fun hon before s' hpre => h hon before s' (hpre.trans (List.prefix_append ..))
      rw [run_concat]
      obtain ⟨hsteady, -⟩ | ⟨hon, hearly, -⟩ := hbefore.step s
      · exact hsteady
      · exact absurd hearly (h hon _ _ (List.prefix_refl _))

/-- **Guards keep the law exactly if the oldest goes last.**  A flag that was off before stays off.
A flag that was on is off at every point where a guard is alive, and on again where none is, if and
only if the oldest guard is never dropped while another is alive. -/
theorem lawful_iff (f : Flag) (c : Context) (steps : List Step) :
    (∀ before, before <+: steps → Lawful f c (run f c before)) ↔
      (f.value c = true → OldestLast f c steps) := by
  constructor
  · intro hlaw hon before s hpre
    have hbefore : Steady f c (run f c before) := steady_of_lawful fun before' hpre' =>
      hlaw before' (hpre'.trans ((List.prefix_append ..).trans hpre))
    obtain ⟨-, hearly⟩ | ⟨-, -, hbroken⟩ := hbefore.step s
    · exact hearly hon
    · rw [← run_concat] at hbroken
      exact absurd (hlaw _ hpre) hbroken
  · intro hlast before hpre
    exact (steady_of_oldestLast fun hon before' s hpre' =>
      hlast hon before' s (hpre'.trans hpre)).lawful

/-- Two guards are created, and the older is dropped. -/
def olderFirst : List Step := [.create, .create, .drop 0]

/-- **The older guard turns the flag on under the younger**, which turns it off for good. -/
theorem olderFirst_unlawful :
    ((run .enforcement .fresh olderFirst).guards ≠ [] ∧
      (run .enforcement .fresh olderFirst).context.enforcing = true) ∧
    ((run .enforcement .fresh (olderFirst ++ [.drop 0])).guards = [] ∧
      (run .enforcement .fresh (olderFirst ++ [.drop 0])).context.enforcing = false) ∧
    ((run .audit .fresh olderFirst).guards ≠ [] ∧
      (run .audit .fresh olderFirst).context.auditing = true) ∧
    ((run .audit .fresh (olderFirst ++ [.drop 0])).guards = [] ∧
      (run .audit .fresh (olderFirst ++ [.drop 0])).context.auditing = false) := by
  decide

/-- Each guard is dropped before the older ones. -/
def Nested (f : Flag) (c : Context) (steps : List Step) : Prop :=
  ∀ before i, before ++ [.drop i] <+: steps → (run f c before).guards.length = i + 1

/-- Guards that are nested, as scopes around some work are, keep the law. -/
theorem Nested.oldestLast {steps : List Step} (h : Nested f c steps) : OldestLast f c steps := by
  rintro before s hpre ⟨rfl, hlength⟩
  rw [h before 0 hpre] at hlength
  omega

end Guarded

end LifecycleGuard
