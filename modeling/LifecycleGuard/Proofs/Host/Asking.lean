import LifecycleGuard.Host.Program
import LifecycleGuard.Proofs.Permission.Congruence

/-!
# Calls that ask for permission

Most calls of a policy check something, or ask whether it would be granted, and are answered with
what comes of that.  Only one of them goes on to begin a capture.  So what carries over from
predicates to checks carries over to these calls, and `Run.Simulation.asking` says so for all of
them at once: a relation between the runs of predicates is one between the calls.
-/

namespace LifecycleGuard

namespace Command

/-- The policy that is called. -/
def policyName? : Command → Option String
  | checkAction name .. => some name
  | checkAttributes name .. => some name
  | isGranted name .. => some name
  | isAttributeGranted name .. => some name
  | granted name .. => some name
  | before name .. => some name
  | after name .. => some name
  | abandon name => some name
  | afterFind name .. => some name
  | beforeAssociation name .. => some name
  | _ => none

/-- The entity that a policy is called about. -/
def subject? : Command → Option Entity
  | checkAction _ _ subject => some subject
  | checkAttributes _ _ subject => some subject
  | isGranted _ _ subject => some subject
  | isAttributeGranted _ _ subject => some subject
  | granted _ subject .. => some subject
  | before _ _ subject => some subject
  | after _ _ subject => some subject
  | afterFind _ subject => some subject
  | beforeAssociation _ _ _ subject _ => some subject
  | _ => none

/-- A call that asks for permission, and that no entry is persisted by. -/
def Asks : Command → Prop
  | checkAction .. => True
  | checkAttributes .. => True
  | isGranted .. => True
  | isAttributeGranted .. => True
  | granted .. => True
  | before .. => True
  | beforeAssociation .. => True
  | _ => False

end Command

variable {π μ : Type}

namespace Run.Simulation

variable {A : Context → Context → Prop} {R : (α : Type) → Run α → Run α → Prop}
  (hR : Simulation A R) {o o' : Oracle π μ}

include hR

/-- Before a mutation, checks are made and then its capture is begun. -/
theorem before {p : Policy π μ} {a : Action} {subject : Entity}
    (hpermits : ∀ rule ∈ p.evaluator.book.rules, ∀ r,
      R Bool (Evaluator.permits o.judge r rule) (Evaluator.permits o'.judge r rule))
    (hA : ∀ c c', A c c' → c.actor = c'.actor ∧
      p.evaluator.bypassed subject c = p.evaluator.bypassed subject c')
    (hbegin : R Unit (p.recorder.begin o.compose a subject)
      (p.recorder.begin o'.compose a subject)) :
    R (Except PolicyError Unit) (p.before o a subject) (p.before o' a subject) := by
  let permitted : Run (Except PolicyError Unit) := Pure.pure (.ok ())
  have hbegun : R (Except PolicyError Unit)
      (p.recorder.begin o.compose a subject >>= fun _ => permitted)
      (p.recorder.begin o'.compose a subject >>= fun _ => permitted) :=
    hR.bind hbegin fun _ => hR.pure _
  refine hR.bind (hR.checkTarget hpermits hA) fun checked => ?_
  cases checked with
  | error d => exact hR.pure _
  | ok _ =>
      cases ha : Policy.checksAttributes a with
      | false => exact hbegun
      | true =>
          refine hR.bind (hR.checkAttributes hpermits hA a) fun checked => ?_
          cases checked with
          | error d => exact hR.pure _
          | ok _ => exact hbegun

/-- **Calls that ask for permission** are related if predicates are, and the beginnings of captures,
and runs that fail alike. -/
theorem asking {h : Host π μ}
    (hpanic : ∀ {α : Type} text, R α (Run.panic text) (Run.panic text))
    (hpermits : ∀ name p, h.policy? name = some p → ∀ rule ∈ p.evaluator.book.rules, ∀ r,
      R Bool (Evaluator.permits o.judge r rule) (Evaluator.permits o'.judge r rule))
    (hbegin : ∀ name p, h.policy? name = some p → ∀ a subject,
      R Unit (p.recorder.begin o.compose a subject) (p.recorder.begin o'.compose a subject))
    {c : Command} (hc : c.Asks)
    (hA : ∀ name p subject, c.policyName? = some name → h.policy? name = some p →
      c.subject? = some subject → ∀ x x', A x x' → x.actor = x'.actor ∧
        p.evaluator.bypassed subject x = p.evaluator.bypassed subject x') :
    R c.Answer (h.perform o c) (h.perform o' c) := by
  have hpolicy : ∀ {α : Type} (name : String) (f f' : Policy π μ → Run α),
      (∀ p, h.policy? name = some p → R α (f p) (f' p)) →
      R α (h.withPolicy name f) (h.withPolicy name f') := fun name f f' hf =>
    Host.withPolicy_rel (R := R _) name f f' hpanic hf
  cases c with
  | checkAction name a subject =>
      exact hpolicy name _ _ fun p hp =>
        hR.checkTarget (hpermits name p hp) (hA name p subject rfl hp rfl)
  | checkAttributes name a subject =>
      exact hpolicy name _ _ fun p hp =>
        hR.checkAttributes (hpermits name p hp) (hA name p subject rfl hp rfl) a
  | isGranted name a subject =>
      exact hpolicy name _ _ fun p hp =>
        hR.isGranted (hpermits name p hp) (hA name p subject rfl hp rfl) a
  | isAttributeGranted name changed subject =>
      exact hpolicy name _ _ fun p hp =>
        hR.isAttributeGranted (hpermits name p hp) (hA name p subject rfl hp rfl) changed
  | granted name subject actions attributes wanted =>
      exact hpolicy name _ _ fun p hp =>
        hR.granted (hpermits name p hp) (hA name p subject rfl hp rfl) actions attributes wanted
  | before name a subject =>
      exact hpolicy name _ _ fun p hp =>
        hR.before (hpermits name p hp) (hA name p subject rfl hp rfl) (hbegin name p hp a subject)
  | beforeAssociation name a relation subject associated =>
      exact hpolicy name _ _ fun p hp =>
        hR.bind (hR.checkTarget (hpermits name p hp) (hA name p subject rfl hp rfl)) fun _ =>
          hR.pure _
  | _ => exact hc.elim

end Run.Simulation

end LifecycleGuard
