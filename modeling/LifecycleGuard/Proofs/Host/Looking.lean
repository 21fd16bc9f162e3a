import LifecycleGuard.Proofs.Host.Unchecked
import LifecycleGuard.Proofs.Work.Steady

/-!
# Host code that only looks

Host code may change the context that it is given, and may turn to others.  Code that does neither
is the usual case, and it can still call policies: with enforcement off, which it is wherever host
code is called by the library, such a call finds nothing to object to and captures nothing.

**Calls.**  `Command.Looks` leaves out the calls that are made to change the context.  What comes of
any other is read off the context where enforcement is off (`steady_perform`).

**Programs.**  A program that `Looks` makes such calls only, on its own context.  Then it is steady
where enforcement is off (`steady_program`), whatever the policies that it calls have for rules.  So
is a predicate or a message rule with such a program (`Host.steady_judge`, `Host.steady_compose`).
-/

namespace LifecycleGuard

variable {π μ : Type}

/-- A call that is not made to change the context. -/
def Command.Looks : Command → Prop
  | setActor _ => False
  | reset => False
  | after .. => False
  | abandon _ => False
  | _ => True

/-- A program that keeps to its context and does not change it. -/
def Program.Looks {α : Type} : Program α → Prop
  | .done _ => True
  | .panic _ => True
  | .ask c k => c.Looks ∧ ∀ x, (k x).Looks
  | .attempt p k => p.Looks ∧ ∀ x, (k x).Looks
  | .within _ p k => p.Looks ∧ ∀ x, (k x).Looks
  | .on .. => False

namespace Run.SteadyIn

open Context

variable {h : Host π μ}

/-- A policy of a name is there or not, whatever the context is. -/
theorem withPolicy {α : Type} (name : String) {f : Policy π μ → Run α}
    (hf : ∀ p, SteadyIn Unenforced (f p)) : SteadyIn Unenforced (h.withPolicy name f) :=
  Host.withPolicy_rel (R := fun r _ => SteadyIn Unenforced r) name f f (fun _ => .panic _)
    fun p _ => hf p

/-- A run that reports events and has the same answer wherever enforcement is off. -/
theorem of_answer {α : Type} {r : Run α} (x : α)
    (hr : ∀ w : Work, w.context.enforcing = false → ∃ events, r w = (.ok x, { w with events })) :
    SteadyIn Unenforced r :=
  of_aside (fun _ => .ok x) fun w hw => by
    obtain ⟨events, hrun⟩ := hr w hw
    exact ⟨events, w.labels, hrun⟩

end Run.SteadyIn

open Run Context

/-- **A call that only looks** is answered from the context, where enforcement is off. -/
theorem steady_perform {h : Host π μ} (o : Oracle π μ) {c : Command} (hc : c.Looks) :
    SteadyIn Unenforced (h.perform o c) := by
  have hunasked : ∀ (p : Policy π μ) (subject : Entity) {w : Work}, w.context.enforcing = false →
      Evaluator.Unasked p.evaluator.entityType subject w.context := fun _ _ _ hoff => .inl hoff
  cases c with
  | actor => exact .bind .context fun c => .pure c.actor
  | isEnforcing => exact .bind .context fun c => .pure c.enforcing
  | isAuditing => exact .bind .context fun c => .pure c.auditing
  | isSecurityBypassed type => exact .bind .context fun c => .pure (c.isSecurityBypassed type)
  | isAuditBypassed type => exact .bind .context fun c => .pure (c.isAuditBypassed type)
  | hasInFlight type => exact .bind .context fun c => .pure (c.hasInFlight type)
  | label text => exact .of_aside (fun _ => .ok ()) fun w _ => ⟨w.events, w.labels ++ [text], rfl⟩
  | checkAction name a subject =>
      exact .withPolicy name fun p => .of_answer (.ok ()) fun w hoff =>
        ⟨_, Evaluator.checkTarget_of_unasked (hunasked p subject hoff)⟩
  | checkAttributes name a subject =>
      refine .withPolicy name fun p => .of_answer (.ok ()) fun w hoff => ?_
      obtain ⟨events, hcheck⟩ := Evaluator.checkAttributes_of_unasked (hunasked p subject hoff) a
      exact ⟨events, hcheck o.judge⟩
  | isGranted name a subject =>
      exact .withPolicy name fun p => .of_answer true fun w hoff =>
        ⟨w.events, Evaluator.isGranted_of_unasked (hunasked p subject hoff) o.judge a⟩
  | isAttributeGranted name changed subject =>
      exact .withPolicy name fun p => .of_answer true fun w hoff =>
        ⟨w.events,
          Evaluator.isAttributeGranted_of_unasked (hunasked p subject hoff) o.judge changed⟩
  | granted name subject actions attributes wanted =>
      exact .withPolicy name fun p => .of_answer _ fun w hoff =>
        ⟨w.events, Evaluator.granted_of_unasked (hunasked p subject hoff) o.judge actions attributes
          wanted⟩
  | before name a subject =>
      refine .withPolicy name fun p => .of_answer (.ok ()) fun w hoff => ?_
      obtain ⟨events, hbefore⟩ := before_of_off hoff p a subject
      exact ⟨events, hbefore o⟩
  | afterFind name subject =>
      refine .withPolicy name fun p => .of_answer (.ok none) fun w hoff => ?_
      obtain ⟨events, hafterFind⟩ := afterFind_of_off hoff p subject
      exact ⟨events, hafterFind o⟩
  | beforeAssociation name a relation subject associated =>
      exact .withPolicy name fun p => .bind (.of_answer (.ok ()) fun w hoff =>
        ⟨_, Evaluator.checkTarget_of_unasked (hunasked p subject hoff)⟩) fun _ => .pure _
  | setActor a => exact hc.elim
  | reset => exact hc.elim
  | after name a subject => exact hc.elim
  | abandon name => exact hc.elim

/-- **A program that only looks** is steady where enforcement is off. -/
theorem steady_program {h : Host π μ} (o : Oracle π μ) {α : Type} {p : Program α} (hp : p.Looks) :
    SteadyIn Unenforced (p.run (h.perform o)) := by
  induction p with
  | done x => exact .pure x
  | panic text => exact .panic text
  | ask c k ih => exact .bind (.answering (steady_perform o hp.1)) fun x => ih x (hp.2 x)
  | attempt p k ihp ihk => exact .bind (.attempt (ihp hp.1)) fun x => ihk x (hp.2 x)
  | within s p k ihp ihk =>
      exact .bind (.within (ihp hp.1) fun _ hc => s.off_enter hc) fun x => ihk x (hp.2 x)
  | on name p k ihp ihk => exact hp.elim

namespace Host

variable (h : Host π μ)

/-- A predicate whose program only looks is steady, however deeply calls may nest. -/
theorem steady_judge {q : π} {r : Request} (hq : (h.judge q r).Looks) :
    ∀ depth, SteadyIn Unenforced ((h.oracle depth).judge q r)
  | 0 => .tooDeep
  | depth + 1 => steady_program (h.oracle depth) hq

theorem steady_compose {m : μ} {subject : Entity} {actor : Option Actor}
    (hm : (h.compose m subject actor).Looks) :
    ∀ depth, SteadyIn Unenforced ((h.oracle depth).compose m subject actor)
  | 0 => .tooDeep
  | depth + 1 => steady_program (h.oracle depth) hm

end Host

end LifecycleGuard
