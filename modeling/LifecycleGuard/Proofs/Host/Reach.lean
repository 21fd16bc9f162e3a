import LifecycleGuard.Host.Program
import LifecycleGuard.Proofs.Audit.Recorder
import LifecycleGuard.Proofs.Permission.Congruence

/-!
# What host code can bring about

Host code calls the library, which runs predicates and message rules, which are host code again.
`Reaches` is the list of everything that can happen to the work in the course of this, with one
rule for each way to change it.  It knows no programs and no depth of calls: a scope is entered and
left around anything that can happen, however that ends.

**Soundness.**  `Host.reaches_run` says that every program of a host, at every depth of calls, goes
by the rules, whether it ends or is interrupted.  What is to be shown about all runs can therefore
be shown by induction on `Reaches`, with one case for each rule.

**Where a call is taken down.**  A call is taken down together with the last thing that its
answering does, and what the library does besides is either host code or leaves the world as it
was.  So between two calls that are taken down one after the other, contexts lose and gain nothing
in flight, and nothing is written.
-/

namespace LifecycleGuard

/-- Answers that can be given without doing anything. -/
def Command.Idle : (c : Command) → c.Answer → Prop
  | .setActor _, _ => False
  | .reset, _ => False
  | .after .., _ => False
  | .abandon _, _ => False
  | .afterFind .., x => ∀ e, x ≠ Except.ok (some e)
  | _, _ => True

variable {π μ : Type}

/-- What can become of work that host code does. -/
inductive Reaches (h : Host π μ) : Work → Work → Prop where
  | refl (w : Work) : Reaches h w w
  | trans {w w₁ w₂ : Work} : Reaches h w w₁ → Reaches h w₁ w₂ → Reaches h w w₂
  /-- Events and labels are left. -/
  | aside (w : Work) (events : List Event) (labels : List String) :
      Reaches h w { w with events, labels }
  /-- Something happens within a scope. -/
  | scope (s : Scope) {w w₁ : Work} :
      Reaches h (w.entering s) w₁ → Reaches h w (w₁.leaving s w)
  /-- Something happens on another context. -/
  | turn (name : String) {w w₁ : Work} :
      Reaches h { w with current := name } w₁ → Reaches h w { w₁ with current := w.current }
  /-- A call is answered without doing anything more. -/
  | idle (w : Work) {c : Command} {x : c.Answer} : c.Idle x → Reaches h w (w.noting c x)
  | actor (w : Work) (a : Option Actor) :
      Reaches h w ((w.change fun c => c.withActor a).noting (.setActor a) ())
  | reset (w : Work) : Reaches h w ((w.change Context.reset).noting .reset ())
  /-- A mutation is permitted and captured, with the next identifier. -/
  | captured {name : String} {p : Policy π μ} {a : Action} {d : AuditDeclaration μ} (w : Work)
      (subject : Entity) (now : Instant) (actor : Option Actor) (message : Option String) :
      h.policy? name = some p → a.isMutation = true → p.audits.declaration? a = some d →
      Reaches h w ({ w.change (fun c => c.hold p.entityType (.unfinished (.ofSerial w.serial) now a
          subject actor (d.filter.apply subject.changes) message)) with
          serial := w.serial + 1 }.noting (.before name a subject) (Except.ok ()))
  /-- A capture is committed. -/
  | committed {name : String} {p : Policy π μ} {a : Action} {e : AuditEntry} (w : Work)
      (subject : Entity) (now : Instant) :
      h.policy? name = some p → w.context.inFlight.get? p.entityType = some e → e.action = a →
      Reaches h w ({ w.change (fun c => c.release p.entityType) with
          media := (p.store.receive (e.finished subject now) w.media).2 }.noting
        (.after name a subject)
        ((p.store.receive (e.finished subject now) w.media).1.mapError PolicyError.audit))
  /-- There is nothing to commit. -/
  | uncommitted {name : String} {p : Policy π μ} {a : Action} (w : Work) (subject : Entity) :
      h.policy? name = some p →
      (∀ e, w.context.inFlight.get? p.entityType = some e → e.action ≠ a) →
      Reaches h w (w.noting (.after name a subject) (Except.ok none))
  | abandoned {name : String} {p : Policy π μ} (w : Work) : h.policy? name = some p →
      Reaches h w ((w.change fun c => c.release p.entityType).noting (.abandon name) ())
  /-- A find is permitted and recorded, with the next identifier. -/
  | recorded {name : String} {p : Policy π μ} (w : Work) (subject : Entity) (now : Instant)
      (actor : Option Actor) (message : Option String) :
      h.policy? name = some p →
      Reaches h w ({ w with
          media := (p.store.receive (.found (.ofSerial w.serial) now subject actor message)
            w.media).2,
          serial := w.serial + 1 }.noting (.afterFind name subject)
        ((p.store.receive (.found (.ofSerial w.serial) now subject actor message)
          w.media).1.mapError PolicyError.audit))

/-! ## Runs that go by the rules -/

/-- A run goes by the rules, however it ends. -/
def Run.Obeys {α : Type} (h : Host π μ) (r : Run α) : Prop := ∀ w, Reaches h w (r w).2

namespace Run.Obeys

variable {h : Host π μ} {α β : Type}

theorem pure (x : α) : Obeys h (Pure.pure x : Run α) := fun w => .refl w

theorem panic (text : String) : Obeys h (Run.panic text : Run α) := fun w => .refl w

theorem tooDeep : Obeys h (Run.tooDeep : Run α) := fun w => .refl w

theorem context : Obeys h Run.context := fun w => .refl w

theorem note (e : Event) : Obeys h (Run.note e) := fun w =>
  .aside w (w.events ++ [e]) w.labels

theorem leaveLabel (text : String) : Obeys h (Run.leaveLabel text) := fun w =>
  .aside w w.events (w.labels ++ [text])

theorem bind {r : Run α} {f : α → Run β} (hr : Obeys h r) (hf : ∀ x, Obeys h (f x)) :
    Obeys h (r >>= f) := by
  intro w
  have hfirst := hr w
  rcases hrun : r w with ⟨i | x, w₁⟩
  · rw [Run.bind_of_error hrun]
    rw [hrun] at hfirst
    exact hfirst
  · rw [Run.bind_of_ok hrun]
    rw [hrun] at hfirst
    exact hfirst.trans (hf x w₁)

theorem within (s : Scope) {r : Run α} (hr : Obeys h r) : Obeys h (Run.within s r) := fun w =>
  .scope s (hr (w.entering s))

theorem on (name : String) {r : Run α} (hr : Obeys h r) : Obeys h (Run.on name r) := fun w =>
  .turn name (hr { w with current := name })

theorem attempt {r : Run α} (hr : Obeys h r) : Obeys h (Run.attempt r) := by
  intro w
  have hfirst := hr w
  rw [Run.attempt]
  rcases hrun : r w with ⟨i | x, w₁⟩
  · rw [hrun] at hfirst
    cases i with
    | panic text => exact hfirst
    | tooDeep => exact hfirst
  · rw [hrun] at hfirst
    exact hfirst

/-- A call that nothing more is done for can be taken down when it is answered. -/
theorem answering {c : Command} {r : Run c.Answer} (hr : Obeys h r) (hc : ∀ x, c.Idle x) :
    Obeys h (Run.answering c r) := by
  intro w
  have hfirst := hr w
  rcases hrun : r w with ⟨i | x, w₁⟩
  · rw [Run.answering_of_error hrun]
    rw [hrun] at hfirst
    exact hfirst
  · rw [Run.answering_of_ok hrun]
    rw [hrun] at hfirst
    exact hfirst.trans (.idle w₁ (hc x))

/-- A call is taken down after the last step of the work that answers it. -/
theorem answering_bind {c : Command} {r : Run α} {f : α → Run c.Answer} (hr : Obeys h r)
    (hf : ∀ x, Obeys h (Run.answering c (f x))) : Obeys h (Run.answering c (r >>= f)) := by
  rw [Run.answering_bind]
  exact .bind hr hf

end Run.Obeys

theorem reaches_answering {h : Host π μ} {c : Command} {r : Run c.Answer} {w w₁ : Work}
    {x : c.Answer} (hr : r w = (.ok x, w₁)) (hreach : Reaches h w (w₁.noting c x)) :
    Reaches h w (Run.answering c r w).2 := by
  rw [Run.answering_of_ok hr]
  exact hreach

/-! ## The library -/

open Run

section Library

variable {h : Host π μ} {o : Oracle π μ}

section Recording

variable (hc : ∀ m subject actor, Obeys h (o.compose m subject actor))

include hc

theorem obeys_composed (message : Option μ) (subject : Entity) (actor : Option Actor) :
    Obeys h (Recorder.composed o.compose message subject actor) := by
  cases message with
  | none => exact .pure none
  | some m => exact .bind (.within .enforcement (hc m subject actor)) fun _ => .pure _

omit hc in
/-- The declaration that applies is the one in the book. -/
theorem activeDeclaration_bind {α : Type} (r : Recorder μ) (a : Action) (subject : Entity)
    {f : Option (AuditDeclaration μ) → Run α} (hnone : Obeys h (f none))
    (hsome : ∀ d, r.book.declaration? a = some d → Obeys h (f (some d))) :
    Obeys h (r.activeDeclaration? a subject >>= f) := by
  rw [Recorder.activeDeclaration?, Run.bind_assoc]
  refine .bind .context fun c => ?_
  cases r.bypassed subject c with
  | true =>
      show Obeys h ((Run.note _ >>= fun _ => Pure.pure none) >>= f)
      rw [Run.bind_assoc]
      exact .bind (.note _) fun _ => hnone
  | false =>
      show Obeys h (f (r.book.declaration? a))
      cases hd : r.book.declaration? a with
      | none => exact hnone
      | some d => exact hsome d hd

/-- A mutation that is permitted is captured, if anything is. -/
theorem obeys_answering_begin {name : String} {p : Policy π μ} (hp : h.policy? name = some p)
    (a : Action) (subject : Entity) :
    Obeys h (Run.answering (.before name a subject)
      (p.recorder.begin o.compose a subject >>= fun _ => Pure.pure (Except.ok ()))) := by
  have hidle : Obeys h (Run.answering (.before name a subject) (Pure.pure (Except.ok ()))) :=
    .answering (.pure _) fun _ => trivial
  rw [Recorder.begin]
  cases ha : a.isMutation with
  | false => exact hidle
  | true =>
      simp only [Bool.not_true, Bool.false_eq_true, if_false]
      rw [Run.bind_assoc, Run.answering_bind]
      refine activeDeclaration_bind _ a subject hidle fun d hd => ?_
      simp only [Run.bind_assoc]
      refine .answering_bind .context fun c => ?_
      refine .answering_bind (obeys_composed hc _ _ _) fun message => ?_
      intro w
      obtain ⟨events, hpark⟩ := p.recorder.park_apply d a subject c.actor message w
      refine reaches_answering (Run.bind_of_ok hpark _) ?_
      exact (Reaches.aside w events w.labels).trans
        (.captured _ subject _ c.actor message hp ha hd)

/-- A find that is permitted is recorded, if anything is. -/
theorem obeys_answering_record {name : String} {p : Policy π μ} (hp : h.policy? name = some p)
    (subject : Entity) :
    Obeys h (Run.answering (.afterFind name subject)
      (p.recorder.record o.compose subject >>= fun x =>
        Pure.pure (x.mapError PolicyError.audit))) := by
  rw [Recorder.record, Run.bind_assoc, Run.answering_bind]
  refine activeDeclaration_bind _ .find subject ?_ fun d _ => ?_
  · intro w
    exact .idle w fun e he => by cases he
  · simp only [Run.bind_assoc]
    refine .answering_bind .context fun c => ?_
    refine .answering_bind (obeys_composed hc _ _ _) fun message => ?_
    intro w
    obtain ⟨events, hconclude⟩ := p.recorder.conclude_apply subject c.actor message w
    refine reaches_answering (Run.bind_of_ok hconclude _) ?_
    exact (Reaches.aside w events w.labels).trans (.recorded _ subject _ c.actor message hp)

end Recording

theorem obeys_answering_after {name : String} {p : Policy π μ} (hp : h.policy? name = some p)
    (a : Action) (subject : Entity) :
    Obeys h (Run.answering (.after name a subject) (p.after a subject)) := by
  intro w
  cases hslot : w.context.inFlight.get? p.entityType with
  | none =>
      refine reaches_answering (Run.bind_of_ok (p.recorder.commit_of_none subject hslot) _) ?_
      refine .uncommitted w subject hp fun e he => ?_
      rw [hslot] at he
      cases he
  | some e =>
      by_cases ha : e.action = a
      · obtain ⟨events, hcommit⟩ := p.recorder.commit_of_some subject hslot ha
        refine reaches_answering (Run.bind_of_ok hcommit _) ?_
        exact (Reaches.aside w events w.labels).trans
          (.committed _ subject w.now hp hslot ha)
      · obtain ⟨events, hcommit⟩ := p.recorder.commit_of_other subject hslot ha
        refine reaches_answering (Run.bind_of_ok hcommit _) ?_
        refine (Reaches.aside w events w.labels).trans
          (.uncommitted _ subject hp fun e' he' => ?_)
        have hsame : e = e' := Option.some.inj (hslot.symm.trans he')
        exact hsame ▸ ha

theorem obeys_answering_abandon {name : String} {p : Policy π μ} (hp : h.policy? name = some p) :
    Obeys h (Run.answering (.abandon name) p.abandon) := by
  intro w
  obtain ⟨events, habandon⟩ := Run.abandon_apply p.entityType w
  refine reaches_answering habandon ?_
  exact (Reaches.aside w events w.labels).trans (.abandoned _ hp)

/-! ## Calls and programs -/

/-- The host code of policies goes by the rules. -/
structure Oracle.Obeys (h : Host π μ) (o : Oracle π μ) : Prop where
  judge : ∀ p r, Run.Obeys h (o.judge p r)
  compose : ∀ m subject actor, Run.Obeys h (o.compose m subject actor)

/-- To go by the rules, as a relation between runs that looks at one of them only. -/
def OneObeys (h : Host π μ) (α : Type) (r _ : Run α) : Prop := Obeys h r

theorem congruence_oneObeys : Congruence (OneObeys h) where
  pure := .pure
  context := .context
  note := .note
  bind := .bind

/-- A rule is asked within a scope. -/
theorem obeys_permits (ho : o.Obeys h) (p : Policy π μ) :
    ∀ rule ∈ p.evaluator.book.rules, ∀ r, OneObeys h Bool (Evaluator.permits o.judge r rule)
      (Evaluator.permits o.judge r rule) :=
  fun rule _ r => Obeys.within .enforcement (ho.judge rule.predicate r)

/-- To call a policy that does not exist does nothing. -/
theorem obeys_withPolicy {c : Command} (name : String) {f : Policy π μ → Run c.Answer}
    (hf : ∀ p, h.policy? name = some p → Obeys h (Run.answering c (f p))) :
    Obeys h (Run.answering c (h.withPolicy name f)) :=
  Host.withPolicy_rel (R := fun r _ => Obeys h (Run.answering c r)) name f f
    (fun _ w => .refl w) hf

theorem obeys_answering_before (ho : o.Obeys h) {name : String} {p : Policy π μ}
    (hp : h.policy? name = some p) (a : Action) (subject : Entity) :
    Obeys h (Run.answering (.before name a subject) (p.before o a subject)) := by
  have hanswer : ∀ x : Except PolicyError Unit,
      Obeys h (Run.answering (.before name a subject) (Pure.pure x)) := fun x =>
    .answering (.pure x) fun _ => trivial
  refine .answering_bind (congruence_oneObeys.checkTarget (obeys_permits ho p)) fun checked => ?_
  cases checked with
  | error d => exact hanswer _
  | ok _ =>
      have hbegin := obeys_answering_begin ho.compose hp a subject
      cases ha : Policy.checksAttributes a with
      | false => exact hbegin
      | true =>
          have hcheck := congruence_oneObeys.checkAttributes (obeys_permits ho p) a subject
          refine .answering_bind hcheck fun checked => ?_
          cases checked with
          | error d => exact hanswer _
          | ok _ => exact hbegin

theorem obeys_answering_afterFind (ho : o.Obeys h) {name : String} {p : Policy π μ}
    (hp : h.policy? name = some p) (subject : Entity) :
    Obeys h (Run.answering (.afterFind name subject) (p.afterFind o subject)) := by
  refine .answering_bind (congruence_oneObeys.checkTarget (obeys_permits ho p)) fun checked => ?_
  cases checked with
  | error d => exact fun w => .idle w fun e he => by cases he
  | ok _ => exact obeys_answering_record ho.compose hp subject

theorem obeys_answering_perform (ho : o.Obeys h) (c : Command) :
    Obeys h (Run.answering c (h.perform o c)) := by
  cases c with
  | actor => exact .answering (.bind .context fun _ => .pure _) fun _ => trivial
  | isEnforcing => exact .answering (.bind .context fun _ => .pure _) fun _ => trivial
  | isAuditing => exact .answering (.bind .context fun _ => .pure _) fun _ => trivial
  | isSecurityBypassed type => exact .answering (.bind .context fun _ => .pure _) fun _ => trivial
  | isAuditBypassed type => exact .answering (.bind .context fun _ => .pure _) fun _ => trivial
  | hasInFlight type => exact .answering (.bind .context fun _ => .pure _) fun _ => trivial
  | setActor a => exact fun w => .actor w a
  | reset => exact fun w => .reset w
  | label text => exact .answering (.leaveLabel text) fun _ => trivial
  | checkAction name a subject =>
      exact obeys_withPolicy name fun p _ =>
        .answering (congruence_oneObeys.checkTarget (obeys_permits ho p)) fun _ => trivial
  | checkAttributes name a subject =>
      exact obeys_withPolicy name fun p _ =>
        .answering (congruence_oneObeys.checkAttributes (obeys_permits ho p) a subject)
          fun _ => trivial
  | isGranted name a subject =>
      exact obeys_withPolicy name fun p _ =>
        .answering (congruence_oneObeys.isGranted (obeys_permits ho p) a subject) fun _ => trivial
  | isAttributeGranted name changed subject =>
      exact obeys_withPolicy name fun p _ =>
        .answering (congruence_oneObeys.isAttributeGranted (obeys_permits ho p) changed subject)
          fun _ => trivial
  | granted name subject actions attributes wanted =>
      exact obeys_withPolicy name fun p _ =>
        .answering
          (congruence_oneObeys.granted (obeys_permits ho p) subject actions attributes wanted)
          fun _ => trivial
  | before name a subject =>
      exact obeys_withPolicy name fun p hp => obeys_answering_before ho hp a subject
  | after name a subject =>
      exact obeys_withPolicy name fun p hp => obeys_answering_after hp a subject
  | abandon name => exact obeys_withPolicy name fun p hp => obeys_answering_abandon hp
  | afterFind name subject =>
      exact obeys_withPolicy name fun p hp => obeys_answering_afterFind ho hp subject
  | beforeAssociation name a relation subject associated =>
      exact obeys_withPolicy name fun p _ =>
        .answering (.bind (congruence_oneObeys.checkTarget (obeys_permits ho p)) fun _ => .pure _)
          fun _ => trivial

/-- A program goes by the rules if the host code that its calls run does. -/
theorem obeys_program (ho : o.Obeys h) {α : Type} (p : Program α) :
    Obeys h (p.run (h.perform o)) := by
  induction p with
  | done x => exact .pure x
  | panic text => exact .panic text
  | ask c k ih => exact .bind (obeys_answering_perform ho c) ih
  | attempt p k ihp ihk => exact .bind (.attempt ihp) ihk
  | within s p k ihp ihk => exact .bind (.within s ihp) ihk
  | on name p k ihp ihk => exact .bind (.on name ihp) ihk

end Library

namespace Host

variable (h : Host π μ)

theorem obeys_oracle : ∀ depth, (h.oracle depth).Obeys h
  | 0 => ⟨fun _ _ => .tooDeep, fun _ _ _ => .tooDeep⟩
  | depth + 1 =>
    ⟨fun p r => obeys_program (obeys_oracle depth) (h.judge p r),
      fun m subject actor => obeys_program (obeys_oracle depth) (h.compose m subject actor)⟩

/-- **What a program of the host brings about is what can happen.** -/
theorem reaches_run (depth : Nat) {α : Type} (p : Program α) (w : Work) :
    Reaches h w (h.run depth p w).2 :=
  obeys_program (h.obeys_oracle depth) p w

end Host

end LifecycleGuard
