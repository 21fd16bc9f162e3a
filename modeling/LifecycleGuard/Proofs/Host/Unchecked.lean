import LifecycleGuard.Proofs.Host.Asking
import LifecycleGuard.Proofs.Host.Trace
import LifecycleGuard.Proofs.Permission.Attributes

/-!
# Work with enforcement off

Where enforcement is off, the library asks nobody: checks succeed, questions are answered with yes,
and nothing is captured.  So it does not matter there what predicates and message rules mean.

**One call.**  `Spared` says what comes of a call that is made with enforcement off, and
`perform_of_off` that it comes of it whatever host code means.

**A program.**  A program that `Stays` keeps to its context and does not reset it.  Then it keeps
enforcement off, and all of its calls are spared.  `run_of_off` says so by induction on the
program.  Its result is the same however the calls would be answered that are not made with
enforcement off, because it makes none.
-/

namespace LifecycleGuard

variable {π μ : Type}

/-! ## Calls -/

namespace Command

/-- The policy that is called is there. -/
def Resolved (h : Host π μ) (c : Command) : Prop :=
  ∀ name, c.policyName? = some name → ∃ p, h.policy? name = some p

/-- Nothing is objected to, and nothing is recorded. -/
def Permits (h : Host π μ) : (c : Command) → c.Answer → Prop
  | checkAction .., x => x = Except.ok ()
  | checkAttributes .., x => x = Except.ok ()
  | isGranted .., x => x = true
  | isAttributeGranted .., x => x = true
  | granted name _ actions attributes wanted, x => ∃ p, h.policy? name = some p ∧
      x = if wanted then
        (if actions.isEmpty then Evaluator.actionsByName else actions,
          if attributes.isEmpty then p.rules.knownAttributes else attributes)
      else ([], [])
  | before .., x => x = Except.ok ()
  | afterFind .., x => x = Except.ok none
  | beforeAssociation .., x => x = Except.ok ()
  | _, _ => True

/-- A call that neither ends nor drops a capture. -/
def Quiet : Command → Prop
  | reset => False
  | after .. => False
  | abandon _ => False
  | _ => True

end Command

/-- What comes of a call that is made with enforcement off. -/
structure Spared (h : Host π μ) (c : Command) (w : Work) (y : Except Interrupt c.Answer × Work) :
    Prop where
  ends : y.1 ≠ .error .tooDeep
  answered : c.Resolved h → ∃ x, y.1 = .ok x
  permits : ∀ x, y.1 = .ok x → c.Permits h x
  unchanged : ∀ i, y.1 = .error i → y.2 = w
  /-- Nothing is captured, persisted or dropped. -/
  ledger : c.Quiet → y.2.ledger = w.ledger
  calls : y.2.calls = w.calls
  current : y.2.current = w.current
  off : y.2.context.enforcing = false

namespace Spared

variable {h : Host π μ} {c : Command} {w : Work}

/-- A call that is answered and leaves no more than events and labels. -/
theorem of_aside {x : c.Answer} (hx : c.Permits h x) (hoff : w.context.enforcing = false)
    (events : List Event) (labels : List String) :
    Spared h c w (.ok x, { w with events, labels }) where
  ends := by simp
  answered := fun _ => ⟨x, rfl⟩
  permits := fun _ hy => Except.ok.inj hy ▸ hx
  unchanged := fun _ hy => by cases hy
  ledger := fun _ => rfl
  calls := rfl
  current := rfl
  off := hoff

/-- A call of a policy that is not there. -/
theorem of_missing {name : String} (hname : c.policyName? = some name)
    (hnone : h.policy? name = none) (hoff : w.context.enforcing = false) (text : String) :
    Spared h c w (.error (.panic text), w) where
  ends := by simp
  answered := fun hresolved => by
    obtain ⟨p, hp⟩ := hresolved name hname
    rw [hnone] at hp
    cases hp
  permits := fun _ hy => by cases hy
  unchanged := fun _ _ => rfl
  ledger := fun _ => rfl
  calls := rfl
  current := rfl
  off := hoff

/-- A call that changes nothing of the context but what is in flight, or the actor. -/
theorem of_change {x : c.Answer} (hx : c.Permits h x) (hoff : w.context.enforcing = false)
    (f : Context → Context) (hf : (f w.context).enforcing = w.context.enforcing)
    (hledger : c.Quiet → (w.change f).ledger = w.ledger) (media : Media)
    (hmedia : c.Quiet → media = w.media) (events : List Event) :
    Spared h c w (.ok x, { w.change f with media, events }) where
  ends := by simp
  answered := fun _ => ⟨x, rfl⟩
  permits := fun _ hy => Except.ok.inj hy ▸ hx
  unchanged := fun _ hy => by cases hy
  ledger := fun hq => by
    have hsame : (w.change f).ledger.inFlight = w.ledger.inFlight :=
      congrArg Ledger.inFlight (hledger hq)
    exact Ledger.ext hsame (hmedia hq)
  calls := rfl
  current := rfl
  off := by
    show (w.change f).context.enforcing = false
    rw [Work.context_change, hf, hoff]

end Spared

/-! ## One call -/

section Call

variable {h : Host π μ} {w : Work} (hoff : w.context.enforcing = false)

include hoff

/-- Where enforcement is off, nothing is captured. -/
theorem applicable?_of_off (r : Recorder μ) (a : Action) (subject : Entity) :
    r.applicable? a subject w.context = none := by
  have hbypassed : r.bypassed subject w.context = true := by
    simp [Recorder.bypassed, Context.isAuditBypassed, hoff]
  rw [Recorder.applicable?, if_pos hbypassed]

theorem before_of_off (p : Policy π μ) (a : Action) (subject : Entity) :
    ∃ events, ∀ o, p.before o a subject w = (.ok (.ok ()), { w with events }) := by
  have hunasked : Evaluator.Unasked p.evaluator.entityType subject w.context := .inl hoff
  obtain ⟨events₁, hcheck⟩ : ∃ events, ∀ judge, p.evaluator.checkAction judge a subject w
      = (.ok (.ok ()), { w with events }) := ⟨_, fun _ => Evaluator.checkTarget_of_unasked hunasked⟩
  have hbegin := fun events => Recorder.begin_of_none p.recorder
    (applicable?_of_off (w := { w with events }) hoff p.recorder a subject)
  cases ha : Policy.checksAttributes a with
  | false =>
      obtain ⟨events₂, hbegin⟩ := hbegin events₁
      refine ⟨events₂, fun o => ?_⟩
      rw [Policy.before, ha]
      refine (Run.bind_of_ok (hcheck o.judge) _).trans ?_
      exact Run.bind_of_ok (hbegin o.compose) _
  | true =>
      obtain ⟨events₂, hattributes⟩ := Evaluator.checkAttributes_of_unasked
        (w := { w with events := events₁ }) hunasked a
      obtain ⟨events₃, hbegin⟩ := hbegin events₂
      refine ⟨events₃, fun o => ?_⟩
      rw [Policy.before, ha]
      refine (Run.bind_of_ok (hcheck o.judge) _).trans ?_
      refine (Run.bind_of_ok (hattributes o.judge) _).trans ?_
      exact Run.bind_of_ok (hbegin o.compose) _

theorem afterFind_of_off (p : Policy π μ) (subject : Entity) :
    ∃ events, ∀ o, p.afterFind o subject w = (.ok (.ok none), { w with events }) := by
  have hunasked : Evaluator.Unasked p.evaluator.entityType subject w.context := .inl hoff
  obtain ⟨events₁, hcheck⟩ : ∃ events, ∀ judge, p.evaluator.checkAction judge .find subject w
      = (.ok (.ok ()), { w with events }) := ⟨_, fun _ => Evaluator.checkTarget_of_unasked hunasked⟩
  obtain ⟨events₂, hrecord⟩ := Recorder.record_of_none p.recorder
    (applicable?_of_off (w := { w with events := events₁ }) hoff p.recorder .find subject)
  refine ⟨events₂, fun o => ?_⟩
  refine (Run.bind_of_ok (hcheck o.judge) _).trans ?_
  exact Run.bind_of_ok (hrecord o.compose) _

/-- A call that is answered without asking anybody. -/
theorem spared_of_aside {c : Command} {r : Oracle π μ → Run c.Answer} {x : c.Answer}
    {events : List Event} {labels : List String}
    (hr : ∀ o, r o w = (.ok x, { w with events, labels })) (hx : c.Permits h x) :
    ∃ y, (∀ o, r o w = y) ∧ Spared h c w y :=
  ⟨_, hr, .of_aside hx hoff events labels⟩

/-- A call of a policy comes to the same whatever host code means, if it does so of every policy. -/
theorem spared_withPolicy {c : Command} {name : String} (hname : c.policyName? = some name)
    {f : Oracle π μ → Policy π μ → Run c.Answer}
    (hf : ∀ p, h.policy? name = some p → ∃ y, (∀ o, f o p w = y) ∧ Spared h c w y) :
    ∃ y, (∀ o, h.withPolicy name (f o) w = y) ∧ Spared h c w y := by
  unfold Host.withPolicy
  cases hp : h.policy? name with
  | none => exact ⟨_, fun _ => rfl, .of_missing hname hp hoff _⟩
  | some p => exact hf p hp

/-- A commit asks nobody at all; it keeps enforcement off. -/
theorem spared_after {name : String} (p : Policy π μ) (a : Action) (subject : Entity) :
    ∃ y, (∀ _ : Oracle π μ, p.after a subject w = y) ∧ Spared h (.after name a subject) w y := by
  have hpermits : ∀ x, (Command.after name a subject).Permits h x := fun _ => trivial
  refine ⟨_, fun _ => rfl, ?_⟩
  cases hslot : w.context.inFlight.get? p.entityType with
  | none =>
      rw [Policy.after, Run.bind_of_ok (p.recorder.commit_of_none subject hslot)]
      exact .of_aside (hpermits _) hoff w.events w.labels
  | some e =>
      by_cases ha : e.action = a
      · obtain ⟨events, hcommit⟩ := p.recorder.commit_of_some subject hslot ha
        rw [Policy.after, Run.bind_of_ok hcommit]
        exact .of_change (hpermits _) hoff (fun c => c.release p.entityType) rfl False.elim _
          False.elim events
      · obtain ⟨events, hcommit⟩ := p.recorder.commit_of_other subject hslot ha
        rw [Policy.after, Run.bind_of_ok hcommit]
        exact .of_aside (hpermits _) hoff events w.labels

/-- So does giving up. -/
theorem spared_abandon {name : String} (p : Policy π μ) :
    ∃ y, (∀ _ : Oracle π μ, p.abandon w = y) ∧ Spared h (.abandon name) w y := by
  obtain ⟨events, habandon⟩ := Run.abandon_apply p.entityType w
  have hpermits : (Command.abandon name).Permits h () := trivial
  refine ⟨_, fun _ => habandon, ?_⟩
  exact .of_change hpermits hoff (fun c => c.release p.entityType) rfl False.elim w.media
    False.elim events

/-- **A call that is made with enforcement off** comes to the same whatever host code means. -/
theorem perform_of_off {c : Command} (hreset : c ≠ .reset) :
    ∃ y, (∀ o, h.perform o c w = y) ∧ Spared h c w y := by
  have hunasked : ∀ (p : Policy π μ) (subject : Entity),
      Evaluator.Unasked p.evaluator.entityType subject w.context := fun _ _ => .inl hoff
  cases c with
  | actor => exact spared_of_aside hoff (fun _ => rfl) trivial
  | isEnforcing => exact spared_of_aside hoff (fun _ => rfl) trivial
  | isAuditing => exact spared_of_aside hoff (fun _ => rfl) trivial
  | isSecurityBypassed type => exact spared_of_aside hoff (fun _ => rfl) trivial
  | isAuditBypassed type => exact spared_of_aside hoff (fun _ => rfl) trivial
  | hasInFlight type => exact spared_of_aside hoff (fun _ => rfl) trivial
  | setActor a =>
      have hpermits : (Command.setActor a).Permits h () := trivial
      exact ⟨_, fun _ => rfl, .of_change hpermits hoff (fun c => c.withActor a) rfl
        (fun _ => w.ledger_withActor a) w.media (fun _ => rfl) w.events⟩
  | reset => exact absurd rfl hreset
  | label text => exact spared_of_aside hoff (fun _ => rfl) trivial
  | checkAction name a subject =>
      exact spared_withPolicy hoff rfl fun p _ =>
        spared_of_aside hoff (fun o => Evaluator.checkTarget_of_unasked (hunasked p subject)) rfl
  | checkAttributes name a subject =>
      refine spared_withPolicy hoff rfl fun p _ => ?_
      obtain ⟨events, hcheck⟩ := Evaluator.checkAttributes_of_unasked (hunasked p subject) a
      exact spared_of_aside hoff (fun o => hcheck o.judge) rfl
  | isGranted name a subject =>
      exact spared_withPolicy hoff rfl fun p _ => spared_of_aside hoff
        (fun o => Evaluator.isGranted_of_unasked (hunasked p subject) o.judge a) rfl
  | isAttributeGranted name changed subject =>
      exact spared_withPolicy hoff rfl fun p _ => spared_of_aside hoff
        (fun o => Evaluator.isAttributeGranted_of_unasked (hunasked p subject) o.judge changed) rfl
  | granted name subject actions attributes wanted =>
      exact spared_withPolicy hoff rfl fun p hp => spared_of_aside hoff
        (fun o => Evaluator.granted_of_unasked (hunasked p subject) o.judge actions attributes
          wanted) ⟨p, hp, rfl⟩
  | before name a subject =>
      refine spared_withPolicy hoff rfl fun p _ => ?_
      obtain ⟨events, hbefore⟩ := before_of_off hoff p a subject
      exact spared_of_aside hoff hbefore rfl
  | after name a subject =>
      exact spared_withPolicy hoff rfl fun p _ => spared_after hoff p a subject
  | abandon name => exact spared_withPolicy hoff rfl fun p _ => spared_abandon hoff p
  | afterFind name subject =>
      refine spared_withPolicy hoff rfl fun p _ => ?_
      obtain ⟨events, hafterFind⟩ := afterFind_of_off hoff p subject
      exact spared_of_aside hoff hafterFind rfl
  | beforeAssociation name a relation subject associated =>
      refine spared_withPolicy hoff rfl fun p _ => ?_
      have hcheck : ∀ o : Oracle π μ, p.beforeAssociation o a relation subject associated w = _ :=
        fun o => Run.bind_of_ok (Evaluator.checkTarget_of_unasked (hunasked p subject)) _
      exact spared_of_aside hoff hcheck rfl

end Call

/-! ## Scopes -/

namespace Scope

variable (s : Scope) {c c₁ : Context}

theorem off_enter (hc : c.enforcing = false) : (s.enter c).2.enforcing = false := by
  cases s with
  | enforcement => rfl
  | audit => exact hc
  | securityOf type => exact hc
  | auditOf type => exact hc

theorem off_leave (hc : c.enforcing = false) (hc₁ : c₁.enforcing = false) :
    (s.leave (s.enter c).1 c₁).enforcing = false := by
  cases s with
  | enforcement => exact hc
  | audit => exact hc₁
  | securityOf type =>
      rw [leave]
      split <;> exact hc₁
  | auditOf type =>
      rw [leave]
      split <;> exact hc₁

end Scope

/-! ## The calls of a program -/

/-- A call that was made with enforcement off, after a ledger: nothing is objected to, and unless
the call is to end or to drop a capture, nothing is recorded. -/
structure Call.Unnoticed (h : Host π μ) (l : Ledger) (c : Call) : Prop where
  off : c.world.context.enforcing = false
  permits : c.command.Permits h c.answer
  ledger : c.command.Quiet → c.world.ledger = l

/-- Calls that were made one after the other with enforcement off. -/
def Unnoticed (h : Host π μ) : Ledger → List Call → Prop
  | _, [] => True
  | l, c :: rest => c.Unnoticed h l ∧ Unnoticed h c.world.ledger rest

theorem unnoticed_append {h : Host π μ} {calls more : List Call} :
    ∀ {l : Ledger}, Unnoticed h l (calls ++ more)
      ↔ Unnoticed h l calls ∧ Unnoticed h (l.after calls) more := by
  induction calls with
  | nil => exact fun {l} => ⟨fun hu => ⟨trivial, hu⟩, And.right⟩
  | cons c rest ih => exact fun {l} => (and_congr_right fun _ => ih).trans and_assoc.symm

/-- Between two works on one context everything is done with enforcement off, and goes
unnoticed. -/
structure Work.Unnoticed (h : Host π μ) (w w₁ : Work) : Prop where
  calls : ∃ calls, w₁.calls = w.calls ++ calls ∧ LifecycleGuard.Unnoticed h w.ledger calls ∧
    w₁.ledger = w.ledger.after calls
  current : w₁.current = w.current
  off : w₁.context.enforcing = false

namespace Work.Unnoticed

variable {h : Host π μ} {w w₁ w₂ : Work}

theorem refl (hoff : w.context.enforcing = false) : Work.Unnoticed h w w where
  calls := ⟨[], (List.append_nil _).symm, trivial, rfl⟩
  current := rfl
  off := hoff

theorem trans (hu : Work.Unnoticed h w w₁) (hu' : Work.Unnoticed h w₁ w₂) :
    Work.Unnoticed h w w₂ := by
  obtain ⟨⟨calls, hcalls, hunnoticed, hledger⟩, hcurrent, -⟩ := hu
  obtain ⟨⟨more, hmore, hunnoticed', hledger'⟩, hcurrent', hoff'⟩ := hu'
  rw [hledger] at hunnoticed' hledger'
  refine ⟨⟨calls ++ more, ?_, unnoticed_append.mpr ⟨hunnoticed, hunnoticed'⟩, ?_⟩,
    hcurrent'.trans hcurrent, hoff'⟩
  · rw [hmore, hcalls, List.append_assoc]
  · rw [hledger', Ledger.after_append]

end Work.Unnoticed

/-- A way to answer calls that, of a call made with enforcement off, makes what the library makes
of it, whatever host code means. -/
def Host.AgreesWhereOff (h : Host π μ) (perform : (c : Command) → Run c.Answer) : Prop :=
  ∀ c w, c ≠ .reset → w.context.enforcing = false → ∃ o, perform c w = h.perform o c w

/-- Some work that comes to the same in every such way, does not nest too deeply, and goes
unnoticed. -/
def Run.Unnoticed {α : Type} (h : Host π μ) (r : ((c : Command) → Run c.Answer) → Run α)
    (w : Work) : Prop :=
  ∃ y, (∀ perform, h.AgreesWhereOff perform → r perform w = y) ∧ y.1 ≠ .error .tooDeep ∧
    Work.Unnoticed h w y.2

namespace Run.Unnoticed

variable {h : Host π μ} {α β : Type} {w : Work} {r : ((c : Command) → Run c.Answer) → Run α}

theorem bind {f : ((c : Command) → Run c.Answer) → α → Run β} (hr : Run.Unnoticed h r w)
    (hf : ∀ x w₁, w₁.context.enforcing = false → Run.Unnoticed h (fun p => f p x) w₁) :
    Run.Unnoticed h (fun p => Run.bind (r p) (f p)) w := by
  obtain ⟨⟨x, w₁⟩, hsame, hends, hu⟩ := hr
  cases x with
  | error i =>
      have hi : i ≠ .tooDeep := fun hi => hends (by rw [hi])
      exact ⟨_, fun p hp => Run.bind_of_error (hsame p hp) _, by simpa using hi, hu⟩
  | ok x =>
      obtain ⟨y, hsame', hends', hu'⟩ := hf x w₁ hu.off
      exact ⟨y, fun p hp => (Run.bind_of_ok (hsame p hp) _).trans (hsame' p hp), hends',
        hu.trans hu'⟩

theorem attempt (hr : Run.Unnoticed h r w) :
    Run.Unnoticed h (fun p => Run.attempt (r p)) w := by
  obtain ⟨⟨x, w₁⟩, hsame, hends, hu⟩ := hr
  cases x with
  | ok x =>
      exact ⟨(.ok (.ok x), w₁), fun p hp => Run.attempt_of_ok (hsame p hp), by simp, hu⟩
  | error i =>
      cases i with
      | panic text =>
          exact ⟨(.ok (.error text), w₁), fun p hp => Run.attempt_of_panic (hsame p hp), by simp,
            hu⟩
      | tooDeep => exact absurd rfl hends

/-- A scope that is opened with enforcement off leaves it off. -/
theorem within (s : Scope) (hoff : w.context.enforcing = false)
    (hr : Run.Unnoticed h r (w.entering s)) : Run.Unnoticed h (fun p => Run.within s (r p)) w := by
  obtain ⟨⟨x, w₁⟩, hsame, hends, ⟨calls, hcalls, hunnoticed, hledger⟩, hcurrent, hoff'⟩ := hr
  refine ⟨(x, w₁.leaving s w), fun p hp => Run.within_of_eq (hsame p hp), hends, ?_⟩
  rw [w.ledger_entering s] at hunnoticed hledger
  refine ⟨⟨calls, hcalls, hunnoticed, (w₁.ledger_leaving s w).trans hledger⟩, hcurrent, ?_⟩
  -- The scope is left in the context that it was entered in, which is still the current one.
  have hcurrent' : (w₁.leaving s w).current = w.current := hcurrent
  rw [World.context, Work.contextOf_leaving, if_pos hcurrent']
  rw [World.context, hcurrent] at hoff'
  rw [hcurrent']
  exact Scope.off_leave s hoff hoff'

theorem answering {c : Command} (hoff : w.context.enforcing = false) (hreset : c ≠ .reset) :
    Run.Unnoticed h (fun p => Run.answering c (p c)) w := by
  obtain ⟨⟨x, w₁⟩, hsame, hspared⟩ := perform_of_off (h := h) hoff hreset
  have hperform : ∀ p, h.AgreesWhereOff p → p c w = (x, w₁) := fun p hp => by
    obtain ⟨o, ho⟩ := hp c w hreset hoff
    exact ho.trans (hsame o)
  cases x with
  | error i =>
      -- A call that is not answered is not taken down, so it may not leave anything behind.
      have hw : w₁ = w := hspared.unchanged i rfl
      have hi : i ≠ .tooDeep := fun hi => hspared.ends (by rw [hi])
      subst hw
      exact ⟨_, fun p hp => Run.answering_of_error (hperform p hp), by simpa using hi, .refl hoff⟩
  | ok x =>
      refine ⟨(.ok x, w₁.noting c x), fun p hp => Run.answering_of_ok (hperform p hp), by simp, ?_⟩
      have hcalls : (w₁.noting c x).calls = w.calls ++ [⟨c, x, w₁.toWorld⟩] := by
        rw [← hspared.calls]
        rfl
      have hc : Call.Unnoticed h w.ledger ⟨c, x, w₁.toWorld⟩ :=
        ⟨hspared.off, hspared.permits x rfl, hspared.ledger⟩
      exact ⟨⟨_, hcalls, ⟨hc, trivial⟩, rfl⟩, hspared.current, hspared.off⟩

end Run.Unnoticed

/-! ## Programs -/

/-- A program that keeps to its context and does not reset it. -/
def Program.Stays {α : Type} : Program α → Prop
  | .done _ => True
  | .panic _ => True
  | .ask c k => c ≠ .reset ∧ ∀ x, (k x).Stays
  | .attempt p k => p.Stays ∧ ∀ x, (k x).Stays
  | .within _ p k => p.Stays ∧ ∀ x, (k x).Stays
  | .on .. => False

/-- **A program that stays goes unnoticed**, if it is begun with enforcement off. -/
theorem Host.run_of_off (h : Host π μ) {α : Type} {p : Program α} (hp : p.Stays) {w : Work}
    (hoff : w.context.enforcing = false) :
    Run.Unnoticed h (fun perform => p.run perform) w := by
  induction p generalizing w with
  | done x => exact ⟨_, fun _ _ => rfl, by simp, .refl hoff⟩
  | panic text => exact ⟨_, fun _ _ => rfl, by simp, .refl hoff⟩
  | ask c k ih =>
      exact .bind (.answering hoff hp.1) fun x w₁ hoff₁ => ih x (hp.2 x) hoff₁
  | attempt p k ihp ihk =>
      exact .bind (.attempt (ihp hp.1 hoff)) fun x w₁ hoff₁ => ihk x (hp.2 x) hoff₁
  | within s p k ihp ihk =>
      have hentered : (w.entering s).context.enforcing = false := by
        rw [Work.context_entering]
        exact s.off_enter hoff
      exact .bind (.within s hoff (ihp hp.1 hentered)) fun x w₁ hoff₁ => ihk x (hp.2 x) hoff₁
  | on => exact hp.elim

end LifecycleGuard
