import LifecycleGuard.Host.Condition
import LifecycleGuard.Proofs.Host.Asking
import LifecycleGuard.Proofs.Work.Twin

/-!
# Host code that does not look beyond its context

A call of the library comes to the same wherever contexts are alike, if the host code that it runs
does so.  Nothing else that it looks at changes: policies are fixed, and a store is only ever
appended to.

**Calls.**  `Oracle.Local` is what predicates and message rules must be, and `twin_perform` what
calls are then.

**Programs.**  A program that is `Private` keeps to one context, and does not let what it does
depend on the identifiers and times of entries that it is given.  `Host.local_oracle` says that
host code which is private is local, at every depth.  Conditions and message rules are private,
whatever they consist of.
-/

namespace LifecycleGuard

variable {π μ : Type}

open Run

/-- Answers that differ in the identifiers and times of entries, if at all. -/
def Command.SameAnswer : (c : Command) → c.Answer → c.Answer → Prop
  | after .., x, x' => AuditEntry.SameAnswer (ε := PolicyError) x x'
  | afterFind .., x, x' => AuditEntry.SameAnswer (ε := PolicyError) x x'
  | _, x, x' => x = x'

/-- What predicates and message rules come to depends on their context and on what they are asked
about.  They may change the context and write to the store, but look at nothing else. -/
structure Oracle.Local (number : Nat) (o : Oracle π μ) : Prop where
  judge : ∀ q r, Run.Local number (o.judge q r)
  compose : ∀ m subject actor, Run.Local number (o.compose m subject actor)

theorem AuditEntry.SameAnswer.mapError {ε ε' : Type} {x x' : Except ε (Option AuditEntry)}
    (h : SameAnswer x x') (f : ε → ε') : SameAnswer (x.mapError f) (x'.mapError f) := by
  rcases x with e | e <;> rcases x' with e' | e'
  · obtain rfl : e = e' := Except.error.inj h
    rfl
  · exact nomatch h
  · exact nomatch h
  · exact congrArg Except.ok (Except.ok.inj h)

section Calls

variable {h : Host π μ} {o : Oracle π μ} {number : Nat}

theorem twin_withPolicy {α : Type} {A : α → α → Prop} (name : String) {f : Policy π μ → Run α}
    (hf : ∀ p, h.policy? name = some p → Twin number A (f p) (f p)) :
    Twin number A (h.withPolicy name f) (h.withPolicy name f) :=
  Host.withPolicy_rel (R := Twin number A) name f f .panic hf

/-- Contexts that are alike are bypassed alike. -/
theorem bypassed_congr (e : Evaluator π) (subject : Entity) (c c' : Context) (hc : c.Alike c') :
    c.actor = c'.actor ∧ e.bypassed subject c = e.bypassed subject c' := by
  rw [Evaluator.bypassed, Evaluator.bypassed, hc.isSecurityBypassed, hc.isSecurityBypassed]
  exact ⟨hc.actor, rfl⟩

variable (ho : o.Local number)

include ho

theorem twin_permits (p : Policy π μ) : ∀ rule ∈ p.evaluator.book.rules, ∀ r,
    Twin number Eq (Evaluator.permits o.judge r rule) (Evaluator.permits o.judge r rule) :=
  fun rule _ r => .within .enforcement (ho.judge rule.predicate r)

theorem twin_afterFind {p : Policy π μ} (hstore : p.store = .memory number) (subject : Entity) :
    Twin number AuditEntry.SameAnswer (p.afterFind o subject) (p.afterFind o subject) := by
  have hbypassed := bypassed_congr p.evaluator subject
  refine .bind (simulation_twin.checkTarget (twin_permits ho p) hbypassed) fun checked _ hsame => ?_
  subst hsame
  cases checked with
  | error d => exact .pure rfl
  | ok _ =>
      exact .bind (p.recorder.twin_record ho.compose hstore subject) fun _ _ hsame =>
        .pure (hsame.mapError PolicyError.audit)

variable (hstore : ∀ name p, h.policy? name = some p → p.store = .memory number)

include hstore

/-- **A call** looks at its context only. -/
theorem twin_perform (c : Command) :
    Twin number c.SameAnswer (h.perform o c) (h.perform o c) := by
  have hasks : c.Asks → Twin number Eq (h.perform o c) (h.perform o c) := fun hasks =>
    simulation_twin.asking .panic (fun _ p _ => twin_permits ho p)
      (fun _ p _ => p.recorder.twin_begin ho.compose) hasks
      fun _ p subject _ _ _ => bypassed_congr p.evaluator subject
  cases c with
  | actor => exact .context fun _ _ hc => .pure hc.actor
  | isEnforcing => exact .context fun _ _ hc => .pure hc.enforcing
  | isAuditing => exact .context fun _ _ hc => .pure hc.auditing
  | isSecurityBypassed type => exact .context fun _ _ hc => .pure (hc.isSecurityBypassed type)
  | isAuditBypassed type => exact .context fun _ _ hc => .pure (hc.isAuditBypassed type)
  | hasInFlight type => exact .context fun _ _ hc => .pure (hc.hasInFlight type)
  | setActor a => exact .modifyContext fun _ _ hc => hc.withActor a
  | reset => exact .modifyContext fun _ _ _ => .refl _
  | label text => exact .leaveLabel text
  | after name a subject =>
      refine twin_withPolicy name fun p hp => ?_
      exact .bind (p.recorder.twin_commit (hstore name p hp) a subject) fun _ _ hsame =>
        .pure (hsame.mapError PolicyError.audit)
  | abandon name => exact twin_withPolicy name fun p _ => twin_abandon p.entityType
  | afterFind name subject =>
      exact twin_withPolicy name fun p hp => twin_afterFind ho (hstore name p hp) subject
  | _ => exact hasks trivial

end Calls

/-! ## Programs -/

/-- A program that keeps to its context, and for which answers are the same that differ in the
identifiers and times of entries only. -/
def Program.Private {α : Type} : Program α → Prop
  | .done _ => True
  | .panic _ => True
  | .ask c k => (∀ x x', c.SameAnswer x x' → k x = k x') ∧ ∀ x, (k x).Private
  | .attempt p k => p.Private ∧ ∀ x, (k x).Private
  | .within _ p k => p.Private ∧ ∀ x, (k x).Private
  | .on .. => False

namespace Run.Twin

variable {α : Type} {A : α → α → Prop} {number : Nat} {r r' : Run α}

/-- A panic that is caught on one side is caught on the other. -/
theorem attempt (hr : Twin number Eq r r') :
    Twin number Eq (Run.attempt r) (Run.attempt r') := by
  intro w w' hc
  obtain ⟨es, es', h⟩ := hr w w' hc
  rcases hrun : r w with ⟨x, w₁⟩
  rcases hrun' : r' w' with ⟨x', w₁'⟩
  rw [hrun, hrun'] at h
  obtain ⟨hext, hext', hwritten, hcontext, hends⟩ := h
  cases hends with
  | ok hx =>
      exact .of_eq (attempt_of_ok hrun) (attempt_of_ok hrun')
        ⟨hext, hext', hwritten, hcontext, .ok (congrArg _ hx)⟩
  | error i =>
      cases i with
      | panic text =>
          exact .of_eq (attempt_of_panic hrun) (attempt_of_panic hrun')
            ⟨hext, hext', hwritten, hcontext, .ok rfl⟩
      | tooDeep =>
          have hdeep : ∀ {r : Run α} {w w₁ : Work}, r w = (.error .tooDeep, w₁) →
              Run.attempt r w = (.error .tooDeep, w₁) := fun h => by rw [Run.attempt, h]
          exact .of_eq (hdeep hrun) (hdeep hrun')
            ⟨hext, hext', hwritten, hcontext, .error _⟩

/-- Taking a call down changes nothing that is looked at. -/
theorem answering {c : Command} {A : c.Answer → c.Answer → Prop} {r r' : Run c.Answer}
    (hr : Twin number A r r') : Twin number A (Run.answering c r) (Run.answering c r') := by
  intro w w' hc
  obtain ⟨es, es', h⟩ := hr w w' hc
  rcases hrun : r w with ⟨x, w₁⟩
  rcases hrun' : r' w' with ⟨x', w₁'⟩
  rw [hrun, hrun'] at h
  obtain ⟨hext, hext', hwritten, hcontext, hends⟩ := h
  cases hends with
  | ok hx =>
      exact .of_eq (answering_of_ok hrun) (answering_of_ok hrun')
        ⟨⟨hext.current, hext.others, hext.stored⟩, ⟨hext'.current, hext'.others, hext'.stored⟩,
          hwritten, hcontext, .ok hx⟩
  | error i =>
      exact .of_eq (answering_of_error hrun) (answering_of_error hrun')
        ⟨hext, hext', hwritten, hcontext, .error i⟩

end Run.Twin

theorem Program.Private.local {h : Host π μ} {o : Oracle π μ} {number : Nat} (ho : o.Local number)
    (hstore : ∀ name p, h.policy? name = some p → p.store = .memory number) {α : Type}
    {p : Program α} (hp : p.Private) : Run.Local number (p.run (h.perform o)) := by
  induction p with
  | done x => exact .pure rfl
  | panic text => exact .panic text
  | ask c k ih =>
      refine .bind (.answering (twin_perform ho hstore c)) fun x x' hsame => ?_
      rw [hp.1 x x' hsame]
      exact ih x' (hp.2 x')
  | attempt p k ihp ihk =>
      exact .bind (.attempt (ihp hp.1)) fun x _ hsame => hsame ▸ ihk x (hp.2 x)
  | within s p k ihp ihk =>
      exact .bind (.within s (ihp hp.1)) fun x _ hsame => hsame ▸ ihk x (hp.2 x)
  | on name p k => exact hp.elim

/-- Host code that is private. -/
structure Host.Private (h : Host π μ) : Prop where
  judge : ∀ q r, (h.judge q r).Private
  compose : ∀ m subject actor, (h.compose m subject actor).Private

/-- **Private host code is local**, at every depth. -/
theorem Host.local_oracle {h : Host π μ} {number : Nat} (hprivate : h.Private)
    (hstore : ∀ name p, h.policy? name = some p → p.store = .memory number) :
    ∀ depth, (h.oracle depth).Local number
  | 0 => ⟨fun _ _ => .tooDeep, fun _ _ _ => .tooDeep⟩
  | depth + 1 =>
    have ho := local_oracle hprivate hstore depth
    ⟨fun q r => (hprivate.judge q r).local ho hstore,
      fun m subject actor => (hprivate.compose m subject actor).local ho hstore⟩

/-! ### Host code as data -/

namespace Program.Private

theorem bind {α β : Type} {p : Program α} {f : α → Program β} (hp : p.Private)
    (hf : ∀ x, (f x).Private) : (p.bind f).Private := by
  induction p with
  | done x => exact hf x
  | panic text => exact trivial
  | ask c k ih =>
      refine ⟨fun x x' hsame => ?_, fun x => ih x (hp.2 x) hf⟩
      exact congrArg (fun p : Program _ => p.bind f) (hp.1 x x' hsame)
  | attempt p k _ ihk => exact ⟨hp.1, fun x => ihk x (hp.2 x) hf⟩
  | within s p k _ ihk => exact ⟨hp.1, fun x => ihk x (hp.2 x) hf⟩
  | on name p k => exact hp.elim

/-- A call that is not answered with an entry. -/
theorem ask_of_eq {α : Type} {c : Command} {k : c.Answer → Program α}
    (hc : ∀ x x', c.SameAnswer x x' → x = x') (hk : ∀ x, (k x).Private) :
    (Program.ask c k).Private :=
  ⟨fun x x' hsame => congrArg k (hc x x' hsame), hk⟩

end Program.Private

/-- Answers that say the same are errors alike, and there are entries in both or in none. -/
theorem AuditEntry.SameAnswer.cases {ε : Type} {x x' : Except ε (Option AuditEntry)}
    (h : SameAnswer x x') : (∃ e, x = .error e ∧ x' = .error e) ∨ (x = .ok none ∧ x' = .ok none) ∨
      ∃ e e', x = .ok (some e) ∧ x' = .ok (some e') := by
  unfold SameAnswer at h
  rcases x with e | _ | e <;> rcases x' with e' | _ | e' <;> simp_all [Except.map]

mutual

theorem Condition.private_program (r : Request) : ∀ c : Condition, (c.program r).Private
  | .always => trivial
  | .never => trivial
  | .authenticated => trivial
  | .role _ => trivial
  | .actorId _ => trivial
  | .owner _ => trivial
  | .actorAttribute .. => trivial
  | .subjectAttribute .. => trivial
  | .subjectNew _ => trivial
  | .associatedType _ => trivial
  | .associatedId _ => trivial
  | .enforced _ => .ask_of_eq (fun _ _ h => h) fun _ => trivial
  | .securityBypassed _ => .ask_of_eq (fun _ _ h => h) fun _ => trivial
  | .auditBypassed _ => .ask_of_eq (fun _ _ h => h) fun _ => trivial
  | .currentActor _ => .ask_of_eq (fun _ _ h => h) fun _ => trivial
  | .not c => .bind (private_program r c) fun _ => trivial
  | .all cs => private_programAll r cs
  | .any cs => private_programAny r cs
  | .panic _ => trivial
  | .finds _ _ => by
      refine ⟨fun x x' hsame => ?_, fun _ => trivial⟩
      rcases AuditEntry.SameAnswer.cases hsame with
        ⟨e, rfl, rfl⟩ | ⟨rfl, rfl⟩ | ⟨e, e', rfl, rfl⟩ <;> rfl
  | .grants .. => .ask_of_eq (fun _ _ h => h) fun _ => trivial
  | .labelled _ next => .ask_of_eq (fun _ _ h => h) fun _ => private_program r next
  | .actingAs _ next => .ask_of_eq (fun _ _ h => h) fun _ => private_program r next
  | .afterReset next => .ask_of_eq (fun _ _ h => h) fun _ => private_program r next

theorem Condition.private_programAll (r : Request) : ∀ cs, (Condition.programAll r cs).Private
  | [] => trivial
  | c :: rest => .bind (private_program r c) fun permitted => by
      cases permitted with
      | true => exact private_programAll r rest
      | false => exact trivial

theorem Condition.private_programAny (r : Request) : ∀ cs, (Condition.programAny r cs).Private
  | [] => trivial
  | c :: rest => .bind (private_program r c) fun permitted => by
      cases permitted with
      | true => exact trivial
      | false => exact private_programAny r rest

end

theorem MessageRule.private_program (subject : Entity) (actor : Option Actor) :
    ∀ m : MessageRule, (m.program subject actor).Private
  | .template .. => trivial
  | .literal _ => trivial
  | .panic _ => trivial
  | .state =>
    .ask_of_eq (fun _ _ h => h) fun _ => .ask_of_eq (fun _ _ h => h) fun _ =>
    .ask_of_eq (fun _ _ h => h) fun _ => .ask_of_eq (fun _ _ h => h) fun _ =>
    .ask_of_eq (fun _ _ h => h) fun _ => trivial
  | .find .. => by
      refine ⟨fun x x' hsame => ?_, fun _ => trivial⟩
      rcases AuditEntry.SameAnswer.cases hsame with
        ⟨e, rfl, rfl⟩ | ⟨rfl, rfl⟩ | ⟨e, e', rfl, rfl⟩ <;> rfl

/-- **Conditions and message rules are private**, whatever the policies are. -/
theorem Host.private_ofPolicies (policy? : String → Option (Policy Condition MessageRule)) :
    (Host.ofPolicies policy?).Private where
  judge c r := Condition.private_program r c
  compose m subject actor := MessageRule.private_program subject actor m

end LifecycleGuard
