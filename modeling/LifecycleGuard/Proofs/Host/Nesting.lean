import LifecycleGuard.Proofs.Host.Unchecked

/-!
# How deeply host code nests

Policies can refer to each other in circles: the predicate of one asks another, whose predicate
asks the first.  The library enters host code with enforcement off, and there nobody is asked, so
the circle is not closed.

**Where host code is entered.**  Two meanings of host code that `AgreeWhereOff` come to the same in
every run, because the library makes use of neither where enforcement is on.  What agrees is
a `Run.Congruence`, so checks agree because predicates do, and captures agree because messages do.
`agree_run` takes them together for all programs.

**How deep.**  A program that stays comes to the same whatever the host code means that it might
enter; so it enters none, and the meaning of host code at one depth is its meaning at all.
`Host.unchecked` puts the two together.
-/

namespace LifecycleGuard

variable {π μ : Type}

/-! ## Runs that agree -/

/-- Two runs make the same of some work, and where `sure` holds, do not nest too deeply. -/
def Run.AgreeAt {α : Type} (sure : Prop) (r r' : Run α) (w : Work) : Prop :=
  r w = r' w ∧ (sure → (r w).1 ≠ .error .tooDeep)

/-- The same of all work. -/
def Run.Agree {α : Type} (sure : Prop) (r r' : Run α) : Prop := ∀ w, Run.AgreeAt sure r r' w

namespace Run.Agree

variable {sure : Prop} {α β : Type} {r r' : Run α}

/-- A run agrees with itself, and one that gives a result does not nest too deeply. -/
theorem of_ok (hr : ∀ w, ∃ x, (r w).1 = .ok x) : Agree sure r r := by
  refine fun w => ⟨rfl, fun _ hdeep => ?_⟩
  obtain ⟨x, hx⟩ := hr w
  rw [hx] at hdeep
  cases hdeep

theorem pure (x : α) : Agree sure (Pure.pure x) (Pure.pure x) := of_ok fun _ => ⟨x, rfl⟩

theorem context : Agree sure Run.context Run.context := of_ok fun w => ⟨w.context, rfl⟩

theorem note (e : Event) : Agree sure (Run.note e) (Run.note e) := of_ok fun _ => ⟨(), rfl⟩

theorem panic (text : String) : Agree sure (Run.panic text : Run α) (Run.panic text) :=
  fun _ => ⟨rfl, fun _ hdeep => by cases hdeep⟩

theorem bind {f f' : α → Run β} (hr : Agree sure r r') (hf : ∀ x, Agree sure (f x) (f' x)) :
    Agree sure (r >>= f) (r' >>= f') := by
  intro w
  obtain ⟨hsame, hends⟩ := hr w
  rcases hrun : r w with ⟨i | x, w₁⟩
  · rw [hrun] at hsame hends
    rw [AgreeAt, Run.bind_of_error hrun, Run.bind_of_error hsame.symm]
    exact ⟨rfl, fun hsure hdeep => hends hsure (congrArg _ (Except.error.inj hdeep))⟩
  · rw [hrun] at hsame
    rw [AgreeAt, Run.bind_of_ok hrun, Run.bind_of_ok hsame.symm]
    exact hf x w₁

theorem within (s : Scope) {w : Work} (hr : AgreeAt sure r r' (w.entering s)) :
    AgreeAt sure (Run.within s r) (Run.within s r') w := by
  obtain ⟨hsame, hends⟩ := hr
  rcases hrun : r (w.entering s) with ⟨x, w₁⟩
  rw [hrun] at hsame hends
  rw [AgreeAt, Run.within_of_eq hrun, Run.within_of_eq hsame.symm]
  exact ⟨rfl, hends⟩

theorem on (name : String) (hr : Agree sure r r') :
    Agree sure (Run.on name r) (Run.on name r') := by
  intro w
  obtain ⟨hsame, hends⟩ := hr { w with current := name }
  refine ⟨?_, hends⟩
  show ((r { w with current := name }).1, _) = ((r' { w with current := name }).1, _)
  rw [hsame]

theorem attempt (hr : Agree sure r r') : Agree sure (Run.attempt r) (Run.attempt r') := by
  intro w
  obtain ⟨hsame, hends⟩ := hr w
  rcases hrun : r w with ⟨i | x, w₁⟩
  · rw [hrun] at hsame hends
    cases i with
    | panic text =>
        rw [AgreeAt, Run.attempt_of_panic hrun, Run.attempt_of_panic hsame.symm]
        exact ⟨rfl, fun _ hdeep => by cases hdeep⟩
    | tooDeep =>
        refine ⟨?_, fun hsure => absurd rfl (hends hsure)⟩
        rw [Run.attempt, Run.attempt, hrun, ← hsame]
  · rw [hrun] at hsame
    rw [AgreeAt, Run.attempt_of_ok hrun, Run.attempt_of_ok hsame.symm]
    exact ⟨rfl, fun _ hdeep => by cases hdeep⟩

theorem answering {c : Command} {r r' : Run c.Answer} (hr : Agree sure r r') :
    Agree sure (Run.answering c r) (Run.answering c r') := by
  intro w
  obtain ⟨hsame, hends⟩ := hr w
  rcases hrun : r w with ⟨i | x, w₁⟩
  · rw [hrun] at hsame hends
    rw [AgreeAt, Run.answering_of_error hrun, Run.answering_of_error hsame.symm]
    exact ⟨rfl, hends⟩
  · rw [hrun] at hsame
    rw [AgreeAt, Run.answering_of_ok hrun, Run.answering_of_ok hsame.symm]
    exact ⟨rfl, fun _ hdeep => by cases hdeep⟩

end Run.Agree

/-- Runs that agree are put together to runs that agree. -/
theorem congruence_agree {sure : Prop} :
    Run.Congruence fun _ r r' => Run.Agree sure r r' where
  pure := .pure
  context := .context
  note := .note
  bind := .bind

/-! ## The library -/

open Run

section Library

variable {sure : Prop}

section Recording

variable {compose compose' : μ → Entity → Option Actor → Run String} {r : Recorder μ}
  (hc : ∀ a d m, r.book.declaration? a = some d → d.message = some m →
    ∀ (subject : Entity) (actor : Option Actor) (w : Work), w.context.enforcing = false →
      AgreeAt sure (compose m subject actor) (compose' m subject actor) w)

include hc

/-- A message is composed with enforcement off. -/
theorem agree_composed {a : Action} {d : AuditDeclaration μ} {c : Context} (subject : Entity)
    (hd : r.applicable? a subject c = some d) (actor : Option Actor) :
    Agree sure (Recorder.composed compose d.message subject actor)
      (Recorder.composed compose' d.message subject actor) := by
  cases hm : d.message with
  | none => exact .pure none
  | some m =>
      -- A message rule that is composed belongs to the declaration that applies, so it is one of
      -- those that `hc` is about.
      refine .bind (fun w => Agree.within .enforcement ?_) fun _ => .pure _
      refine hc a d m (r.declaration_of_applicable hd) hm subject actor _ ?_
      rw [Work.context_entering]
      rfl

theorem agree_begin (a : Action) (subject : Entity) :
    Agree sure (r.begin compose a subject) (r.begin compose' a subject) := by
  intro w
  cases ha : a.isMutation with
  | false =>
      rw [Recorder.begin, Recorder.begin, ha]
      exact Agree.pure () w
  | true =>
      cases hd : r.applicable? a subject w.context with
      | none =>
          obtain ⟨events, hbegin⟩ := r.begin_of_none hd
          rw [AgreeAt, hbegin compose, hbegin compose']
          exact ⟨rfl, fun _ hdeep => by cases hdeep⟩
      | some d =>
          have hpark : ∀ message, Agree sure (r.park d a subject w.context.actor message)
              (r.park d a subject w.context.actor message) := fun message => .of_ok fun w₁ => by
            obtain ⟨events, hpark⟩ := r.park_apply d a subject w.context.actor message w₁
            exact ⟨(), congrArg Prod.fst hpark⟩
          rw [AgreeAt, r.begin_of_some compose ha hd, r.begin_of_some compose' ha hd]
          exact Agree.bind (agree_composed hc subject hd w.context.actor) hpark w

theorem agree_record (subject : Entity) :
    Agree sure (r.record compose subject) (r.record compose' subject) := by
  intro w
  cases hd : r.applicable? .find subject w.context with
  | none =>
      obtain ⟨events, hrecord⟩ := r.record_of_none hd
      rw [AgreeAt, hrecord compose, hrecord compose']
      exact ⟨rfl, fun _ hdeep => by cases hdeep⟩
  | some d =>
      have hconclude : ∀ message, Agree sure (r.conclude subject w.context.actor message)
          (r.conclude subject w.context.actor message) := fun message => .of_ok fun w₁ => by
        obtain ⟨events, hconclude⟩ := r.conclude_apply subject w.context.actor message w₁
        exact ⟨_, congrArg Prod.fst hconclude⟩
      rw [AgreeAt, r.record_of_some compose hd, r.record_of_some compose' hd]
      exact Agree.bind (agree_composed hc subject hd w.context.actor) hconclude w

end Recording

end Library

/-! ## Calls and programs -/

namespace Host

variable (h : Host π μ)

/-- A predicate that a policy of the host has. -/
def HasPredicate (q : π) : Prop :=
  ∃ name p, h.policy? name = some p ∧ ∃ rule ∈ p.rules.rules, rule.predicate = q

/-- A message rule that a policy of the host has. -/
def HasMessage (m : μ) : Prop :=
  ∃ name p a d, h.policy? name = some p ∧ p.audits.declaration? a = some d ∧ d.message = some m

end Host

/-- Two meanings of the host code of policies agree where enforcement is off. -/
structure Oracle.AgreeWhereOff (h : Host π μ) (sure : Prop) (o o' : Oracle π μ) : Prop where
  judge : ∀ q, h.HasPredicate q → ∀ r w, w.context.enforcing = false →
    AgreeAt sure (o.judge q r) (o'.judge q r) w
  compose : ∀ m, h.HasMessage m → ∀ subject actor w, w.context.enforcing = false →
    AgreeAt sure (o.compose m subject actor) (o'.compose m subject actor) w

section Calls

variable {h : Host π μ} {sure : Prop} {o o' : Oracle π μ} (ho : o.AgreeWhereOff h sure o')

theorem agree_withPolicy {α : Type} (name : String) {f f' : Policy π μ → Run α}
    (hf : ∀ p, h.policy? name = some p → Agree sure (f p) (f' p)) :
    Agree sure (h.withPolicy name f) (h.withPolicy name f') :=
  Host.withPolicy_rel (R := Agree sure) name f f' .panic hf

include ho

/-- A predicate of a policy is asked with enforcement off. -/
theorem agree_permits {name : String} {p : Policy π μ} (hp : h.policy? name = some p) :
    ∀ rule ∈ p.evaluator.book.rules, ∀ r, Agree sure (Evaluator.permits o.judge r rule)
      (Evaluator.permits o'.judge r rule) := by
  intro rule hrule r w
  have hq : h.HasPredicate rule.predicate := ⟨name, p, hp, rule, hrule, rfl⟩
  refine Agree.within .enforcement (ho.judge rule.predicate hq r _ ?_)
  rw [Work.context_entering]
  rfl

/-- What a message rule of a policy means agrees. -/
theorem agree_compose {name : String} {p : Policy π μ} (hp : h.policy? name = some p) :
    ∀ a d m, p.recorder.book.declaration? a = some d → d.message = some m →
      ∀ (subject : Entity) (actor : Option Actor) (w : Work), w.context.enforcing = false →
        AgreeAt sure (o.compose m subject actor) (o'.compose m subject actor) w :=
  fun a d m hd hm => ho.compose m ⟨name, p, a, d, hp, hd, hm⟩

theorem agree_afterFind {name : String} {p : Policy π μ} (hp : h.policy? name = some p)
    (subject : Entity) : Agree sure (p.afterFind o subject) (p.afterFind o' subject) := by
  refine .bind (congruence_agree.checkTarget (agree_permits ho hp)) fun checked => ?_
  cases checked with
  | error d => exact .pure _
  | ok _ => exact .bind (agree_record (agree_compose ho hp) subject) fun _ => .pure _

theorem agree_perform (c : Command) : Agree sure (h.perform o c) (h.perform o' c) := by
  have hasks : c.Asks → Agree sure (h.perform o c) (h.perform o' c) := fun hasks =>
    congruence_agree.simulation.asking .panic (fun _ _ hp => agree_permits ho hp)
      (fun _ _ hp => agree_begin (agree_compose ho hp)) hasks
      fun _ _ subject _ _ _ => Congruence.alike_of_eq subject
  cases c with
  | actor => exact .bind .context fun _ => .pure _
  | isEnforcing => exact .bind .context fun _ => .pure _
  | isAuditing => exact .bind .context fun _ => .pure _
  | isSecurityBypassed type => exact .bind .context fun _ => .pure _
  | isAuditBypassed type => exact .bind .context fun _ => .pure _
  | hasInFlight type => exact .bind .context fun _ => .pure _
  | setActor a => exact .of_ok fun w => ⟨(), rfl⟩
  | reset => exact .of_ok fun w => ⟨(), rfl⟩
  | label text => exact .of_ok fun w => ⟨(), rfl⟩
  | after name a subject =>
      exact agree_withPolicy name fun p _ =>
        .bind (.of_ok (p.recorder.fst_commit a subject)) fun _ => .pure _
  | abandon name =>
      refine agree_withPolicy name fun p _ => .of_ok fun w => ?_
      obtain ⟨events, habandon⟩ := Run.abandon_apply p.entityType w
      exact ⟨(), congrArg Prod.fst habandon⟩
  | afterFind name subject =>
      exact agree_withPolicy name fun p hp => agree_afterFind ho hp subject
  | _ => exact hasks trivial

/-- **What host code means matters only where enforcement is off.** -/
theorem agree_run {α : Type} (p : Program α) :
    Agree sure (p.run (h.perform o)) (p.run (h.perform o')) := by
  induction p with
  | done x => exact .pure x
  | panic text => exact .panic text
  | ask c k ih => exact .bind (.answering (agree_perform ho c)) ih
  | attempt p k ihp ihk => exact .bind (.attempt ihp) ihk
  | within s p k ihp ihk => exact .bind (fun w => Agree.within s (ihp _)) ihk
  | on name p k ihp ihk => exact .bind (.on name ihp) ihk

end Calls

/-! ## Host code that stays -/

/-- The first meaning of host code where enforcement is off, and the other one where it is on. -/
def Oracle.whereOff (o other : Oracle π μ) : Oracle π μ where
  judge q r w := if w.context.enforcing then other.judge q r w else o.judge q r w
  compose m subject actor w :=
    if w.context.enforcing then other.compose m subject actor w else o.compose m subject actor w

theorem agree_whereOff (h : Host π μ) (o other : Oracle π μ) :
    (o.whereOff other).AgreeWhereOff h False o where
  judge q _ r w hoff := ⟨if_neg (by simp [hoff]), False.elim⟩
  compose m _ subject actor w hoff := ⟨if_neg (by simp [hoff]), False.elim⟩

namespace Host

variable {h : Host π μ}

variable (h) in
/-- The predicates and message rules of the host keep to their context and do not reset it. -/
structure Stays : Prop where
  judge : ∀ q, h.HasPredicate q → ∀ r, (h.judge q r).Stays
  compose : ∀ m, h.HasMessage m → ∀ subject actor, (h.compose m subject actor).Stays

/-- What is unnoticed in every way to answer calls means the same at every depth. -/
theorem agree_of_unnoticed {α : Type} {p : Program α} {w : Work}
    (hp : Run.Unnoticed h (fun perform => p.run perform) w) (o o' : Oracle π μ) :
    AgreeAt True (p.run (h.perform o)) (p.run (h.perform o')) w := by
  obtain ⟨y, hsame, hends, -⟩ := hp
  have hrun : ∀ o, p.run (h.perform o) w = y := fun o => hsame _ fun _ _ _ _ => ⟨o, rfl⟩
  rw [AgreeAt, hrun o, hrun o']
  exact ⟨rfl, fun _ => hends⟩

/-- Host code that stays means at every depth what it means at the first. -/
theorem agree_oracle (hstays : h.Stays) (depth : Nat) :
    (h.oracle 1).AgreeWhereOff h True (h.oracle (depth + 1)) where
  judge q hq r _ hoff := agree_of_unnoticed (h.run_of_off (hstays.judge q hq r) hoff) _ _
  compose m hm subject actor _ hoff :=
    agree_of_unnoticed (h.run_of_off (hstays.compose m hm subject actor) hoff) _ _

variable (h) in
/-- Predicates and message rules are themselves neither checked nor audited. -/
structure Unchecked : Prop where
  /-- The library enters host code with enforcement off only: whatever else host code means where
  enforcement is on, no program comes to anything else. -/
  entered : ∀ (o other : Oracle π μ) (α : Type) (p : Program α),
    p.run (h.perform (o.whereOff other)) = p.run (h.perform o)
  /-- A call made with enforcement off comes to the same whatever host code means, so it enters
  none; no check objects, and nothing is captured or recorded. -/
  spared : ∀ c w, c ≠ .reset → w.context.enforcing = false →
    ∃ y, (∀ o, h.perform o c w = y) ∧ Spared h c w y
  /-- A predicate that is entered so makes all of its calls so: no check objects, nothing is
  captured or recorded, and no host code is entered. -/
  judged : ∀ q, h.HasPredicate q → ∀ r w, w.context.enforcing = false →
    Run.Unnoticed h (fun perform => (h.judge q r).run perform) w
  /-- So does a message rule. -/
  composed : ∀ m, h.HasMessage m → ∀ subject actor w, w.context.enforcing = false →
    Run.Unnoticed h (fun perform => (h.compose m subject actor).run perform) w
  /-- Host code is entered at one depth, which is enough for every program. -/
  nesting : ∀ (α : Type) (p : Program α) (w : Work),
    (h.run 1 p w).1 ≠ .error .tooDeep ∧ ∀ depth, h.run (depth + 1) p w = h.run 1 p w

/-- **Host code is never itself checked or audited**, and never enters other host code. -/
theorem unchecked (hstays : h.Stays) : h.Unchecked where
  entered o other _ p := funext fun w => (agree_run (agree_whereOff h o other) p w).1
  spared _ _ hreset hoff := perform_of_off hoff hreset
  judged q hq r _ hoff := h.run_of_off (hstays.judge q hq r) hoff
  composed m hm subject actor _ hoff := h.run_of_off (hstays.compose m hm subject actor) hoff
  nesting _ p w := ⟨(agree_run (agree_oracle hstays 0) p w).2 trivial,
    fun depth => (agree_run (agree_oracle hstays depth) p w).1.symm⟩

/-- The policy of a type, whose predicate and message are about a policy of another one. -/
def referring (type other : String) : Policy String String where
  entityType := type
  rules := ⟨none, [⟨.action .find, other⟩], false⟩
  audits := ⟨[⟨.find, .all, some other⟩]⟩
  store := .null
  recording := true

/-- Two policies that refer to each other: either grants a find if the other does, and has the
other find the subject of a message. -/
def circle : Host String String where
  policy? name :=
    if name = "page" then some (referring "page" "user")
    else if name = "user" then some (referring "user" "page") else none
  judge other r := .call (.isGranted other .find r.subject)
  compose other subject _ := .ask (.afterFind other subject) fun _ => .done "found"

theorem unchecked_circle : circle.Stays ∧ ∀ depth,
    (circle.run (depth + 1) (.ask (.afterFind "page" (.plain "page" (some "1"))) fun x =>
      .done x.isOk) (.start .epoch)).1 = .ok true := by
  have hstays : circle.Stays :=
    ⟨fun _ _ _ => ⟨by simp, fun _ => trivial⟩, fun _ _ _ _ => ⟨by simp, fun _ => trivial⟩⟩
  refine ⟨hstays, fun depth => ?_⟩
  rw [((unchecked hstays).nesting _ _ _).2 depth]
  rfl

end Host

end LifecycleGuard
