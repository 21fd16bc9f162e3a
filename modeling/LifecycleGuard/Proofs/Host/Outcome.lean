import LifecycleGuard.Proofs.Host.Unchecked
import LifecycleGuard.Proofs.Work.Settings

/-!
# What permission outcomes depend on

A call may end in a denial, and a question about permission has an answer.  This is the outcome of
the call.  It depends on few things only, if predicates and message rules depend on nothing but what
they are asked about (`Oracle.Plain`).

**Views.**  A view is a part of the settings of a context.  An evaluator that `Sees` what it looks
at in a view cannot tell contexts from each other that are the same in the view.

**Runs.**  `Run.Seen` says of two runs that they keep settings, and come to the same in contexts
that are the same in a view.  It is a `Run.Simulation`, so it carries over from predicates to
checks; captures come in only because nothing is denied by them.

**Calls.**  `sameOutcome_perform` puts this together for every call: its outcome depends on the view
only, if what the call is about can be seen in the view.  Host code that does nothing but compute
is plain (`Host.plain_oracle`).
-/

namespace LifecycleGuard

variable {π μ : Type}

open Run

/-! ## Outcomes -/

/-- The denial that an answer is. -/
def PolicyError.denialOf? {α : Type} : Except PolicyError α → Option Denial
  | .error (.denied d) => some d
  | _ => none

theorem PolicyError.denialOf?_audit {α : Type} (x : Except AuditError α) :
    denialOf? (x.mapError PolicyError.audit) = none := by
  cases x <;> rfl

namespace Command

/-- Answers of which both deny for the same reason or none denies, or that answer a question about
permission in the same way. -/
def SameOutcome : (c : Command) → c.Answer → c.Answer → Prop
  | checkAction .., x, x' => x = x'
  | checkAttributes .., x, x' => x = x'
  | isGranted .., x, x' => x = x'
  | isAttributeGranted .., x, x' => x = x'
  | granted .., x, x' => x = x'
  | before .., x, x' => x = x'
  | after .., x, x' => PolicyError.denialOf? x = PolicyError.denialOf? x'
  | afterFind .., x, x' => PolicyError.denialOf? x = PolicyError.denialOf? x'
  | beforeAssociation .., x, x' => x = x'
  | _, _, _ => True

/-- What a call does to the settings. -/
def setting : Command → Context → Context
  | setActor a => fun c => c.withActor a
  | reset => Context.reset
  | _ => id

/-- A call that is there to change the settings. -/
def Sets : Command → Prop
  | setActor _ => True
  | reset => True
  | _ => False

end Command

/-- Predicates and message rules that depend on what they are asked about only.  None of them fails,
and they leave settings alone. -/
structure Oracle.Plain (o : Oracle π μ) (answer : π → Request → Bool)
    (text : μ → Entity → Option Actor → String) : Prop where
  judge : Evaluator.Answers o.judge answer
  judge_keeps : ∀ q r, Keeps (o.judge q r)
  compose : Recorder.Composes o.compose text
  compose_keeps : ∀ m subject actor, Keeps (o.compose m subject actor)

/-! ## Views -/

/-- An evaluator that is asked about an entity finds in a view all that it looks at. -/
def Evaluator.Sees (e : Evaluator π) (subject : Entity) (view : Context → Context) : Prop :=
  ∀ c, (view c).actor = c.actor ∧ e.bypassed subject (view c) = e.bypassed subject c

theorem Evaluator.Sees.alike {e : Evaluator π} {subject : Entity} {view : Context → Context}
    (h : e.Sees subject view) (c c' : Context) (hc : view c = view c') :
    c.actor = c'.actor ∧ e.bypassed subject c = e.bypassed subject c' := by
  obtain ⟨hactor, hbypassed⟩ := h c
  obtain ⟨hactor', hbypassed'⟩ := h c'
  rw [← hactor, ← hbypassed, hc]
  exact ⟨hactor', hbypassed'⟩

/-- What a call is about can be seen in a view. -/
def Command.SeenIn (h : Host π μ) (view : Context → Context) (c : Command) : Prop :=
  ∀ name p subject, c.policyName? = some name → h.policy? name = some p →
    c.subject? = some subject → p.evaluator.Sees subject view

/-! ## Runs -/

namespace Run

variable {α β : Type}

/-- Two runs keep settings, and come to the same where contexts are the same in a view. -/
structure Seen (view : Context → Context) (A : α → α → Prop) (r r' : Run α) : Prop where
  keeps : Keeps r
  keeps' : Keeps r'
  ends : ∀ w w' : Work, view w.context = view w'.context → SameEnd A (r w).1 (r' w').1

namespace Seen

variable {view : Context → Context} {A : α → α → Prop} {B : β → β → Prop} {r r' : Run α}

theorem pure {x x' : α} (hx : A x x') : Seen view A (Pure.pure x) (Pure.pure x') :=
  ⟨.pure x, .pure x', fun _ _ _ => .ok hx⟩

theorem panic (text : String) : Seen view A (Run.panic text) (Run.panic text) :=
  ⟨.panic text, .panic text, fun _ _ _ => .error _⟩

/-- A run that always has the same result. -/
theorem of_constant {x : α} (hr : Keeps r) (hx : ∀ w, (r w).1 = .ok x) : Seen view Eq r r := by
  refine ⟨hr, hr, fun w w' _ => ?_⟩
  rw [hx w, hx w']
  exact .ok rfl

/-- A run whose result does not matter, as long as there is one. -/
theorem of_answers (hr : Keeps r) (hx : ∀ w, ∃ x, (r w).1 = .ok x) :
    Seen view (fun _ _ => True) r r := by
  refine ⟨hr, hr, fun w w' _ => ?_⟩
  obtain ⟨x, hx₁⟩ := hx w
  obtain ⟨x', hx₁'⟩ := hx w'
  rw [hx₁, hx₁']
  exact .ok trivial

theorem context {f f' : Context → Run β}
    (hf : ∀ c c', view c = view c' → Seen view B (f c) (f' c')) :
    Seen view B (Run.context >>= f) (Run.context >>= f') where
  keeps := .context fun c => (hf c c rfl).keeps
  keeps' := .context fun c => (hf c c rfl).keeps'
  ends w w' hc := (hf w.context w'.context hc).ends w w' hc

variable (hview : ∀ c, view c.settings = view c)

include hview

theorem view_of_kept {w w₁ : Work} (h : w.Kept w₁) : view w₁.context = view w.context := by
  rw [← hview, h.context, hview]

theorem bind {f f' : α → Run β} (hA : ∀ x, A x x) (hr : Seen view A r r')
    (hf : ∀ x x', A x x' → Seen view B (f x) (f' x')) : Seen view B (r >>= f) (r' >>= f') := by
  refine ⟨.bind hr.keeps fun x => (hf x x (hA x)).keeps,
    .bind hr.keeps' fun x => (hf x x (hA x)).keeps', fun w w' hc => ?_⟩
  have hends := hr.ends w w' hc
  have hkept := hr.keeps w
  have hkept' := hr.keeps' w'
  rcases hrun : r w with ⟨x, w₁⟩
  rcases hrun' : r' w' with ⟨x', w₁'⟩
  rw [hrun, hrun'] at hends
  rw [hrun] at hkept
  rw [hrun'] at hkept'
  cases hends with
  | error i =>
      rw [bind_of_error hrun, bind_of_error hrun']
      exact .error i
  | ok hx =>
      rw [bind_of_ok hrun, bind_of_ok hrun']
      refine (hf _ _ hx).ends w₁ w₁' ?_
      rw [view_of_kept hview hkept, view_of_kept hview hkept']
      exact hc

/-- The rest of a run does not matter to what comes of its first step. -/
theorem bind_eq {f f' : α → Run β} (hr : Seen view Eq r r')
    (hf : ∀ x, Seen view B (f x) (f' x)) : Seen view B (r >>= f) (r' >>= f') :=
  bind hview (fun _ => rfl) hr fun x _ hx => hx ▸ hf x

end Seen

/-- Checks see what predicates and the evaluator see. -/
theorem simulation_seen {view : Context → Context} (hview : ∀ c, view c.settings = view c) :
    Simulation (fun c c' => view c = view c') fun _ r r' => Seen view Eq r r' where
  pure _ := .pure rfl
  context := .context
  note e := ⟨.note e, .note e, fun _ _ _ => .ok rfl⟩
  bind hr hf := Seen.bind_eq hview hr hf

end Run

/-! ## Captures -/

namespace Recorder

variable {compose : μ → Entity → Option Actor → Run String}
  {text : μ → Entity → Option Actor → String} (h : Composes compose text) (r : Recorder μ)

include h

theorem fst_begin (a : Action) (subject : Entity) (w : Work) :
    (r.begin compose a subject w).1 = .ok () := by
  cases hd : r.applicable? a subject w.context with
  | none =>
      obtain ⟨events, hbegin⟩ := r.begin_of_none hd
      exact congrArg Prod.fst (hbegin compose)
  | some d =>
      cases ha : a.isMutation with
      | false =>
          rw [begin, ha]
          rfl
      | true => exact (r.begin_captures h ha hd).1

theorem fst_record (subject : Entity) (w : Work) : ∃ x, (r.record compose subject w).1 = .ok x := by
  cases hd : r.applicable? .find subject w.context with
  | none =>
      obtain ⟨events, hrecord⟩ := r.record_of_none hd
      exact ⟨_, congrArg Prod.fst (hrecord compose)⟩
  | some d =>
      obtain ⟨_, _, _, -, hanswer, -⟩ := r.record_persists h hd
      exact ⟨_, hanswer⟩

end Recorder

/-! ## Calls -/

section Calls

variable {h : Host π μ} {o : Oracle π μ} {answer : π → Request → Bool}
  {text : μ → Entity → Option Actor → String} (ho : o.Plain answer text)
  {view : Context → Context} (hview : ∀ c, view c.settings = view c)

theorem seen_withPolicy {α : Type} {A : α → α → Prop} (name : String) {f : Policy π μ → Run α}
    (hf : ∀ p, h.policy? name = some p → Seen view A (f p) (f p)) :
    Seen view A (h.withPolicy name f) (h.withPolicy name f) :=
  Host.withPolicy_rel (R := Seen view A) name f f .panic hf

theorem keeps_withPolicy {α : Type} (name : String) {f : Policy π μ → Run α}
    (hf : ∀ p, Keeps (f p)) : Keeps (h.withPolicy name f) :=
  Host.withPolicy_rel (R := fun r _ => Keeps r) name f f .panic fun p _ => hf p

include ho

theorem seen_permits (p : Policy π μ) : ∀ rule ∈ p.evaluator.book.rules, ∀ r,
    Seen view Eq (Evaluator.permits o.judge r rule) (Evaluator.permits o.judge r rule) := by
  intro rule _ r
  exact .of_constant (.within .enforcement (ho.judge_keeps rule.predicate r))
    (Evaluator.fst_permits ho.judge r rule)

theorem seen_begin (p : Policy π μ) (a : Action) (subject : Entity) :
    Seen view Eq (p.recorder.begin o.compose a subject) (p.recorder.begin o.compose a subject) :=
  .of_constant (p.recorder.keeps_begin ho.compose_keeps a subject)
    (p.recorder.fst_begin ho.compose a subject)

include hview

theorem seen_afterFind {p : Policy π μ} {subject : Entity}
    (hsees : p.evaluator.Sees subject view) :
    Seen view (fun x x' => PolicyError.denialOf? x = PolicyError.denialOf? x')
      (p.afterFind o subject) (p.afterFind o subject) := by
  refine .bind_eq hview ((simulation_seen hview).checkTarget (seen_permits ho p) hsees.alike)
    fun checked => ?_
  cases checked with
  | error d => exact .pure rfl
  | ok _ =>
      refine .bind hview (fun _ => trivial)
        (.of_answers (p.recorder.keeps_record ho.compose_keeps subject)
          (p.recorder.fst_record ho.compose subject)) fun x x' _ => .pure ?_
      rw [PolicyError.denialOf?_audit, PolicyError.denialOf?_audit]

omit ho in
theorem seen_after (p : Policy π μ) (a : Action) (subject : Entity) :
    Seen view (fun x x' => PolicyError.denialOf? x = PolicyError.denialOf? x')
      (p.after a subject) (p.after a subject) := by
  refine .bind hview (fun _ => trivial)
    (.of_answers (p.recorder.keeps_commit a subject) (p.recorder.fst_commit a subject))
    fun x x' _ => .pure ?_
  rw [PolicyError.denialOf?_audit, PolicyError.denialOf?_audit]

/-- A call that is not one to set something depends on the view only. -/
theorem seen_perform {c : Command} (hc : c.SeenIn h view) (hset : ¬ c.Sets) :
    Seen view c.SameOutcome (h.perform o c) (h.perform o c) := by
  have hseen := simulation_seen hview
  have hlook : ∀ {α : Type} (f : Context → α), Seen view (fun _ _ => True)
      (Run.context >>= fun c => Pure.pure (f c)) (Run.context >>= fun c => Pure.pure (f c)) :=
    fun f => .of_answers (.context fun c => .pure (f c)) fun w => ⟨f w.context, rfl⟩
  have hasks : c.Asks → Seen view Eq (h.perform o c) (h.perform o c) := fun hasks =>
    hseen.asking .panic (fun _ p _ => seen_permits ho p) (fun _ p _ => seen_begin ho p) hasks
      fun name p subject hname hp hsubject => (hc name p subject hname hp hsubject).alike
  cases c with
  | actor => exact hlook Context.actor
  | isEnforcing => exact hlook Context.enforcing
  | isAuditing => exact hlook Context.auditing
  | isSecurityBypassed type => exact hlook fun c => c.isSecurityBypassed type
  | isAuditBypassed type => exact hlook fun c => c.isAuditBypassed type
  | hasInFlight type => exact hlook fun c => c.hasInFlight type
  | setActor a => exact absurd trivial hset
  | reset => exact absurd trivial hset
  | label text => exact .of_answers (.leaveLabel text) fun _ => ⟨(), rfl⟩
  | after name a subject => exact seen_withPolicy name fun p _ => seen_after hview p a subject
  | abandon name =>
      refine seen_withPolicy name fun p _ => .of_answers (.abandon p.entityType) fun w => ?_
      obtain ⟨events, habandon⟩ := abandon_apply p.entityType w
      exact ⟨(), congrArg Prod.fst habandon⟩
  | afterFind name subject =>
      exact seen_withPolicy name fun p hp => seen_afterFind ho hview (hc name p subject rfl hp rfl)
  | _ => exact hasks trivial

/-- **The outcome of a call** depends on the view only. -/
theorem sameOutcome_perform {c : Command} (hc : c.SeenIn h view) {w w' : Work}
    (hw : view w.context = view w'.context) :
    SameEnd c.SameOutcome (h.perform o c w).1 (h.perform o c w').1 := by
  by_cases hset : c.Sets
  · cases c with
    | setActor a => exact .ok trivial
    | reset => exact .ok trivial
    | _ => exact hset.elim
  · exact (seen_perform ho hview hc hset).ends w w' hw

omit hview in
/-- A call does nothing to the settings but what it is there for. -/
theorem settled_perform (c : Command) (w : Work) :
    (w.change c.setting).Kept (h.perform o c w).2 := by
  by_cases hset : c.Sets
  · cases c with
    | setActor a => exact .refl _
    | reset => exact .refl _
    | _ => exact hset.elim
  · have hall : c.SeenIn h Context.settings := fun _ _ _ _ _ _ _ => ⟨rfl, rfl⟩
    have hkept : w.Kept (h.perform o c w).2 := (seen_perform ho (fun _ => rfl) hall hset).keeps w
    have hid : c.setting = id := by
      cases c with
      | setActor a => exact absurd trivial hset
      | reset => exact absurd trivial hset
      | _ => rfl
    rw [hid]
    exact hkept.change_id

end Calls

/-- Host code that does nothing but compute is plain, wherever it may be entered at all. -/
theorem Host.plain_oracle {h : Host π μ} {answer : π → Request → Bool}
    {text : μ → Entity → Option Actor → String}
    (hjudge : ∀ q r, h.judge q r = .done (answer q r))
    (hcompose : ∀ m subject actor, h.compose m subject actor = .done (text m subject actor))
    (depth : Nat) : (h.oracle (depth + 1)).Plain answer text := by
  have hjudged : ∀ q r, (h.oracle (depth + 1)).judge q r = Pure.pure (answer q r) := fun q r =>
    congrArg (Program.run (h.perform (h.oracle depth))) (hjudge q r)
  have hcomposed : ∀ m subject actor, (h.oracle (depth + 1)).compose m subject actor
      = Pure.pure (text m subject actor) := fun m subject actor =>
    congrArg (Program.run (h.perform (h.oracle depth))) (hcompose m subject actor)
  refine ⟨fun q r w => ?_, fun q r => ?_, fun m subject actor w => ?_, fun m subject actor => ?_⟩
  · rw [hjudged]
    rfl
  · rw [hjudged]
    exact .pure _
  · rw [hcomposed]
    rfl
  · rw [hcomposed]
    exact .pure _

end LifecycleGuard
