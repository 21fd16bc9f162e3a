import LifecycleGuard.Host.Service
import LifecycleGuard.Proofs.Registry.Building

/-!
# Declarations that fail

A call that declares something changes a policy entry by entry, and what it has changed by the time
it fails stays changed.  Still no call leaves only a part of what it was to declare.

**Wholes.**  `Revision.whole` is a revision that is done as a whole or not at all, and every call
is one: what it does in place is what `Policy.grant` and its like say of the whole call
(`Policy.Declaration.make_eq`).  Where one step follows on another, the second must not fail after
the first has succeeded (`Revision.whole_bind`).  Most steps cannot fail.  Those of
`AuditBook.auditing` can, but all of them check the same filter (`AuditBook.registerAll_accepted`).

**Calls.**  `Policy.Atomic` says what a call does: it declares everything that it names, or it
leaves the policy as it was and reports nothing.

**Later.**  `Service.failed_declarations_vanish` draws the conclusion for all that happens while a
host serves: with the failed calls left out everything else comes to the same.
-/

namespace LifecycleGuard

variable {π μ ε σ τ α : Type}

/-! ## Wholes -/

namespace Noted

variable {β : Type}

/-- If it fails it reports nothing. -/
def Silent (x : Noted ε α) : Prop := ∀ e, x.result = .error e → x = .ofExcept (.error e)

theorem silent_ofExcept (r : Except ε α) : (ofExcept r).Silent := by
  rintro e rfl
  rfl

/-- What follows on a step that reports nothing. -/
theorem silent_ofExcept_bind (r : Except ε α) {f : α → Noted ε β}
    (h : ∀ a, r = .ok a → (f a).Silent) : (ofExcept r >>= f).Silent := by
  cases r with
  | error e => exact silent_ofExcept (.error e)
  | ok a => exact h a rfl

/-- What cannot fail after a first step reports nothing that is lost. -/
theorem Silent.bind {f : α → Noted ε β} (hx : x.Silent)
    (h : ∀ a, x.result = .ok a → ∃ b, (f a).result = .ok b) : (x >>= f).Silent := by
  intro e he
  rcases bind_error.mp he with hfirst | ⟨a, ha, hsecond⟩
  · rw [hx e hfirst]
    rfl
  · obtain ⟨b, hb⟩ := h a ha
    rw [hb] at hsecond
    cases hsecond

end Noted

namespace Revision

/-- Do as a whole what a function says.  Where it gives nothing the thing stays as it is. -/
def whole (f : σ → Noted ε σ) : Revision ε σ Unit := fun s =>
  match f s with
  | ⟨events, .ok s'⟩ => (⟨events, .ok ()⟩, s')
  | ⟨events, .error e⟩ => (⟨events, .error e⟩, s)

variable {f g : σ → Noted ε σ} {s : σ} {events : List Event}

theorem whole_of_ok {s' : σ} (h : f s = ⟨events, .ok s'⟩) :
    whole f s = (⟨events, .ok ()⟩, s') := by
  rw [whole, h]

theorem whole_of_error {e : ε} (h : f s = ⟨events, .error e⟩) :
    whole f s = (⟨events, .error e⟩, s) := by
  rw [whole, h]

theorem whole_congr (h : f s = g s) : whole f s = whole g s := by
  rw [whole, whole, h]

theorem modify_eq (f : σ → σ) :
    (modify f : Revision ε σ Unit) = whole fun s => Noted.pure (f s) := rfl

theorem ofExcept_error (e : ε) :
    (ofExcept (.error e) : Revision ε σ Unit) = whole fun _ => .ofExcept (.error e) := rfl

theorem whole_ite (c : Bool) :
    (if c then whole f else whole g) = whole fun s => if c then f s else g s := by
  cases c <;> rfl

theorem whole_ok {s' : σ} :
    ((whole f s).1.result = .ok () ∧ (whole f s).2 = s') ↔ (f s).result = .ok s' := by
  rcases hf : f s with ⟨events, e | s''⟩
  · simp [whole_of_error hf]
  · simp [whole_of_ok hf]

/-- A whole that fails has done nothing, but for what it has reported. -/
theorem whole_error (hf : (f s).Silent) {e : ε} (h : (whole f s).1.result = .error e) :
    whole f s = (.ofExcept (.error e), s) := by
  rcases hfs : f s with ⟨events, e' | s'⟩
  · rw [whole_of_error hfs] at h ⊢
    obtain rfl := Except.error.inj h
    have hsilent := hf e' (by rw [hfs])
    rw [hfs] at hsilent
    obtain rfl : events = [] := congrArg Noted.events hsilent
    rfl
  · rw [whole_of_ok hfs] at h
    cases h

/-- Two wholes are one if the second cannot fail after the first has succeeded. -/
theorem whole_bind (h : ∀ s s', (f s).result = .ok s' → ∃ s'', (g s').result = .ok s'') :
    (whole f >>= fun _ => whole g) = whole fun s => f s >>= g := by
  funext s
  rcases hf : f s with ⟨before, e | s'⟩
  · rw [bind_of_error _ (whole_of_error hf), whole_of_error (Noted.bind_of_error hf g)]
  · obtain ⟨s'', hs''⟩ := h s s' (by rw [hf])
    rcases hg : g s' with ⟨after, r⟩
    obtain rfl : r = .ok s'' := by rw [← hs'', hg]
    have hboth := Noted.bind_of_ok hf g
    rw [hg] at hboth
    rw [bind_of_ok _ (whole_of_ok hf), whole_of_ok hg, whole_of_ok hboth]

/-- A whole on a part is a whole. -/
theorem part_whole (view : σ → τ) (put : σ → τ → σ) (hput : ∀ s, put s (view s) = s)
    (f : τ → Noted ε τ) :
    part view put (whole f) = whole fun s => f (view s) >>= fun t => Noted.pure (put s t) := by
  funext s
  rcases hf : f (view s) with ⟨events, e | t⟩
  · rw [part, whole_of_error hf, whole_of_error (Noted.bind_of_error hf _)]
    exact congrArg (Prod.mk _) (hput s)
  · rw [part, whole_of_ok hf, whole_of_ok (Noted.bind_of_ok hf _), Noted.pure, List.append_nil]

/-- What is read before a whole changes nothing. -/
theorem ofExcept_bind_whole (x : Except ε α) (f : α → σ → Noted ε σ) :
    (ofExcept x >>= fun a => whole (f a)) = whole fun s => .ofExcept x >>= fun a => f a s := by
  cases x with
  | error e => rfl
  | ok a => exact ofExcept_ok_bind _ a

/-- Changes that are made for all members of a list. -/
theorem each_modify (f : α → σ → σ) (l : List α) :
    (each (fun x => modify (f x)) l : Revision ε σ Unit)
      = modify fun s => l.foldl (fun s x => f x s) s := by
  induction l with
  | nil => rfl
  | cons x rest ih =>
      rw [each, ih]
      rfl

end Revision

/-! ## Rules -/

namespace RuleBook

open Revision

/-- Rules that are put behind the others one after the other. -/
theorem each_push (predicate : π) (target : α → RuleTarget) (l : List α) :
    each (fun x => push predicate (target x)) l
      = modify fun b : RuleBook π =>
        { b with rules := b.rules ++ l.map fun x => ⟨target x, predicate⟩ } := by
  show each (fun x => modify _) l = _
  rw [each_modify]
  congr 1
  funext b
  induction l generalizing b with
  | nil => simp
  | cons x rest ih =>
      rw [List.foldl_cons, ih]
      simp

theorem registering_eq (type : String) (s : RuleSpec) (predicate : π) :
    registering type s predicate = whole (register type s predicate) := by
  have hadd : (fun b : RuleBook π => b.add s predicate) = fun b => { b with
      rules := b.rules ++ s.actions.toList.map (fun a => ⟨.action a, predicate⟩)
        ++ s.attributes.toList.map (fun name => ⟨.attr name, predicate⟩)
        ++ s.relationPairs.map fun p => ⟨.association p.1 p.2, predicate⟩ } := by
    funext b
    simp only [add, targets, List.map_append, List.map_map, List.append_assoc]
    rfl
  unfold registering register
  simp only [each_push, ofExcept_error, ← whole_ite]
  congr 1
  funext b
  show _ = whole (fun b => ⟨_, .ok ((fun b => b.add s predicate) b)⟩) b
  rw [hadd]
  rfl

theorem registeringAttributes_eq (type : String) (s : RuleSpec) (predicate : π) :
    registeringAttributes type s predicate = whole (registerAttributes type s predicate) := by
  unfold registeringAttributes registerAttributes
  simp only [registering_eq, ofExcept_error, whole_ite]

theorem silent_register (type : String) (s : RuleSpec) (predicate : π) (b : RuleBook π) :
    (register type s predicate b).Silent := by
  unfold register
  cases s.filter.isEmpty with
  | false => exact Noted.silent_ofExcept _
  | true => exact fun e he => by cases he

theorem silent_registerAttributes (type : String) (s : RuleSpec) (predicate : π) (b : RuleBook π) :
    (registerAttributes type s predicate b).Silent := by
  unfold registerAttributes
  split
  · exact Noted.silent_ofExcept _
  · split
    · exact Noted.silent_ofExcept _
    · exact silent_register type s predicate b

end RuleBook

/-! ## Audit declarations -/

/-- A specification that names actions and nothing else, and whose filter is valid. -/
structure RuleSpec.OnlyActions (s : RuleSpec) : Prop where
  attributes : s.attributes.isEmpty = true
  relations : s.namesRelation = false
  actions : s.actions.isEmpty = false
  filter : s.filter.validate = .ok ()

namespace AuditBook

open Revision

theorem registering_eq (type : String) (d : AuditDeclaration μ) :
    registering type d = whole (register type d) := by
  funext b
  unfold registering register
  cases d.filter.validate with
  | error e => rfl  -- The book has not been touched yet.
  | ok _ =>
      rw [Revision.ofExcept_ok_bind, Revision.get_bind, Revision.modify_bind]
      cases hdeclares : b.declares d.action with
      | false => simp [whole, hdeclares, Pure.pure, Revision.pure, Noted.pure]
      | true => simp [whole, hdeclares, note, Noted.note]

/-- The declarations for several actions are about one filter, so none of them is refused when
another has been accepted. -/
theorem registerAll_accepted {type : String} {filter : ChangeFilter} {message : Option μ}
    {a : Action} {b b' : AuditBook μ} (h : (register type ⟨a, filter, message⟩ b).result = .ok b')
    (as : List Action) : ∃ b'',
      (registerAll type (as.map fun a => ⟨a, filter, message⟩) b').result = .ok b'' := by
  obtain ⟨hvalid, -⟩ := register_ok.mp h
  exact ⟨_, registerAll_ok.mpr ⟨by simpa using fun _ _ => hvalid, rfl⟩⟩

theorem each_registering (type : String) (filter : ChangeFilter) (message : Option μ)
    (as : List Action) :
    each (fun a => registering type ⟨a, filter, message⟩) as
      = whole (registerAll type (as.map fun a => ⟨a, filter, message⟩)) := by
  induction as with
  | nil => rfl
  | cons a rest ih =>
      rw [each, ih, registering_eq, whole_bind fun _ _ hb => registerAll_accepted hb rest]
      rfl

theorem auditing_eq (type : String) (s : RuleSpec) (message : Option μ) :
    auditing type s message = whole (auditOn type s message) := by
  unfold auditing auditOn
  simp only [each_registering, Revision.ofExcept_error, whole_ite]

theorem silent_register (type : String) (d : AuditDeclaration μ) (b : AuditBook μ) :
    (register type d b).Silent := by
  unfold register
  cases d.filter.validate with
  | error e => exact Noted.silent_ofExcept _
  | ok _ => exact fun e he => by cases he

theorem silent_auditOn (type : String) (s : RuleSpec) (message : Option μ) (b : AuditBook μ) :
    (auditOn type s message b).Silent := by
  unfold auditOn
  split
  · exact Noted.silent_ofExcept _
  · split
    · exact Noted.silent_ofExcept _
    · cases s.actions.toList with
      | nil => exact fun e he => by cases he
      | cons a rest =>
        exact (silent_register type _ b).bind fun _ hb => registerAll_accepted hb rest

theorem auditOn_ok {type : String} {s : RuleSpec} {message : Option μ} {b b' : AuditBook μ} :
    (auditOn type s message b).result = .ok b' ↔ s.OnlyActions ∧
      b' = ⟨b.declarations ++ s.actions.toList.map fun a => ⟨a, s.filter, message⟩⟩ := by
  unfold auditOn
  split
  · rename_i hscope
    refine iff_of_false (by simp) fun h => ?_
    simp [h.1.attributes, h.1.relations] at hscope
  · rename_i hscope
    simp only [Bool.or_eq_true, Bool.not_eq_true', not_or, Bool.not_eq_false,
      Bool.not_eq_true] at hscope
    split
    · rename_i hempty
      refine iff_of_false (by simp) fun h => ?_
      simp [h.1.actions] at hempty
    · rename_i hempty
      rw [registerAll_ok]
      refine and_congr_left fun _ => ⟨fun h => ?_, fun h => ?_⟩
      · obtain ⟨a, ha⟩ := (SortedSet.isEmpty_eq_false_iff _).mp (Bool.eq_false_iff.mpr hempty)
        refine ⟨hscope.1, hscope.2, Bool.eq_false_iff.mpr hempty, ?_⟩
        exact h ⟨a, s.filter, message⟩
          (List.mem_map_of_mem ((SortedSet.mem_toList_iff _ _).mpr ha))
      · simpa using fun _ _ => h.filter

end AuditBook

/-! ## Calls -/

namespace Policy

open Revision

/-- What a call comes to as a whole. -/
def Declaration.whole : Declaration π μ → Policy π μ → Noted DeclarationError (Policy π μ)
  | grant tokens predicate, p => p.grant tokens predicate
  | grantAttributes tokens predicate, p => p.grantAttributes tokens predicate
  | secureAttributes, p => .pure p.secureAttributes
  | auditOn tokens message, p => p.auditOn tokens message
  | audit d, p => p.audit d

theorem onRules_whole (f : RuleBook π → Noted DeclarationError (RuleBook π)) :
    onRules (Revision.whole f) = Revision.whole fun p : Policy π μ => f p.rules >>= fun b =>
      Noted.pure { p with rules := b } :=
  part_whole _ _ (fun _ => rfl) f

theorem onAudits_whole (f : AuditBook μ → Noted DeclarationError (AuditBook μ)) :
    onAudits (Revision.whole f) = Revision.whole fun p : Policy π μ => f p.audits >>= fun b =>
      Noted.pure { p with audits := b } :=
  part_whole _ _ (fun _ => rfl) f

theorem reading_whole (tokens : List RuleToken)
    (f : String → RuleSpec → Policy π μ → Noted DeclarationError (Policy π μ)) :
    (reading tokens fun type s => Revision.whole (f type s)) = Revision.whole fun p =>
      Noted.ofExcept (RuleSpec.ofTokens p.rules.schema tokens) >>= fun s => f p.entityType s p := by
  funext p
  rw [reading, Revision.get_bind, ofExcept_bind_whole]
  exact whole_congr rfl

/-- **A call is made as a whole.** -/
theorem Declaration.make_eq (d : Declaration π μ) : d.make = Revision.whole d.whole := by
  cases d with
  | grant tokens predicate =>
      simp only [make, RuleBook.registering_eq, onRules_whole, reading_whole]
      rfl
  | grantAttributes tokens predicate =>
      simp only [make, RuleBook.registeringAttributes_eq, onRules_whole, reading_whole]
      rfl
  | secureAttributes =>
      rw [make, Revision.modify_eq, onRules_whole]
      rfl
  | auditOn tokens message =>
      simp only [make, AuditBook.auditing_eq, onAudits_whole, reading_whole]
      rfl
  | audit d =>
      funext p
      rw [make, Revision.get_bind, AuditBook.registering_eq, onAudits_whole]
      rfl

theorem Declaration.silent_whole (d : Declaration π μ) (p : Policy π μ) : (d.whole p).Silent := by
  cases d with
  | grant tokens predicate =>
      refine Noted.silent_ofExcept_bind (RuleSpec.ofTokens p.rules.schema tokens) fun s _ => ?_
      exact (RuleBook.silent_register p.entityType s predicate p.rules).bind fun b _ => ⟨_, rfl⟩
  | grantAttributes tokens predicate =>
      refine Noted.silent_ofExcept_bind (RuleSpec.ofTokens p.rules.schema tokens) fun s _ => ?_
      exact (RuleBook.silent_registerAttributes p.entityType s predicate p.rules).bind
        fun b _ => ⟨_, rfl⟩
  | secureAttributes => exact fun e he => by cases he
  | auditOn tokens message =>
      refine Noted.silent_ofExcept_bind (RuleSpec.ofTokens p.rules.schema tokens) fun s _ => ?_
      exact (AuditBook.silent_auditOn p.entityType s message p.audits).bind fun b _ => ⟨_, rfl⟩
  | audit d =>
      exact (AuditBook.silent_register p.entityType d p.audits).bind fun b _ => ⟨_, rfl⟩

/-- A call is accepted by a policy, which then declares everything that the call names. -/
def Declaration.Declares (p : Policy π μ) : Declaration π μ → Policy π μ → Prop
  | grant tokens predicate, p' => ∃ s, RuleSpec.ofTokens p.rules.schema tokens = .ok s ∧
    s.Unfiltered ∧ p' = { p with rules := p.rules.add s predicate }
  | grantAttributes tokens predicate, p' => ∃ s,
    RuleSpec.ofTokens p.rules.schema tokens = .ok s ∧
    s.OnlyAttributes ∧ p' = { p with rules := p.rules.add s predicate }
  | secureAttributes, p' => p' = p.secureAttributes
  | auditOn tokens message, p' => ∃ s, RuleSpec.ofTokens p.rules.schema tokens = .ok s ∧
    s.OnlyActions ∧ p' = { p with audits :=
      ⟨p.audits.declarations ++ s.actions.toList.map fun a => ⟨a, s.filter, message⟩⟩ }
  | audit d, p' => d.filter.validate = .ok () ∧
    p' = { p with audits := ⟨p.audits.declarations ++ [d]⟩ }

theorem Declaration.whole_ok {d : Declaration π μ} {p p' : Policy π μ} :
    (d.whole p).result = .ok p' ↔ d.Declares p p' := by
  cases d with
  | grant tokens predicate => exact Registry.registers_grant p tokens predicate p'
  | grantAttributes tokens predicate =>
      exact Registry.registers_grantAttributes p tokens predicate p'
  | secureAttributes =>
      constructor
      · exact fun hp => (Except.ok.inj hp).symm
      · rintro rfl
        rfl
  | auditOn tokens message =>
      simp only [whole, Policy.auditOn, Noted.bind_ok, Noted.result_ofExcept, Noted.result_pure,
        AuditBook.auditOn_ok, Declares]
      refine exists_congr fun s => and_congr_right fun _ => ?_
      constructor
      · rintro ⟨_, ⟨hs, rfl⟩, hp⟩
        exact ⟨hs, (Except.ok.inj hp).symm⟩
      · rintro ⟨hs, rfl⟩
        exact ⟨_, ⟨hs, rfl⟩, rfl⟩
  | audit d =>
      simp only [whole, Policy.audit, Noted.bind_ok, Noted.result_pure, AuditBook.register_ok,
        Declares]
      constructor
      · rintro ⟨_, ⟨hvalid, rfl⟩, hp⟩
        exact ⟨hvalid, (Except.ok.inj hp).symm⟩
      · rintro ⟨hvalid, rfl⟩
        exact ⟨_, ⟨hvalid, rfl⟩, rfl⟩

/-- What a call does to a policy. -/
structure Atomic (p : Policy π μ) (d : Declaration π μ) : Prop where
  /-- A call that fails leaves the policy as it was, and reports nothing. -/
  failed : ∀ e, (d.make p).1.result = .error e → d.make p = (.ofExcept (.error e), p)
  /-- A call that succeeds declares everything that it names. -/
  succeeded : ∀ p', ((d.make p).1.result = .ok () ∧ (d.make p).2 = p') ↔ d.Declares p p'

theorem atomic (p : Policy π μ) (d : Declaration π μ) : p.Atomic d where
  failed e h := by
    rw [d.make_eq] at h ⊢
    exact whole_error (d.silent_whole p) h
  succeeded p' := by
    rw [d.make_eq, Revision.whole_ok, Declaration.whole_ok]

/-- A grant with a filter adds no rule, whatever it names besides. -/
example :
    let named : List (String × NameList) :=
      [("actions", .one "create"), ("attributes", .many ["title", "body"]), ("add", .one "tags")]
    let rules (members : List (String × NameList)) : Nat :=
      ((Declaration.grant [.mapping (.ofList members)] ()).make
        (blank "note" none .null : Policy Unit Unit)).2.rules.rules.length
    rules named = 4 ∧ rules (named ++ [("only", .one "title")]) = 0 := by
  decide +kernel

end Policy

/-! ## Later -/

theorem Host.put_self {h : Host π μ} {name : String} {p : Policy π μ}
    (hp : h.policy? name = some p) : h.put name p = h := by
  unfold put
  congr 1
  funext other
  split
  · rename_i heq
    rw [heq, hp]
  · rfl

namespace Service

variable (depth : Nat) (s : Service π μ)

theorem step_declare {name : String} {p : Policy π μ} (hp : s.host.policy? name = some p)
    (d : Policy.Declaration π μ) : s.step depth (.declare name d) = (.declared (d.make p).1.result,
      ⟨s.host.put name (d.make p).2, s.units.reporting (d.make p).1.events⟩) := by
  simp only [step, hp]

theorem step_unknown {name : String} (hp : s.host.policy? name = none)
    (d : Policy.Declaration π μ) : s.step depth (.declare name d) = (.unknownPolicy, s) := by
  simp only [step, hp]

/-- After a declaration that has failed everything is as before. -/
theorem step_failed {x : Occurrence π μ} (h : (s.step depth x).1.failed = true) :
    (s.step depth x).2 = s := by
  cases x with
  | operate unit op => cases h
  | declare name d =>
      cases hp : s.host.policy? name with
      | none => rw [s.step_unknown depth hp d]
      | some p =>
          rw [s.step_declare depth hp d] at h ⊢
          cases hanswer : (d.make p).1.result with
          | ok _ => simp [hanswer, Upshot.failed] at h
          | error e =>
              rw [(p.atomic d).failed e hanswer]
              simp [Host.put_self hp, Units.reporting, Noted.ofExcept]

theorem run_cons (x : Occurrence π μ) (rest : List (Occurrence π μ)) :
    s.run depth (x :: rest) = ((x, (s.step depth x).1) :: ((s.step depth x).2.run depth rest).1,
      ((s.step depth x).2.run depth rest).2) := rfl

/-- What was not a declaration that failed. -/
def effective (history : List (Occurrence π μ × Upshot)) : List (Occurrence π μ × Upshot) :=
  history.filter fun x => !x.2.failed

theorem effective_cons (x : Occurrence π μ × Upshot) (rest : List (Occurrence π μ × Upshot)) :
    effective (x :: rest) = if x.2.failed then effective rest else x :: effective rest := by
  unfold effective
  cases hfailed : x.2.failed <;> simp [hfailed]

/-- What was not a failed declaration comes to the same by itself. -/
theorem run_effective (course : List (Occurrence π μ)) :
    s.run depth ((effective (s.run depth course).1).map Prod.fst)
      = (effective (s.run depth course).1, (s.run depth course).2) := by
  induction course generalizing s with
  | nil => rfl
  | cons x rest ih =>
      rw [run_cons, effective_cons]
      split
      · -- The rest goes on from where the failed call began.
        rename_i hfailed
        rw [s.step_failed depth hfailed]
        exact ih s
      · rw [List.map_cons, run_cons, ih]

/-- **Declarations that fail change nothing.**  The policy is as it was in all its rules and audit
declarations, and whatever happens in any order while a host serves, all but the failed calls comes
to the same without them. -/
theorem failed_declarations_vanish :
    (∀ (p : Policy π μ) (d : Policy.Declaration π μ), p.Atomic d) ∧
    ∀ (depth : Nat) (s : Service π μ) (course : List (Occurrence π μ)),
      s.run depth ((effective (s.run depth course).1).map Prod.fst)
        = (effective (s.run depth course).1, (s.run depth course).2) :=
  ⟨Policy.atomic, run_effective⟩

end Service

end LifecycleGuard
