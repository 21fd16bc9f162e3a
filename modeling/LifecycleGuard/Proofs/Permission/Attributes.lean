import LifecycleGuard.Proofs.Permission.Decision

/-!
# Checks of attributes

A check of attributes asks the rule of every changed attribute, whatever the others answered, and
reports all that are refused at once.  Here it is worked out for predicates whose answer depends on
the request only.

* `Answers` — what the predicates answer, and that none of them fails.
* `attributeAnswer` — what the rules say about an attribute; one without a rule is refused.
* `checkAttributes_of_secured` and `checkAttributes_of_unsecured` — what the check comes to, and
  `isAttributeGranted_of_secured`, `isGranted_of_asked` the same for questions.
* `checkAttributes_of_unasked` and its companions — what comes of them where nothing is asked,
  whatever predicates mean.
-/

namespace LifecycleGuard.Evaluator

variable {π : Type}

/-- What predicates answer depends on the request only, and none of them fails. -/
def Answers (judge : π → Request → Run Bool) (answer : π → Request → Bool) : Prop :=
  ∀ q r w, (judge q r w).1 = .ok (answer q r)

/-- What the rule for an attribute answers about a request. -/
def attributeAnswer (e : Evaluator π) (answer : π → Request → Bool) (r : Request) (name : String) :
    Bool :=
  ((e.book.attributeRule? name).map fun rule => answer rule.predicate r).getD false

variable {judge : π → Request → Run Bool} {answer : π → Request → Bool} {e : Evaluator π}
  {subject : Entity} {w : Work}

theorem fst_permits (h : Answers judge answer) (r : Request) (rule : Rule π) (w : Work) :
    (permits judge r rule w).1 = .ok (answer rule.predicate r) :=
  h rule.predicate r (w.entering .enforcement)

theorem fst_anyPermits (h : Answers judge answer) (r : Request) (rules : List (Rule π)) (w : Work) :
    (anyPermits judge r rules w).1 = .ok (rules.any fun rule => answer rule.predicate r) := by
  induction rules generalizing w with
  | nil => rfl
  | cons rule rest ih =>
      rw [anyPermits, Run.bind_of_fst (fst_permits h r rule w), List.any_cons]
      cases answer rule.predicate r with
      | true => rfl
      | false => exact ih _

theorem fst_attributePermits (h : Answers judge answer) (e : Evaluator π) (r : Request)
    (name : String) (w : Work) :
    (attributePermits judge e r name w).1 = .ok (e.attributeAnswer answer r name) := by
  unfold attributePermits attributeAnswer
  cases e.book.attributeRule? name with
  | none => rfl
  | some rule => exact fst_permits h r rule w

/-- All names that are refused are found, in their order. -/
theorem fst_deniedNames (h : Answers judge answer) (e : Evaluator π) (r : Request)
    (names : List String) (w : Work) :
    (deniedNames judge e r names w).1
      = .ok (names.filter fun name => !e.attributeAnswer answer r name) := by
  induction names generalizing w with
  | nil => rfl
  | cons name rest ih =>
      rw [deniedNames, Run.bind_of_fst (fst_attributePermits h e r name w),
        Run.bind_of_fst (ih _), List.filter_cons]
      cases e.attributeAnswer answer r name <;> rfl

/-! ## Checks -/

theorem checkAttributes_of_unsecured (judge : π → Request → Run Bool) (a : Action)
    (subject : Entity) (w : Work) (h : e.book.securesAttributes = false) :
    e.checkAttributes judge a subject w = (.ok (.ok ()), w) := by
  rw [checkAttributes, h]
  rfl

theorem checkAttributes_of_secured (h : Answers judge answer)
    (hsecured : e.book.securesAttributes = true)
    (hasked : ¬ Unasked e.entityType subject w.context) (a : Action) (denied : List String)
    (hdenied : denied = subject.changes.keys.filter fun name =>
      !e.attributeAnswer answer ⟨w.context.actor, subject, none⟩ name) :
    (e.checkAttributes judge a subject w).1
      = .ok (if denied = [] then .ok () else .error (.attributes a.name (SortedSet.ofList denied)
          (Actor.describe w.context.actor) subject.describe)) := by
  have hbypassed : ¬ e.bypassed subject w.context = true := fun hb =>
    hasked ((bypassed_iff e subject _).mp hb)
  have hnames := fst_deniedNames h e ⟨w.context.actor, subject, none⟩ subject.changes.keys w
  rw [← hdenied] at hnames
  rw [checkAttributes, hsecured, if_neg (by simp), Run.context_bind, if_neg hbypassed,
    Run.bind_of_fst hnames, Run.note_bind]
  cases denied with
  | nil => rfl
  | cons name names => rfl

/-! ## Questions -/

theorem isGranted_of_asked (h : Answers judge answer)
    (hasked : ¬ Unasked e.entityType subject w.context) (a : Action) :
    (e.isGranted judge a subject w).1 = .ok ((e.book.rulesFor (.action a)).any fun rule =>
      answer rule.predicate ⟨w.context.actor, subject, none⟩) := by
  have hbypassed : ¬ e.bypassed subject w.context = true := fun hb =>
    hasked ((bypassed_iff e subject _).mp hb)
  rw [isGranted, Run.context_bind, if_neg hbypassed]
  exact fst_anyPermits h _ _ w

theorem isAttributeGranted_of_unsecured (judge : π → Request → Run Bool) (name : String)
    (subject : Entity) (w : Work) (h : e.book.securesAttributes = false) :
    e.isAttributeGranted judge name subject w = (.ok true, w) := by
  rw [isAttributeGranted, h]
  rfl

theorem isAttributeGranted_of_secured (h : Answers judge answer)
    (hsecured : e.book.securesAttributes = true)
    (hasked : ¬ Unasked e.entityType subject w.context) (name : String) :
    (e.isAttributeGranted judge name subject w).1
      = .ok (e.attributeAnswer answer ⟨w.context.actor, subject, none⟩ name) := by
  have hbypassed : ¬ e.bypassed subject w.context = true := fun hb =>
    hasked ((bypassed_iff e subject _).mp hb)
  rw [isAttributeGranted, hsecured, if_neg (by simp), Run.context_bind, if_neg hbypassed]
  exact fst_attributePermits h e _ name w

/-! ## Where nothing is asked -/

section Unasked

variable (h : Unasked e.entityType subject w.context)

include h

theorem checkAttributes_of_unasked (a : Action) :
    ∃ events, ∀ judge, e.checkAttributes judge a subject w = (.ok (.ok ()), { w with events }) := by
  cases hsecured : e.book.securesAttributes with
  | false => exact ⟨w.events, fun judge => checkAttributes_of_unsecured judge a subject w hsecured⟩
  | true =>
      refine ⟨w.events ++ [.enforcementBypassed a.name none e.entityType], fun judge => ?_⟩
      rw [checkAttributes, hsecured, if_neg (by simp), Run.context_bind,
        if_pos ((bypassed_iff e subject _).mpr h)]
      rfl

theorem isGranted_of_unasked (judge : π → Request → Run Bool) (a : Action) :
    e.isGranted judge a subject w = (.ok true, w) := by
  rw [isGranted, Run.context_bind, if_pos ((bypassed_iff e subject _).mpr h)]
  rfl

theorem isAttributeGranted_of_unasked (judge : π → Request → Run Bool) (name : String) :
    e.isAttributeGranted judge name subject w = (.ok true, w) := by
  cases hsecured : e.book.securesAttributes with
  | false => exact isAttributeGranted_of_unsecured judge name subject w hsecured
  | true =>
      rw [isAttributeGranted, hsecured, if_neg (by simp), Run.context_bind,
        if_pos ((bypassed_iff e subject _).mpr h)]
      rfl

omit h in
theorem answering_of_yes {α : Type} {question : α → Run Bool}
    (h : ∀ x, question x w = (.ok true, w)) (wanted : Bool) (xs : List α) :
    answering question wanted xs w = (.ok (if wanted then xs else []), w) := by
  induction xs with
  | nil => cases wanted <;> rfl
  | cons x xs ih =>
      rw [answering, Run.bind_of_ok (h x), Run.bind_of_ok ih]
      cases wanted <;> rfl

/-- Everything is granted, and nothing is refused. -/
theorem granted_of_unasked (judge : π → Request → Run Bool) (actions : List Action)
    (attributes : List String) (wanted : Bool) :
    e.granted judge subject actions attributes wanted w = (.ok (if wanted then
      (if actions.isEmpty then actionsByName else actions,
        if attributes.isEmpty then e.book.knownAttributes else attributes)
      else ([], [])), w) := by
  rw [granted, Run.bind_of_ok (answering_of_yes (isGranted_of_unasked h judge) _ _),
    Run.bind_of_ok (answering_of_yes (isAttributeGranted_of_unasked h judge) _ _)]
  cases wanted <;> rfl

end Unasked

end LifecycleGuard.Evaluator
