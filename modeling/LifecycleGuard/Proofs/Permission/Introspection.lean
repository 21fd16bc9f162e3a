import LifecycleGuard.Host.Condition
import LifecycleGuard.Proofs.Audit.Integrity
import LifecycleGuard.Proofs.Host.Looking
import LifecycleGuard.Proofs.Permission.Survey
import LifecycleGuard.Proofs.Text.ByteOrder

/-!
# Questions agree with checks

Permission can be checked, and it can be asked about.  A question is answered by code of its own:
one question for actions, one for attributes, and one for lists of both.

**Actions.**  `checkAction_of_isGranted` has the check of an action from the question about it, with
everything that predicates do on the way, also to the context.

**Attributes.**  A check of attributes looks at the context once, and questions look at it every
time.  So they can be compared where predicates leave the context as it is (`StillPredicates`): then
a check asks nothing else than the question about each changed name in turn
(`checkAttributes_of_answering`).

**Lists.**  If what predicates answer also depends on the context only (`SteadyPredicates`), it does
not matter when a question is asked.  `fst_answering` has the members of a list for which a question
has an answer, and `fst_answering_of_error` what happens if a question fails.

`Introspects` says all this of an evaluator, and what an empty query asks about; `introspects` has
it for every evaluator and all work.
-/

namespace LifecycleGuard.Evaluator

open Run Context

variable {π : Type}

/-! ## Actions -/

/-- A check of an action asks what the question about it asks, and reports the answer. -/
theorem checkAction_of_isGranted (judge : π → Request → Run Bool) (e : Evaluator π) (a : Action)
    (subject : Entity) (w : Work) :
    ∃ events, e.checkAction judge a subject w
      = ((e.isGranted judge a subject w).1.map fun granted => if granted then .ok () else
          .error (.action a.name (Actor.describe w.context.actor) subject.describe),
        { (e.isGranted judge a subject w).2 with events }) := by
  by_cases h : Unasked e.entityType subject w.context
  · rw [isGranted_of_unasked h]
    exact ⟨_, checkTarget_of_unasked h⟩
  · obtain ⟨cs, hasked⟩ := asked_anyPermits judge ⟨w.context.actor, subject, none⟩
      (e.book.rulesFor (.action a)) w
    have hbypassed : ¬ e.bypassed subject w.context = true := fun hb =>
      h ((bypassed_iff e subject _).mp hb)
    have hquestion : e.isGranted judge a subject w
        = anyPermits judge ⟨w.context.actor, subject, none⟩ (e.book.rulesFor (.action a)) w := by
      rw [isGranted, Run.context_bind, if_neg hbypassed]
    rw [hquestion]
    exact checkTarget_of_asked judge e _ subject none _ _ _ _ h hasked

/-! ## Attributes -/

variable (judge : π → Request → Run Bool) (e : Evaluator π) (subject : Entity)

/-- Predicates leave the context as it is, wherever the library asks them. -/
def StillPredicates : Prop :=
  ∀ rule ∈ e.book.rules, ∀ r, StillIn Unenforced (judge rule.predicate r)

/-- Predicates leave the context as it is, and what they answer depends on the context only. -/
def SteadyPredicates : Prop :=
  ∀ rule ∈ e.book.rules, ∀ r, SteadyIn Unenforced (judge rule.predicate r)

variable {judge e subject}

theorem StillPredicates.attributePermits (h : e.StillPredicates judge) (r : Request)
    (name : String) : StillIn (fun _ => True) (attributePermits judge e r name) := by
  unfold Evaluator.attributePermits
  cases hrule : e.book.attributeRule? name with
  | none => exact .of_world fun _ _ => rfl
  | some rule =>
      have hmem : rule ∈ e.book.rulesFor (.attr name) := List.mem_of_getLast? hrule
      exact (h rule (List.mem_filter.mp hmem).1 r).unenforced

/-- As long as the context stays as it is, the rules are asked in the way in which the questions
ask them. -/
theorem deniedNames_eq_answering (h : e.StillPredicates judge)
    (hsecured : e.book.securesAttributes = true) {c : Context}
    (hc : e.bypassed subject c = false) (names : List String) {w : Work} (hw : w.context = c) :
    deniedNames judge e ⟨c.actor, subject, none⟩ names w
      = answering (fun name => e.isAttributeGranted judge name subject) false names w := by
  induction names generalizing w with
  | nil => rfl
  | cons name rest ih =>
      have hquestion : e.isAttributeGranted judge name subject w
          = attributePermits judge e ⟨c.actor, subject, none⟩ name w := by
        rw [isAttributeGranted, hsecured, if_neg (by simp), Run.context_bind, hw, hc,
          if_neg (by simp)]
      have hstill := h.attributePermits ⟨c.actor, subject, none⟩ name w trivial
      rw [deniedNames, answering]
      rcases hrun : attributePermits judge e ⟨c.actor, subject, none⟩ name w with ⟨i | b, w₁⟩
      · rw [Run.bind_of_error hrun, Run.bind_of_error (hquestion.trans hrun)]
      · rw [hrun] at hstill
        rw [Run.bind_of_ok hrun, Run.bind_of_ok (hquestion.trans hrun)]
        refine (Run.bind_congr (ih (hstill.context.trans hw)).symm _).symm.trans ?_
        cases b <;> rfl

/-- **A check of attributes asks the questions** about the changed names, one after the other, and
reports all that are answered with no. -/
theorem checkAttributes_of_answering (h : e.StillPredicates judge) (a : Action) (w : Work) :
    ∃ events, e.checkAttributes judge a subject w
      = ((answering (fun name => e.isAttributeGranted judge name subject) false
          subject.changes.keys w).1.map fun denied => if denied = [] then .ok () else
            .error (.attributes a.name (SortedSet.ofList denied) (Actor.describe w.context.actor)
              subject.describe),
        { (answering (fun name => e.isAttributeGranted judge name subject) false
            subject.changes.keys w).2 with events }) := by
  by_cases hidle : e.book.securesAttributes = false ∨ Unasked e.entityType subject w.context
  · -- Nobody is asked, and every question is answered with yes.
    have hyes : ∀ name, e.isAttributeGranted judge name subject w = (.ok true, w) := fun name =>
      hidle.elim (isAttributeGranted_of_unsecured judge name subject w)
        fun hunasked => isAttributeGranted_of_unasked hunasked judge name
    rw [answering_of_yes hyes]
    rcases hidle with hunsecured | hunasked
    · exact ⟨w.events, checkAttributes_of_unsecured judge a subject w hunsecured⟩
    · obtain ⟨events, hcheck⟩ := checkAttributes_of_unasked hunasked a
      exact ⟨events, hcheck judge⟩
  · obtain ⟨hopen, hasked⟩ := not_or.mp hidle
    have hsecured : e.book.securesAttributes = true := Bool.not_eq_false _ ▸ hopen
    have hbypassed : e.bypassed subject w.context = false := Bool.eq_false_iff.mpr fun hb =>
      hasked ((bypassed_iff e subject _).mp hb)
    obtain ⟨fs, hfs⟩ := surveyed_deniedNames judge e ⟨w.context.actor, subject, none⟩
      subject.changes.keys w
    rw [← deniedNames_eq_answering h hsecured hbypassed subject.changes.keys rfl]
    exact checkAttributes_of_surveyed hsecured hasked hfs

/-! ## Lists -/

section Answering

variable {α : Type} {C : Context → Prop} {question : α → Run Bool}
  (hq : ∀ x, SteadyIn C (question x)) (wanted : Bool)

include hq

theorem steady_answering (xs : List α) : SteadyIn C (answering question wanted xs) := by
  have hsame : ∀ x, OneSided (SteadyIn C) Bool (question x) (question x) := hq
  exact (SteadyIn.congruence C).simulation.answering hsame wanted xs

/-- Questions whose answers depend on the context only pick out the members of a list that have the
answer, in order and as often as they are there. -/
theorem fst_answering {yes : α → Bool} {xs : List α} {w : Work} (hw : C w.context)
    (h : ∀ x ∈ xs, (question x w).1 = .ok (yes x)) :
    (answering question wanted xs w).1 = .ok (xs.filter fun x => yes x = wanted) := by
  induction xs generalizing w with
  | nil => rfl
  | cons x rest ih =>
      obtain ⟨hx, hrest⟩ := List.forall_mem_cons.mp h
      have hstill := (hq x).still w hw
      have hlater : ∀ y ∈ rest, (question y (question x w).2).1 = .ok (yes y) := fun y hy =>
        ((hq y).answer w _ hw hstill.context).trans (hrest y hy)
      rw [answering, Run.bind_of_fst hx, Run.bind_of_fst (ih (hstill.context ▸ hw) hlater),
        List.filter_cons]
      by_cases hyes : yes x = wanted <;> simp [hyes]

/-- If a question fails, no list comes of it. -/
theorem fst_answering_of_error {xs : List α} {w : Work} (hw : C w.context) {x : α} (hx : x ∈ xs)
    {i : Interrupt} (h : (question x w).1 = .error i) :
    ∃ j, (answering question wanted xs w).1 = .error j := by
  induction xs generalizing w with
  | nil => cases hx
  | cons y rest ih =>
      have hstill := (hq y).still w hw
      rw [answering]
      rcases hrun : question y w with ⟨j | b, w₁⟩
      · exact ⟨j, congrArg Prod.fst (Run.bind_of_error hrun _)⟩
      · rw [hrun] at hstill
        rcases List.mem_cons.mp hx with rfl | hrest
        · rw [hrun] at h
          cases h
        · have hlater := ((hq x).answer w w₁ hw hstill.context).trans h
          obtain ⟨j, hj⟩ := ih (hstill.context ▸ hw) hrest hlater
          refine ⟨j, ?_⟩
          rw [Run.bind_of_ok hrun]
          exact congrArg Prod.fst (Run.bind_of_error (Prod.ext hj rfl) _)

end Answering

namespace SteadyPredicates

variable (h : e.SteadyPredicates judge)

include h

theorem still : e.StillPredicates judge := fun rule hrule r => (h rule hrule r).still

theorem permits (C : Context → Prop) : ∀ rule ∈ e.book.rules, ∀ r,
    OneSided (SteadyIn C) Bool (permits judge r rule) (permits judge r rule) :=
  fun rule hrule r => (h rule hrule r).unenforced

variable (subject)

theorem isGranted (a : Action) : SteadyIn (fun _ => True) (e.isGranted judge a subject) :=
  (SteadyIn.congruence _).isGranted (h.permits _) a subject

theorem isAttributeGranted (name : String) :
    SteadyIn (fun _ => True) (e.isAttributeGranted judge name subject) :=
  (SteadyIn.congruence _).isAttributeGranted (h.permits _) name subject

theorem checkAttributes (a : Action) :
    SteadyIn (fun _ => True) (e.checkAttributes judge a subject) :=
  (SteadyIn.congruence _).checkAttributes (h.permits _) a subject

/-- The names that are denied are the changed names that the question about them is answered with no
for. -/
theorem fst_checkAttributes (a : Action) {w : Work} {yes : String → Bool}
    (hyes : ∀ name ∈ subject.changes.keys,
      (e.isAttributeGranted judge name subject w).1 = .ok (yes name)) :
    (e.checkAttributes judge a subject w).1
      = .ok (if ∀ name ∈ subject.changes.keys, yes name = true then .ok () else
          .error (.attributes a.name (SortedSet.ofList (subject.changes.keys.filter fun name =>
            yes name = false)) (Actor.describe w.context.actor) subject.describe)) := by
  obtain ⟨events, hcheck⟩ := checkAttributes_of_answering h.still a w
  have hanswers := fst_answering (h.isAttributeGranted subject) false trivial hyes
  rw [hcheck, hanswers]
  simp [Except.map, List.filter_eq_nil_iff]

end SteadyPredicates

/-! ## Queries -/

/-- The actions that a query asks about. -/
def queriedActions (actions : List Action) : List Action :=
  if actions.isEmpty then actionsByName else actions

variable (e) in
/-- The attributes that a query asks about. -/
def queriedAttributes (attributes : List String) : List String :=
  if attributes.isEmpty then e.book.knownAttributes else attributes

theorem fst_granted (h : e.SteadyPredicates judge) {actions : List Action}
    {attributes : List String} {w : Work} {onAction : Action → Bool} {onAttribute : String → Bool}
    (hactions : ∀ a ∈ queriedActions actions, (e.isGranted judge a subject w).1 = .ok (onAction a))
    (hattributes : ∀ name ∈ e.queriedAttributes attributes,
      (e.isAttributeGranted judge name subject w).1 = .ok (onAttribute name)) (wanted : Bool) :
    (e.granted judge subject actions attributes wanted w).1
      = .ok ((queriedActions actions).filter fun a => onAction a = wanted,
        (e.queriedAttributes attributes).filter fun name => onAttribute name = wanted) := by
  have hfirst := fst_answering (h.isGranted subject) wanted trivial hactions
  have hstill := (steady_answering (h.isGranted subject) wanted (queriedActions actions)).still w
    trivial
  generalize hw₁ : (answering (fun a => e.isGranted judge a subject) wanted
    (queriedActions actions) w).2 = w₁ at hstill
  have hlater : ∀ name ∈ e.queriedAttributes attributes,
      (e.isAttributeGranted judge name subject w₁).1 = .ok (onAttribute name) := fun name hname =>
    ((h.isAttributeGranted subject name).answer w w₁ trivial hstill.context).trans
      (hattributes name hname)
  have hsecond := fst_answering (h.isAttributeGranted subject) wanted trivial hlater
  show ((answering _ wanted (queriedActions actions) >>= fun as =>
    answering _ wanted (e.queriedAttributes attributes) >>= fun ns => Pure.pure (as, ns)) w).1 = _
  rw [Run.bind_of_fst hfirst, hw₁, Run.bind_of_fst hsecond]
  rfl

theorem fst_granted_of_error (h : e.SteadyPredicates judge) {actions : List Action}
    {attributes : List String} {w : Work}
    (hfails : (∃ a ∈ queriedActions actions, ∃ i, (e.isGranted judge a subject w).1 = .error i) ∨
      ∃ name ∈ e.queriedAttributes attributes, ∃ i,
        (e.isAttributeGranted judge name subject w).1 = .error i) (wanted : Bool) :
    ∃ j, (e.granted judge subject actions attributes wanted w).1 = .error j := by
  show ∃ j, ((answering _ wanted (queriedActions actions) >>= fun as =>
    answering _ wanted (e.queriedAttributes attributes) >>= fun ns => Pure.pure (as, ns)) w).1
      = .error j
  have hstill := (steady_answering (h.isGranted subject) wanted (queriedActions actions)).still w
    trivial
  rcases hfirst : answering (fun a => e.isGranted judge a subject) wanted (queriedActions actions) w
    with ⟨j | as, w₁⟩
  · exact ⟨j, congrArg Prod.fst (Run.bind_of_error hfirst _)⟩
  · rw [hfirst] at hstill
    rcases hfails with ⟨a, ha, i, hi⟩ | ⟨name, hname, i, hi⟩
    · obtain ⟨j, hj⟩ := fst_answering_of_error (h.isGranted subject) wanted trivial ha hi
      rw [hfirst] at hj
      cases hj
    · have hlater := ((h.isAttributeGranted subject name).answer w w₁ trivial
        hstill.context).trans hi
      obtain ⟨j, hj⟩ := fst_answering_of_error (h.isAttributeGranted subject) wanted trivial hname
        hlater
      refine ⟨j, ?_⟩
      rw [Run.bind_of_ok hfirst]
      exact congrArg Prod.fst (Run.bind_of_error (Prod.ext hj rfl) _)

theorem attributeOf?_eq_some_iff (rule : Rule π) (name : String) :
    RuleBook.attributeOf? rule = some name ↔ rule.target = .attr name := by
  unfold RuleBook.attributeOf?
  cases rule.target <;> simp

/-- The attributes of the schema are known, or without one those that have a rule. -/
theorem mem_knownAttributes_iff (b : RuleBook π) (name : String) :
    name ∈ b.knownAttributes ↔ match b.schema with
      | some s => name ∈ s.attributes
      | none => (b.attributeRule? name).isSome = true := by
  unfold RuleBook.knownAttributes
  cases b.schema with
  | some s => simp [SortedSet.mem_toList_iff, SortedSet.mem_ofList]
  | none =>
      simp [RuleBook.attributes, SortedSet.mem_toList_iff, SortedSet.mem_ofList,
        RuleBook.attributeRule?, RuleBook.rulesFor, attributeOf?_eq_some_iff]

theorem ascending_knownAttributes (b : RuleBook π) :
    b.knownAttributes.Pairwise fun m n => Text.utf8 m.toList < Text.utf8 n.toList := by
  unfold RuleBook.knownAttributes
  cases b.schema with
  | some s => exact (SortedSet.ascending_toList _).imp Text.utf8_lt_of_compare_lt
  | none => exact (SortedSet.ascending_toList _).imp Text.utf8_lt_of_compare_lt

/-! ## Agreement -/

variable (judge e subject)

/-- Questions about an entity agree with checks of it. -/
structure Introspects (w : Work) : Prop where
  /-- An action is granted if it would pass its check. -/
  granted_iff : ∀ a, (e.isGranted judge a subject w).1 = .ok true ↔
    (e.checkAction judge a subject w).1 = .ok (.ok ())
  /-- If not it would be denied, or the check would fail as the question does. -/
  answered : ∀ a, (e.checkAction judge a subject w).1
    = (e.isGranted judge a subject w).1.map fun granted => if granted then .ok () else
        .error (.action a.name (Actor.describe w.context.actor) subject.describe)
  /-- Question and check leave the same behind, also where predicates change the context. -/
  world : ∀ a, (e.isGranted judge a subject w).2.toWorld
    = (e.checkAction judge a subject w).2.toWorld
  /-- Where predicates leave the context as it is, a check of attributes asks the question about
  each changed name in turn, and reports the names that are answered with no. -/
  inTurn : e.StillPredicates judge → ∀ a, ∃ events, e.checkAttributes judge a subject w
    = ((answering (fun name => e.isAttributeGranted judge name subject) false
        subject.changes.keys w).1.map fun denied => if denied = [] then .ok () else
          .error (.attributes a.name (SortedSet.ofList denied) (Actor.describe w.context.actor)
            subject.describe),
      { (answering (fun name => e.isAttributeGranted judge name subject) false
          subject.changes.keys w).2 with events })
  /-- If their answers depend on the context only, the names that are reported are the changed names
  that are not granted. -/
  attributes : e.SteadyPredicates judge → ∀ (a : Action) (yes : String → Bool),
    (∀ name ∈ subject.changes.keys,
      (e.isAttributeGranted judge name subject w).1 = .ok (yes name)) →
    ((∀ name ∈ subject.changes.keys, yes name = true) →
      (e.checkAttributes judge a subject w).1 = .ok (.ok ())) ∧
    ((∃ name ∈ subject.changes.keys, yes name = false) → ∃ names : SortedSet String,
      (e.checkAttributes judge a subject w).1 = .ok (.error (.attributes a.name names
        (Actor.describe w.context.actor) subject.describe)) ∧
      names.toList = subject.changes.keys.filter fun name => yes name = false)
  /-- If there is no answer about some changed name, the check comes to nothing either. -/
  attributesFail : e.SteadyPredicates judge → ∀ (a : Action), ∀ name ∈ subject.changes.keys,
    ∀ i, (e.isAttributeGranted judge name subject w).1 = .error i →
      ∃ j, (e.checkAttributes judge a subject w).1 = .error j
  /-- A query has the members that have the wanted answer, in order and as often as it asks about
  them. -/
  granted : e.SteadyPredicates judge → ∀ (actions : List Action) (attributes : List String)
    (onAction : Action → Bool) (onAttribute : String → Bool),
    (∀ a ∈ queriedActions actions, (e.isGranted judge a subject w).1 = .ok (onAction a)) →
    (∀ name ∈ e.queriedAttributes attributes,
      (e.isAttributeGranted judge name subject w).1 = .ok (onAttribute name)) →
    ∀ wanted, (e.granted judge subject actions attributes wanted w).1
      = .ok ((queriedActions actions).filter fun a => onAction a = wanted,
        (e.queriedAttributes attributes).filter fun name => onAttribute name = wanted)
  /-- If there is no answer about some member, nothing comes of the query. -/
  grantedFail : e.SteadyPredicates judge → ∀ (actions : List Action) (attributes : List String),
    ((∃ a ∈ queriedActions actions, ∃ i, (e.isGranted judge a subject w).1 = .error i) ∨
      ∃ name ∈ e.queriedAttributes attributes, ∃ i,
        (e.isAttributeGranted judge name subject w).1 = .error i) →
    ∀ wanted, ∃ j, (e.granted judge subject actions attributes wanted w).1 = .error j
  /-- An empty query asks about all four actions, in the order of their names. -/
  everyAction : queriedActions [] = [.create, .destroy, .find, .update] ∧
    (queriedActions []).Pairwise (fun a b => Text.utf8 a.name.toList < Text.utf8 b.name.toList) ∧
    ∀ a, a ∈ queriedActions []
  /-- It asks about all known attributes, in the order of their bytes. -/
  everyAttribute : (e.queriedAttributes []).Pairwise
      (fun m n => Text.utf8 m.toList < Text.utf8 n.toList) ∧
    ∀ name, name ∈ e.queriedAttributes [] ↔ match e.book.schema with
      | some s => name ∈ s.attributes
      | none => (e.book.attributeRule? name).isSome = true

/-- **Introspection agrees with enforcement.** -/
theorem introspects (w : Work) : e.Introspects judge subject w where
  granted_iff a := by
    obtain ⟨events, hcheck⟩ := checkAction_of_isGranted judge e a subject w
    rw [hcheck]
    rcases (e.isGranted judge a subject w).1 with i | (_ | _) <;> simp [Except.map]
  answered a := by
    obtain ⟨events, hcheck⟩ := checkAction_of_isGranted judge e a subject w
    rw [hcheck]
  world a := by
    obtain ⟨events, hcheck⟩ := checkAction_of_isGranted judge e a subject w
    rw [hcheck]
  inTurn h a := checkAttributes_of_answering h a w
  attributes h a yes hyes := by
    have hcheck := h.fst_checkAttributes subject a hyes
    refine ⟨fun hall => by rw [hcheck, if_pos hall], ?_⟩
    rintro ⟨name, hname, hno⟩
    have hsome : ¬ ∀ name ∈ subject.changes.keys, yes name = true := fun hall => by
      simp [hall name hname] at hno
    rw [if_neg hsome] at hcheck
    have hkeys : subject.changes.keys.Pairwise fun m n => compare m n = .lt :=
      subject.changes.ascending.map _ fun _ _ h => h
    exact ⟨_, hcheck, SortedSet.toList_ofList (hkeys.sublist List.filter_sublist)⟩
  attributesFail h a name hname i hi := by
    obtain ⟨events, hcheck⟩ := checkAttributes_of_answering h.still a w
    obtain ⟨j, hj⟩ := fst_answering_of_error (h.isAttributeGranted subject) false trivial hname hi
    exact ⟨j, by rw [hcheck, hj]; rfl⟩
  granted h actions attributes onAction onAttribute hactions hattributes wanted :=
    fst_granted h hactions hattributes wanted
  grantedFail h actions attributes hfails wanted := fst_granted_of_error h hfails wanted
  everyAction := ⟨rfl, by decide, fun a => by cases a <;> decide⟩
  everyAttribute := ⟨ascending_knownAttributes e.book, mem_knownAttributes_iff e.book⟩

end LifecycleGuard.Evaluator

/-! ### A query about notes -/

namespace LifecycleGuard.Host

open Evaluator

/-- Predicates that look at the context and at the policy itself. -/
def sharedNotes : Policy Condition MessageRule :=
  ⟨"note", ⟨none, [⟨.action .find, .grants "notes" .destroy (note "1" "a")⟩,
    ⟨.action .update, .enforced false⟩, ⟨.action .destroy, .never⟩,
    ⟨.attr "title", .enforced false⟩, ⟨.attr "body", .never⟩], false⟩, .blank, .null, true⟩

/-- The host of the policy. -/
def sharing : Host Condition MessageRule := Host.ofPolicies fun _ => some sharedNotes

theorem steady_sharedNotes (depth : Nat) :
    sharedNotes.evaluator.SteadyPredicates (sharing.oracle depth).judge := by
  intro rule hrule r
  refine sharing.steady_judge ?_ depth
  simp only [sharedNotes, Policy.evaluator, List.mem_cons, List.not_mem_nil, or_false] at hrule
  rcases hrule with rfl | rfl | rfl | rfl | rfl
  · exact ⟨trivial, fun _ => trivial⟩
  · exact ⟨trivial, fun _ => trivial⟩
  · trivial
  · exact ⟨trivial, fun _ => trivial⟩
  · trivial

/-- What is asked about twice is listed twice, and what has no rule is not known. -/
theorem introspects_sharedNotes :
    (sharedNotes.evaluator.granted (sharing.oracle 2).judge (note "1" "a")
      [.update, .destroy, .find, .update] [] true (.start .epoch)).1
        = .ok ([.update, .find, .update], ["title"]) ∧
    (sharedNotes.evaluator.granted (sharing.oracle 2).judge (note "1" "a")
      [.update, .destroy, .find, .update] [] false (.start .epoch)).1
        = .ok ([.destroy], ["body"]) := by
  have hagrees := introspects (sharing.oracle 2).judge sharedNotes.evaluator (note "1" "a")
    (.start .epoch)
  have hgranted := hagrees.granted (steady_sharedNotes 2) [.update, .destroy, .find, .update] []
    (fun a => a ≠ .destroy) (fun name => name = "title") (by decide +kernel) (by decide +kernel)
  exact ⟨hgranted true, hgranted false⟩

end LifecycleGuard.Host
