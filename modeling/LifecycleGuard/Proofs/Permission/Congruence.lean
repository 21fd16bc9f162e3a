import LifecycleGuard.Permission.Evaluator

/-!
# What carries over from predicates to checks

Checks and questions put the runs of predicates together by a few means: they look at the context,
report events and go on with results.  A relation between runs that respects these means is a
`Run.Congruence`.  A `Run.Simulation` is one that need not hold where the contexts differ, but only
where they are alike in some sense.

**Two sides.**  If such a relation holds between two meanings of each predicate, it holds between
what a check makes of the one and of the other.  There is one lemma for each function of the
evaluator, and nobody else follows their bodies in order to compare runs.  For a simulation,
contexts that are alike must have the same actor and be bypassed alike.

**One side.**  A property of runs is a relation that looks at one side only.  So the same lemmas
say that a property which the asking of each rule has is one of every check.
-/

namespace LifecycleGuard

/-- A relation between runs that is respected by the means of putting runs together. -/
structure Run.Congruence (R : (α : Type) → Run α → Run α → Prop) : Prop where
  pure : ∀ {α : Type} (x : α), R α (Pure.pure x) (Pure.pure x)
  context : R Context Run.context Run.context
  note : ∀ e, R Unit (Run.note e) (Run.note e)
  bind : ∀ {α β : Type} {r r' : Run α} {f f' : α → Run β},
    R α r r' → (∀ x, R β (f x) (f' x)) → R β (r >>= f) (r' >>= f')

/-- A relation between runs that is respected by the means of putting runs together, in contexts
that are alike. -/
structure Run.Simulation (A : Context → Context → Prop)
    (R : (α : Type) → Run α → Run α → Prop) : Prop where
  pure : ∀ {α : Type} (x : α), R α (Pure.pure x) (Pure.pure x)
  context : ∀ {β : Type} {f f' : Context → Run β}, (∀ c c', A c c' → R β (f c) (f' c')) →
    R β (Run.context >>= f) (Run.context >>= f')
  note : ∀ e, R Unit (Run.note e) (Run.note e)
  bind : ∀ {α β : Type} {r r' : Run α} {f f' : α → Run β},
    R α r r' → (∀ x, R β (f x) (f' x)) → R β (r >>= f) (r' >>= f')

theorem Run.Congruence.simulation {R : (α : Type) → Run α → Run α → Prop} (hR : Congruence R) :
    Simulation Eq R where
  pure := hR.pure
  context := fun hf => hR.bind hR.context fun c => hf c c rfl
  note := hR.note
  bind := hR.bind

namespace Run.Simulation

open Evaluator

variable {A : Context → Context → Prop} {R : (α : Type) → Run α → Run α → Prop}
  (hR : Simulation A R)

include hR

theorem answering {α : Type} {question question' : α → Run Bool}
    (hq : ∀ x, R Bool (question x) (question' x)) (wanted : Bool) :
    ∀ xs : List α, R (List α) (Evaluator.answering question wanted xs)
      (Evaluator.answering question' wanted xs)
  | [] => hR.pure []
  | x :: rest => hR.bind (hq x) fun _ => hR.bind (answering hq wanted rest) fun _ => hR.pure _

variable {π : Type} {judge judge' : π → Request → Run Bool} {e : Evaluator π}
  (hp : ∀ rule ∈ e.book.rules, ∀ r, R Bool (permits judge r rule) (permits judge' r rule))

include hp

theorem anyPermits (r : Request) :
    ∀ rules : List (Rule π), (∀ rule ∈ rules, rule ∈ e.book.rules) →
      R Bool (anyPermits judge r rules) (anyPermits judge' r rules)
  | [], _ => hR.pure false
  | rule :: rest, hrules => by
      obtain ⟨hrule, hrest⟩ := List.forall_mem_cons.mp hrules
      refine hR.bind (hp rule hrule r) fun permitted => ?_
      cases permitted with
      | true => exact hR.pure true
      | false => exact anyPermits r rest hrest

/-- The rules of a target are rules of the evaluator. -/
theorem targetPermits (r : Request) (t : RuleTarget) :
    R Bool (Evaluator.anyPermits judge r (e.book.rulesFor t))
      (Evaluator.anyPermits judge' r (e.book.rulesFor t)) :=
  hR.anyPermits hp r _ fun _ hmem => (List.mem_filter.mp hmem).1

theorem attributePermits (r : Request) (name : String) :
    R Bool (attributePermits judge e r name) (attributePermits judge' e r name) := by
  unfold Evaluator.attributePermits
  cases hrule : e.book.attributeRule? name with
  | some rule =>
      have hmem : rule ∈ e.book.rulesFor (.attr name) := List.mem_of_getLast? hrule
      exact hp rule (List.mem_filter.mp hmem).1 r
  | none => exact hR.pure false

theorem deniedNames (r : Request) :
    ∀ names : List String,
      R (List String) (deniedNames judge e r names) (deniedNames judge' e r names)
  | [] => hR.pure []
  | name :: rest =>
      hR.bind (hR.attributePermits hp r name) fun _ =>
        hR.bind (deniedNames r rest) fun _ => hR.pure _

variable {subject : Entity}
  (hA : ∀ c c', A c c' → c.actor = c'.actor ∧ e.bypassed subject c = e.bypassed subject c')

include hA

/-! ## Checks -/

theorem checkTarget {t : RuleTarget} {associated : Option Entity}
    {action : String} {relation : Option String} {evaluated : Option Actor → Bool → Event}
    {denial : Option Actor → Denial} :
    R (Except Denial Unit)
      (checkTarget judge e t subject associated action relation evaluated denial)
      (checkTarget judge' e t subject associated action relation evaluated denial) := by
  refine hR.context fun c c' hc => ?_
  obtain ⟨hactor, hbypassed⟩ := hA c c' hc
  rw [← hactor, ← hbypassed]
  cases e.bypassed subject c with
  | true => exact hR.bind (hR.note _) fun _ => hR.pure _
  | false =>
      refine hR.bind (hR.targetPermits hp _ _) fun permitted => hR.bind (hR.note _) fun _ => ?_
      cases permitted with
      | true => exact hR.pure _
      | false => exact hR.bind (hR.note _) fun _ => hR.pure _

theorem checkAttributes (a : Action) :
    R (Except Denial Unit) (e.checkAttributes judge a subject)
      (e.checkAttributes judge' a subject) := by
  unfold Evaluator.checkAttributes
  cases e.book.securesAttributes with
  | false => exact hR.pure _
  | true =>
      refine hR.context fun c c' hc => ?_
      obtain ⟨hactor, hbypassed⟩ := hA c c' hc
      rw [← hactor, ← hbypassed]
      cases e.bypassed subject c with
      | true => exact hR.bind (hR.note _) fun _ => hR.pure _
      | false =>
          refine hR.bind (hR.deniedNames hp _ _) fun denied => hR.bind (hR.note _) fun _ => ?_
          cases denied with
          | nil => exact hR.pure _
          | cons name rest => exact hR.bind (hR.note _) fun _ => hR.pure _

/-! ## Questions -/

theorem isGranted (a : Action) :
    R Bool (e.isGranted judge a subject) (e.isGranted judge' a subject) := by
  refine hR.context fun c c' hc => ?_
  obtain ⟨hactor, hbypassed⟩ := hA c c' hc
  rw [← hactor, ← hbypassed]
  cases e.bypassed subject c with
  | true => exact hR.pure true
  | false => exact hR.targetPermits hp _ _

theorem isAttributeGranted (name : String) :
    R Bool (e.isAttributeGranted judge name subject)
      (e.isAttributeGranted judge' name subject) := by
  unfold Evaluator.isAttributeGranted
  cases e.book.securesAttributes with
  | false => exact hR.pure true
  | true =>
      refine hR.context fun c c' hc => ?_
      obtain ⟨hactor, hbypassed⟩ := hA c c' hc
      rw [← hactor, ← hbypassed]
      cases e.bypassed subject c with
      | true => exact hR.pure true
      | false => exact hR.attributePermits hp _ name

theorem granted (actions : List Action) (attributes : List String) (wanted : Bool) :
    R (List Action × List String) (e.granted judge subject actions attributes wanted)
      (e.granted judge' subject actions attributes wanted) :=
  hR.bind (hR.answering (fun a => hR.isGranted hp hA a) wanted _) fun _ =>
    hR.bind (hR.answering (fun n => hR.isAttributeGranted hp hA n) wanted _) fun _ => hR.pure _

end Run.Simulation

namespace Run.Congruence

open Evaluator

variable {R : (α : Type) → Run α → Run α → Prop} (hR : Congruence R) {π : Type}
  {judge judge' : π → Request → Run Bool} {e : Evaluator π}
  (hp : ∀ rule ∈ e.book.rules, ∀ r, R Bool (permits judge r rule) (permits judge' r rule))

/-- In equal contexts everything is alike. -/
theorem alike_of_eq (subject : Entity) (c c' : Context) (h : c = c') :
    c.actor = c'.actor ∧ e.bypassed subject c = e.bypassed subject c' := by
  rw [h]
  exact ⟨rfl, rfl⟩

include hR hp

theorem checkTarget {t : RuleTarget} {subject : Entity} {associated : Option Entity}
    {action : String} {relation : Option String} {evaluated : Option Actor → Bool → Event}
    {denial : Option Actor → Denial} :
    R (Except Denial Unit)
      (checkTarget judge e t subject associated action relation evaluated denial)
      (checkTarget judge' e t subject associated action relation evaluated denial) :=
  hR.simulation.checkTarget hp (alike_of_eq subject)

theorem checkAttributes (a : Action) (subject : Entity) :
    R (Except Denial Unit) (e.checkAttributes judge a subject)
      (e.checkAttributes judge' a subject) :=
  hR.simulation.checkAttributes hp (alike_of_eq subject) a

theorem isGranted (a : Action) (subject : Entity) :
    R Bool (e.isGranted judge a subject) (e.isGranted judge' a subject) :=
  hR.simulation.isGranted hp (alike_of_eq subject) a

theorem isAttributeGranted (name : String) (subject : Entity) :
    R Bool (e.isAttributeGranted judge name subject)
      (e.isAttributeGranted judge' name subject) :=
  hR.simulation.isAttributeGranted hp (alike_of_eq subject) name

theorem granted (subject : Entity) (actions : List Action) (attributes : List String)
    (wanted : Bool) :
    R (List Action × List String) (e.granted judge subject actions attributes wanted)
      (e.granted judge' subject actions attributes wanted) :=
  hR.simulation.granted hp (alike_of_eq subject) actions attributes wanted

end Run.Congruence

end LifecycleGuard
