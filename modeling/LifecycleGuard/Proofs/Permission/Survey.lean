import LifecycleGuard.Proofs.Permission.Attributes
import LifecycleGuard.Proofs.Text.ByteOrder

/-!
# Which attributes are refused

Of a target one rule is enough, so its rules are asked until one permits.  Changed attributes are
another matter: all of them have to be permitted, each by its own last rule, and the denial is to
name every one that is not.  So they are all asked, whatever the others answered.

**Asking.**  `Surveyed` is the rule book of it, and a `Finding` the record of one name.
`surveyed_deniedNames` says that the evaluator goes by it; `Surveyed.order`, `Surveyed.asked` and
`Surveyed.outcome` read off it the order, who was asked, and what comes of the answers.

**Setting up.**  An evaluator is set up by registrations, which may fail, and by asking for
attribute security.  `rulesFor_setup` carries over what a history of registrations leaves in a book,
and `securesAttributes_setup` says when changed attributes are checked at all.

**The check.**  `Examined` says all of it for one check, and `examined_of_setup` that it holds after
every history.
-/

namespace LifecycleGuard.Evaluator

variable {π : Type}

/-! ## Asking -/

/-- What is found about a changed attribute: the consultation of its rule, if it has one. -/
structure Finding (π : Type) where
  name : String
  consultation : Option (Consultation π)

/-- What the rule answers.  Where there is none, the answer is no. -/
def Finding.answer (judge : π → Request → Run Bool) (f : Finding π) : Except Interrupt Bool :=
  match f.consultation with
  | some c => (c.answer judge).1
  | none => .ok false

/-- The names of the findings whose answer is no. -/
def refusedNames (judge : π → Request → Run Bool) (fs : List (Finding π)) : List String :=
  (fs.filter fun f => f.answer judge = .ok false).map Finding.name

theorem refusedNames_cons (judge : π → Request → Run Bool) (f : Finding π) (fs : List (Finding π)) :
    refusedNames judge (f :: fs)
      = if f.answer judge = .ok false then f.name :: refusedNames judge fs
        else refusedNames judge fs := by
  simp only [refusedNames, List.filter_cons, decide_eq_true_eq]
  split <;> rfl

/-- Asking the rule of each of some names, in their order, about a request: the names, the work that
they are asked in, the findings, the names that are refused, and the work that is left. -/
inductive Surveyed (judge : π → Request → Run Bool) (rule? : String → Option π) (r : Request) :
    List String → Work → List (Finding π) → Except Interrupt (List String) → Work → Prop where
  | done {w : Work} : Surveyed judge rule? r [] w [] (.ok []) w
  /-- A name without a rule is refused, and nobody is asked. -/
  | unruled {name : String} {names : List String} {w w₁ : Work} {fs : List (Finding π)}
      {x : Except Interrupt (List String)} :
      rule? name = none → Surveyed judge rule? r names w fs x w₁ →
      Surveyed judge rule? r (name :: names) w (⟨name, none⟩ :: fs) (x.map (name :: ·)) w₁
  /-- After an answer, whichever it is, the next name has its turn. -/
  | answered {name : String} {names : List String} {p : π} {b : Bool} {w w₁ w₂ : Work}
      {fs : List (Finding π)} {x : Except Interrupt (List String)} :
      rule? name = some p → judge p r (w.entering .enforcement) = (.ok b, w₁) →
      Surveyed judge rule? r names (w₁.leaving .enforcement w) fs x w₂ →
      Surveyed judge rule? r (name :: names) w
        (⟨name, some ⟨p, r, w.entering .enforcement⟩⟩ :: fs)
        (x.map fun refused => if b then refused else name :: refused) w₂
  /-- A predicate that fails ends the asking. -/
  | failed {name : String} {names : List String} {p : π} {i : Interrupt} {w w₁ : Work} :
      rule? name = some p → judge p r (w.entering .enforcement) = (.error i, w₁) →
      Surveyed judge rule? r (name :: names) w
        [⟨name, some ⟨p, r, w.entering .enforcement⟩⟩] (.error i) (w₁.leaving .enforcement w)

/-- The predicate that decides about an attribute. -/
def ruling (e : Evaluator π) (name : String) : Option π :=
  (e.book.attributeRule? name).map Rule.predicate

section Asking

variable {judge : π → Request → Run Bool} {r : Request}

/-- After an answer, the other names are asked about. -/
theorem deniedNames_cons {e : Evaluator π} {name : String} {b : Bool} {w w₁ : Work}
    (h : attributePermits judge e r name w = (.ok b, w₁)) (rest : List String) :
    deniedNames judge e r (name :: rest) w
      = ((deniedNames judge e r rest w₁).1.map fun refused =>
          if b then refused else name :: refused,
        (deniedNames judge e r rest w₁).2) := by
  rw [deniedNames, Run.bind_of_ok h]
  rcases hrest : deniedNames judge e r rest w₁ with ⟨i | refused, w₂⟩
  · exact Run.bind_of_error hrest _
  · exact Run.bind_of_ok hrest _

/-- Whichever names are asked about, the evaluator goes by the rules of `Surveyed`. -/
theorem surveyed_deniedNames (judge : π → Request → Run Bool) (e : Evaluator π) (r : Request) :
    ∀ (names : List String) (w : Work), ∃ fs, Surveyed judge e.ruling r names w fs
      (deniedNames judge e r names w).1 (deniedNames judge e r names w).2
  | [], w => ⟨[], .done⟩
  | name :: rest, w => by
      cases hrule : e.book.attributeRule? name with
      | none =>
          have hruling : e.ruling name = none := by rw [ruling, hrule]; rfl
          have hnobody : attributePermits judge e r name w = (.ok false, w) := by
            rw [attributePermits, hrule]
            rfl
          obtain ⟨fs, hfs⟩ := surveyed_deniedNames judge e r rest w
          rw [deniedNames_cons hnobody]
          exact ⟨_, .unruled hruling hfs⟩
      | some rule =>
          have hruling : e.ruling name = some rule.predicate := by rw [ruling, hrule]; rfl
          have hpermits : attributePermits judge e r name w = permits judge r rule w := by
            rw [attributePermits, hrule]
          rcases hj : judge rule.predicate r (w.entering .enforcement) with ⟨i | b, w₁⟩
          · rw [deniedNames, Run.bind_of_error (hpermits.trans (Run.within_of_eq hj))]
            exact ⟨_, .failed hruling hj⟩
          · obtain ⟨fs, hfs⟩ := surveyed_deniedNames judge e r rest (w₁.leaving .enforcement w)
            rw [deniedNames_cons (hpermits.trans (Run.within_of_eq hj))]
            exact ⟨_, .answered hruling hj hfs⟩

/-- What comes of asking by the rules is what comes of the evaluator. -/
theorem Surveyed.deniedNames_eq {e : Evaluator π} {names : List String} {w w₁ : Work}
    {fs : List (Finding π)} {x : Except Interrupt (List String)}
    (h : Surveyed judge e.ruling r names w fs x w₁) : deniedNames judge e r names w = (x, w₁) := by
  induction h with
  | done => rfl
  | unruled hruling _ ih =>
      have hnone := Option.map_eq_none_iff.mp hruling
      rw [deniedNames_cons (b := false) (by rw [attributePermits, hnone]; rfl), ih]
      rfl
  | answered hruling hj _ ih =>
      obtain ⟨rule, hrule, rfl⟩ := Option.map_eq_some_iff.mp hruling
      rw [deniedNames_cons (by rw [attributePermits, hrule]; exact Run.within_of_eq hj), ih]
  | failed hruling hj =>
      obtain ⟨rule, hrule, rfl⟩ := Option.map_eq_some_iff.mp hruling
      rw [deniedNames]
      exact Run.bind_of_error (by rw [attributePermits, hrule]; exact Run.within_of_eq hj) _

variable {rule? : String → Option π} {names : List String} {w w₁ : Work} {fs : List (Finding π)}
  {x : Except Interrupt (List String)}

/-- Names are asked about in their order, and none is passed over. -/
theorem Surveyed.order (h : Surveyed judge rule? r names w fs x w₁) :
    fs.map Finding.name <+: names := by
  induction h with
  | done => exact List.nil_prefix
  | unruled _ _ ih => exact List.cons_prefix_cons.mpr ⟨rfl, ih⟩
  | answered _ _ _ ih => exact List.cons_prefix_cons.mpr ⟨rfl, ih⟩
  | failed _ _ => exact List.cons_prefix_cons.mpr ⟨rfl, List.nil_prefix⟩

/-- A name that has a rule is decided by it and by nobody else, who is asked with enforcement
off. -/
theorem Surveyed.asked (h : Surveyed judge rule? r names w fs x w₁) :
    ∀ f ∈ fs, f.consultation.map Consultation.predicate = rule? f.name ∧
      ∀ c ∈ f.consultation, c.request = r ∧ c.found.context.enforcing = false := by
  have off : ∀ w : Work, (w.entering .enforcement).context.enforcing = false := fun w => by
    rw [Work.context_entering]
    rfl
  induction h with
  | done => simp
  | unruled hnone _ ih => exact List.forall_mem_cons.mpr ⟨⟨hnone.symm, by simp⟩, ih⟩
  | answered hsome _ _ ih =>
      refine List.forall_mem_cons.mpr ⟨⟨hsome.symm, fun c hc => ?_⟩, ih⟩
      obtain rfl := Option.mem_some_iff.mp hc
      exact ⟨rfl, off _⟩
  | failed hsome _ =>
      refine List.forall_mem_cons.mpr ⟨⟨hsome.symm, fun c hc => ?_⟩, by simp⟩
      obtain rfl := Option.mem_some_iff.mp hc
      exact ⟨rfl, off _⟩

/-- **Either everybody answers**, and then every name is asked about and the refused ones are those
whose answer is no; **or somebody fails**, and he is the last who is asked. -/
theorem Surveyed.outcome (h : Surveyed judge rule? r names w fs x w₁) :
    (fs.map Finding.name = names ∧ (∀ f ∈ fs, ∃ b, f.answer judge = .ok b) ∧
      x = .ok (refusedNames judge fs)) ∨
    ∃ before f i, fs = before ++ [f] ∧ (∀ g ∈ before, ∃ b, g.answer judge = .ok b) ∧
      f.answer judge = .error i ∧ x = .error i := by
  induction h with
  | done => exact .inl ⟨rfl, by simp, rfl⟩
  | @unruled name names w w₁ fs x _ _ ih =>
      have hno : (⟨name, none⟩ : Finding π).answer judge = .ok false := rfl
      rcases ih with ⟨hnames, hall, rfl⟩ | ⟨before, f, i, rfl, hbefore, hf, rfl⟩
      · refine .inl ⟨congrArg _ hnames, List.forall_mem_cons.mpr ⟨⟨_, hno⟩, hall⟩, ?_⟩
        rw [refusedNames_cons, if_pos hno]
        rfl
      · exact .inr ⟨_ :: before, f, i, rfl, List.forall_mem_cons.mpr ⟨⟨_, hno⟩, hbefore⟩, hf, rfl⟩
  | @answered name names p b w w₁ w₂ fs x _ hj _ ih =>
      have hb : (⟨name, some ⟨p, r, w.entering .enforcement⟩⟩ : Finding π).answer judge = .ok b :=
        congrArg Prod.fst hj
      rcases ih with ⟨hnames, hall, rfl⟩ | ⟨before, f, i, rfl, hbefore, hf, rfl⟩
      · refine .inl ⟨congrArg _ hnames, List.forall_mem_cons.mpr ⟨⟨_, hb⟩, hall⟩, ?_⟩
        rw [refusedNames_cons, hb]
        cases b <;> rfl
      · exact .inr ⟨_ :: before, f, i, rfl, List.forall_mem_cons.mpr ⟨⟨_, hb⟩, hbefore⟩, hf, rfl⟩
  | failed _ hj => exact .inr ⟨[], _, _, rfl, by simp, congrArg Prod.fst hj, rfl⟩

/-- **Only the answers on record matter.** -/
theorem Surveyed.congr {judge' : π → Request → Run Bool}
    (h : Surveyed judge rule? r names w fs x w₁)
    (heq : ∀ f ∈ fs, ∀ c ∈ f.consultation, c.answer judge' = c.answer judge) :
    Surveyed judge' rule? r names w fs x w₁ := by
  induction h with
  | done => exact .done
  | unruled hnone _ ih => exact .unruled hnone (ih (List.forall_mem_cons.mp heq).2)
  | answered hsome hj _ ih =>
      obtain ⟨hf, hfs⟩ := List.forall_mem_cons.mp heq
      exact .answered hsome ((hf _ rfl).trans hj) (ih hfs)
  | failed hsome hj =>
      obtain ⟨hf, -⟩ := List.forall_mem_cons.mp heq
      exact .failed hsome ((hf _ rfl).trans hj)

end Asking

/-! ## Setting up -/

/-- A call that sets up an evaluator. -/
inductive Setup (π : Type) where
  | register (c : Registration π)
  /-- Ask for attribute security. -/
  | secure

namespace Setup

/-- The book after a call; a registration that fails leaves it as it was. -/
def apply (type : String) (b : RuleBook π) : Setup π → RuleBook π
  | register c => c.apply type b
  | secure => b.secure

/-- The book after a list of calls. -/
def replay (type : String) (b : RuleBook π) (setups : List (Setup π)) : RuleBook π :=
  setups.foldl (apply type) b

/-- What a call grants for a target: its predicate, if it is a registration that succeeds. -/
def grants (type : String) (t : RuleTarget) (b : RuleBook π) : Setup π → List π
  | register c => if c.succeeds type b && c.spec.names t then [c.predicate] else []
  | secure => []

/-- What a list of calls grants for a target, in their order. -/
def granted (type : String) (t : RuleTarget) : RuleBook π → List (Setup π) → List π
  | _, [] => []
  | b, s :: rest => s.grants type t b ++ granted type t (s.apply type b) rest

/-- A call from which on attributes are secured: it asks for that, or it succeeds and names one. -/
def Secures (type : String) (b : RuleBook π) : Setup π → Prop
  | register c => c.succeeds type b = true ∧ ∃ name, c.spec.names (.attr name) = true
  | secure => True

end Setup

/-- The rules of a target are what the calls grant for it, in their order. -/
theorem rulesFor_setup (type : String) (t : RuleTarget) :
    ∀ (setups : List (Setup π)) (b : RuleBook π),
      (Setup.replay type b setups).rulesFor t
        = b.rulesFor t ++ (Setup.granted type t b setups).map (Rule.mk t)
  | [], b => by simp [Setup.replay, Setup.granted]
  | s :: rest, b => by
      have ih := rulesFor_setup type t rest (s.apply type b)
      simp only [Setup.replay, List.foldl_cons] at ih ⊢
      rw [ih, Setup.granted, List.map_append, ← List.append_assoc]
      congr 1
      cases s with
      | secure => exact (List.append_nil _).symm
      | register c =>
          rw [Setup.apply, RuleBook.rulesFor_apply, Setup.grants]
          congr 1
          split <;> rfl

theorem securesAttributes_apply (type : String) (b : RuleBook π) (s : Setup π) :
    (s.apply type b).securesAttributes = true ↔ b.securesAttributes = true ∨ s.Secures type b := by
  cases s with
  | secure => simp [Setup.apply, Setup.Secures, RuleBook.secure, RuleBook.securesAttributes]
  | register c =>
      have hstrict : (c.apply type b).strict = b.strict := by
        unfold Registration.apply
        cases h : (c.call type b).result with
        | ok b' => rw [RuleBook.call_ok h]; rfl
        | error e => rfl
      simp only [RuleBook.securesAttributes_iff, Setup.apply, Setup.Secures, hstrict,
        RuleBook.rulesFor_apply]
      rw [or_assoc]
      refine or_congr_right ⟨?_, ?_⟩
      · rintro ⟨name, hne⟩
        by_cases hb : b.rulesFor (.attr name) = []
        · right
          rw [hb, List.nil_append] at hne
          have hnamed : (c.succeeds type b && c.spec.names (.attr name)) = true := by
            by_contra hnot
            exact hne (if_neg hnot)
          rw [Bool.and_eq_true] at hnamed
          exact ⟨hnamed.1, name, hnamed.2⟩
        · exact .inl ⟨name, hb⟩
      · rintro (⟨name, hne⟩ | ⟨hok, name, hname⟩)
        · exact ⟨name, fun h => hne (List.append_eq_nil_iff.mp h).1⟩
        · exact ⟨name, by simp [hok, hname]⟩

/-- Attributes are secured from the first call on that secures them. -/
theorem securesAttributes_setup (type : String) : ∀ (setups : List (Setup π)) (b : RuleBook π),
    (Setup.replay type b setups).securesAttributes = true ↔ b.securesAttributes = true ∨
      ∃ before s after, setups = before ++ s :: after ∧ s.Secures type (Setup.replay type b before)
  | [], b => by simp [Setup.replay]
  | s :: rest, b => by
      have ih := securesAttributes_setup type rest (s.apply type b)
      rw [show Setup.replay type b (s :: rest) = Setup.replay type (s.apply type b) rest from rfl,
        ih, securesAttributes_apply, or_assoc]
      refine or_congr_right ⟨?_, ?_⟩
      · rintro (hs | ⟨before, s', after, rfl, hs⟩)
        · exact ⟨[], s, rest, rfl, hs⟩
        · exact ⟨s :: before, s', after, rfl, hs⟩
      · rintro ⟨before, s', after, heq, hs⟩
        cases before with
        | nil =>
            obtain ⟨rfl, rfl⟩ := List.cons.inj heq
            exact .inl hs
        | cons first before =>
            obtain ⟨rfl, rfl⟩ := List.cons.inj heq
            exact .inr ⟨before, s', after, rfl, hs⟩

/-! ## The check -/

/-- What a check reports of its findings about some names. -/
structure Reported (judge : π → Request → Run Bool) (names : List String)
    (denial : SortedSet String → Denial) (fs : List (Finding π))
    (result : Except Interrupt (Except Denial Unit)) : Prop where
  /-- Where nobody fails, every name is asked about.  The check succeeds if everybody says yes, and
  otherwise the denial lists exactly the names for which somebody says no. -/
  complete : (∀ f ∈ fs, ∃ b, f.answer judge = .ok b) → fs.map Finding.name = names ∧
    (result = .ok (.ok ()) ↔ ∀ f ∈ fs, f.answer judge = .ok true) ∧
    (result ≠ .ok (.ok ()) → ∃ denied : SortedSet String, result = .ok (.error (denial denied)) ∧
      denied.toList = refusedNames judge fs)
  /-- Where somebody fails, he is the last who is asked, and the check fails as he does. -/
  interrupted : ∀ f ∈ fs, ∀ i, f.answer judge = .error i → fs.getLast? = some f ∧ result = .error i

/-- A check of the changed attributes of an entity.  As with `Decided`, the check is given for every
meaning that the predicates could have. -/
structure Examined (judge : π → Request → Run Bool) (type : String) (secured : Prop)
    (rule? : String → Option π) (subject : Entity) (denial : SortedSet String → Denial)
    (check : (π → Request → Run Bool) → Run (Except Denial Unit)) (w : Work) : Prop where
  /-- Where attributes are not secured or nothing of the entity is asked, it succeeds, and nobody is
  asked. -/
  idle : ¬ secured ∨ Unasked type subject w.context →
    (check judge w).1 = .ok (.ok ()) ∧ (check judge w).2.toWorld = w.toWorld ∧
    ∀ judge', check judge' w = check judge w
  /-- Otherwise the names are asked about in the order of their bytes, each through its own rule and
  with enforcement off.  The check reports what is found, and nobody else matters. -/
  surveyed : secured → ¬ Unasked type subject w.context → ∃ fs x w₁,
    Surveyed judge rule? ⟨w.context.actor, subject, none⟩ subject.changes.keys w fs x w₁ ∧
    Reported judge subject.changes.keys denial fs (check judge w).1 ∧
    (check judge w).2.toWorld = w₁.toWorld ∧
    fs.map Finding.name <+: subject.changes.keys ∧
    subject.changes.keys.Pairwise (fun m n => Text.utf8 m.toList < Text.utf8 n.toList) ∧
    (∀ f ∈ fs, f.consultation.map Consultation.predicate = rule? f.name ∧
      ∀ c ∈ f.consultation, c.request = ⟨w.context.actor, subject, none⟩ ∧
        c.found.context.enforcing = false) ∧
    ∀ judge', (∀ f ∈ fs, ∀ c ∈ f.consultation, c.answer judge' = c.answer judge) →
      check judge' w = check judge w

section Check

variable {judge : π → Request → Run Bool} {fs : List (Finding π)}

theorem refusedNames_eq_nil_iff (h : ∀ f ∈ fs, ∃ b, f.answer judge = .ok b) :
    refusedNames judge fs = [] ↔ ∀ f ∈ fs, f.answer judge = .ok true := by
  simp only [refusedNames, List.map_eq_nil_iff, List.filter_eq_nil_iff, decide_eq_true_eq]
  refine forall₂_congr fun f hf => ?_
  obtain ⟨b, hb⟩ := h f hf
  rw [hb]
  cases b <;> simp

/-- The names that are refused are listed as they are in the denial. -/
theorem toList_refusedNames {names : List String}
    (hnames : names.Pairwise fun m n => compare m n = .lt) (h : fs.map Finding.name <+: names) :
    (SortedSet.ofList (refusedNames judge fs)).toList = refusedNames judge fs :=
  SortedSet.toList_ofList (hnames.sublist ((List.filter_sublist.map _).trans h.sublist))

theorem Surveyed.reported {rule? : String → Option π} {r : Request} {names : List String}
    {w w₁ : Work} {x : Except Interrupt (List String)}
    (h : Surveyed judge rule? r names w fs x w₁)
    (hnames : names.Pairwise fun m n => compare m n = .lt) (denial : SortedSet String → Denial) :
    Reported judge names denial fs (x.map fun refused =>
      if refused = [] then .ok () else .error (denial (SortedSet.ofList refused))) := by
  rcases h.outcome with ⟨hall, hanswers, rfl⟩ | ⟨before, f, i, rfl, hbefore, hf, rfl⟩
  · refine ⟨fun _ => ⟨hall, ?_, fun hne => ?_⟩, fun f hf i hi => ?_⟩
    · rw [← refusedNames_eq_nil_iff hanswers]
      by_cases hnil : refusedNames judge fs = [] <;> simp [Except.map, hnil]
    · have hsome : refusedNames judge fs ≠ [] := fun hnil => hne (by simp [Except.map, hnil])
      exact ⟨_, by simp [Except.map, hsome], toList_refusedNames hnames h.order⟩
    · obtain ⟨b, hb⟩ := hanswers f hf
      exact absurd (hb.symm.trans hi) (by simp)
  · refine ⟨fun hanswers => ?_, fun g hg j hj => ?_⟩
    · obtain ⟨b, hb⟩ := hanswers f (List.mem_append_right _ List.mem_cons_self)
      exact absurd (hb.symm.trans hf) (by simp)
    · rcases List.mem_append.mp hg with hmem | hmem
      · obtain ⟨b, hb⟩ := hbefore g hmem
        exact absurd (hb.symm.trans hj) (by simp)
      · obtain rfl := List.mem_singleton.mp hmem
        obtain rfl := Except.error.inj (hf.symm.trans hj)
        exact ⟨List.getLast?_concat, rfl⟩

variable {e : Evaluator π} {a : Action} {subject : Entity} {w : Work}

/-- The check does what comes of the asking. -/
theorem checkAttributes_of_surveyed {w₁ : Work} {x : Except Interrupt (List String)}
    (hsecured : e.book.securesAttributes = true)
    (hasked : ¬ Unasked e.entityType subject w.context)
    (h : Surveyed judge e.ruling ⟨w.context.actor, subject, none⟩ subject.changes.keys w fs x w₁) :
    ∃ events, e.checkAttributes judge a subject w
      = (x.map fun refused => if refused = [] then .ok () else .error (.attributes a.name
          (SortedSet.ofList refused) (Actor.describe w.context.actor) subject.describe),
        { w₁ with events }) := by
  have hbypassed : ¬ e.bypassed subject w.context = true := fun hb =>
    hasked ((bypassed_iff e subject _).mp hb)
  rw [checkAttributes, hsecured, if_neg (by simp), Run.context_bind, if_neg hbypassed]
  cases x with
  | error i => exact ⟨_, Run.bind_of_error h.deniedNames_eq _⟩
  | ok refused =>
      rw [Run.bind_of_ok h.deniedNames_eq, Run.note_bind]
      cases refused with
      | nil => exact ⟨_, rfl⟩
      | cons name names => exact ⟨_, rfl⟩

/-- The check depends on what the predicates mean through the asking only. -/
theorem checkAttributes_congr {judge' : π → Request → Run Bool}
    (h : deniedNames judge' e ⟨w.context.actor, subject, none⟩ subject.changes.keys w
      = deniedNames judge e ⟨w.context.actor, subject, none⟩ subject.changes.keys w) :
    e.checkAttributes judge' a subject w = e.checkAttributes judge a subject w := by
  rw [checkAttributes, checkAttributes]
  cases e.book.securesAttributes with
  | false => rfl
  | true =>
      rw [if_neg (by simp), if_neg (by simp), Run.context_bind, Run.context_bind]
      by_cases hb : e.bypassed subject w.context = true
      · rw [if_pos hb, if_pos hb]
      · rw [if_neg hb, if_neg hb]
        exact Run.bind_congr h _

variable (judge e a subject w) in
/-- **A check of attributes reports what the rules of the changed names say.** -/
theorem examined_checkAttributes :
    Examined judge e.entityType (e.book.securesAttributes = true) e.ruling subject
      (fun denied => .attributes a.name denied (Actor.describe w.context.actor) subject.describe)
      (fun judge => e.checkAttributes judge a subject) w := by
  refine ⟨fun hidle => ?_, fun hsecured hasked => ?_⟩
  · rcases hidle with hopen | hunasked
    · have hunsecured := Bool.eq_false_iff.mpr hopen
      have hnothing := fun judge => checkAttributes_of_unsecured judge a subject w hunsecured
      exact ⟨by rw [hnothing], by rw [hnothing], fun judge' => (hnothing judge').trans
        (hnothing judge).symm⟩
    · obtain ⟨events, hnothing⟩ := checkAttributes_of_unasked hunasked a
      exact ⟨by rw [hnothing], by rw [hnothing], fun judge' => (hnothing judge').trans
        (hnothing judge).symm⟩
  · obtain ⟨fs, hfs⟩ := surveyed_deniedNames judge e ⟨w.context.actor, subject, none⟩
      subject.changes.keys w
    obtain ⟨events, heq⟩ := checkAttributes_of_surveyed (a := a) hsecured hasked hfs
    have hkeys : subject.changes.keys.Pairwise fun m n => compare m n = .lt :=
      subject.changes.ascending.map _ fun _ _ h => h
    have hreported := hfs.reported hkeys fun denied =>
      .attributes a.name denied (Actor.describe w.context.actor) subject.describe
    refine ⟨fs, _, _, hfs, ?_, ?_, hfs.order, hkeys.imp Text.utf8_lt_of_compare_lt, hfs.asked,
      fun judge' hsame => ?_⟩
    · rw [heq]
      exact hreported
    · rw [heq]
    · exact checkAttributes_congr ((hfs.congr hsame).deniedNames_eq.trans rfl)

end Check

/-- The evaluator that a list of calls sets up. -/
def ofSetup (type : String) (schema : Option Schema) (setups : List (Setup π)) : Evaluator π :=
  ⟨type, Setup.replay type (.blank schema) setups⟩

/-- Whether some call of a list secures attributes. -/
def SecuredBy (type : String) (schema : Option Schema) (setups : List (Setup π)) : Prop :=
  ∃ before s after, setups = before ++ s :: after ∧
    s.Secures type (Setup.replay type (.blank schema) before)

theorem securesAttributes_ofSetup (type : String) (schema : Option Schema)
    (setups : List (Setup π)) :
    (ofSetup type schema setups).book.securesAttributes = true ↔ SecuredBy type schema setups :=
  (securesAttributes_setup type setups (.blank schema)).trans <| or_iff_right <| by
    simp [RuleBook.securesAttributes, RuleBook.blank]

theorem ruling_ofSetup (type : String) (schema : Option Schema) (setups : List (Setup π)) :
    (ofSetup type schema setups).ruling
      = fun name => (Setup.granted type (.attr name) (.blank schema) setups).getLast? := by
  funext name
  have hrules : (ofSetup type schema setups).book.rulesFor (.attr name)
      = (Setup.granted type (.attr name) (.blank schema) setups).map (Rule.mk (.attr name)) :=
    (rulesFor_setup type (.attr name) setups (.blank schema)).trans (List.nil_append _)
  rw [ruling, RuleBook.attributeRule?, hrules, List.getLast?_map, Option.map_map]
  exact congrFun Option.map_id _

/-- **Checks of attributes are decided by how the evaluator was set up.**  They are carried out from
the first call on that secures attributes, whatever comes after it.  Each changed name is decided by
the last call that succeeded and named it, and exactly the names without such a call or with one
whose predicate says no are reported. -/
theorem examined_of_setup (judge : π → Request → Run Bool) (type : String) (schema : Option Schema)
    (setups more : List (Setup π)) (a : Action) (subject : Entity) (w : Work) :
    Examined judge type (SecuredBy type schema setups)
      (fun name => (Setup.granted type (.attr name) (.blank schema) setups).getLast?) subject
      (fun denied => .attributes a.name denied (Actor.describe w.context.actor) subject.describe)
      (fun judge => (ofSetup type schema setups).checkAttributes judge a subject) w ∧
    (SecuredBy type schema setups → SecuredBy type schema (setups ++ more)) := by
  refine ⟨?_, ?_⟩
  · rw [← ruling_ofSetup, ← propext (securesAttributes_ofSetup type schema setups)]
    exact examined_checkAttributes judge (ofSetup type schema setups) a subject w
  · rintro ⟨before, s, after, rfl, hs⟩
    exact ⟨before, s, after ++ more, by simp, hs⟩

end LifecycleGuard.Evaluator
