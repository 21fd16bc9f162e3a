import LifecycleGuard.Proofs.Registry.Building

/-!
# What loading finds out about building

A document is checked when it is loaded, and each of its entity types is checked again when a policy
is built of it.  Both go through the same items with checks of their own.

**Loading.**  `EntityDeclaration.Checked` is what loading makes sure of: every rule is well formed
and carries no filter, and every audit clause is valid.

**Building.**  What building asks in addition is that there is a predicate of every name, and that
grants of attributes name nothing else.  The second could be found when the document is loaded, and
is not: `build_of_loaded` says that this is all that can go wrong later, and
`attributeGrants_not_checked` that it does.
-/

namespace LifecycleGuard

/-! ## Loading -/

namespace EntityDeclaration

theorem checkAll_ok {α β : Type} {parse : α → Except DeclarationError β} {xs : List α} :
    checkAll parse xs = .ok () ↔ ∀ x ∈ xs, ∃ y, parse x = .ok y := by
  induction xs with
  | nil => simp [checkAll]
  | cons x xs ih =>
      have hdiscard : discard (parse x) = .ok () ↔ ∃ y, parse x = .ok y := by
        cases parse x with
        | error e => simp [discard, Functor.discard, Functor.mapConst, Except.map]
        | ok y => simp [discard, Functor.discard, Functor.mapConst, Except.map]
      simp only [checkAll, bind_eq_ok, ih, List.forall_mem_cons, ← hdiscard]
      constructor
      · rintro ⟨_, hx, hxs⟩
        exact ⟨hx, hxs⟩
      · rintro ⟨hx, hxs⟩
        exact ⟨(), hx, hxs⟩

theorem parseRule_ok {d : EntityDeclaration} {g : GrantDeclaration} {s : RuleSpec} :
    d.parseRule g = .ok s ↔ RuleSpec.ofTokens d.schema g.rule = .ok s ∧ s.Unfiltered := by
  unfold parseRule RuleSpec.Unfiltered
  rw [bind_eq_ok]
  constructor
  · rintro ⟨s', hs, hfilter⟩
    cases h : s'.filter.isEmpty with
    | true =>
        rw [h] at hfilter
        obtain rfl : s' = s := Except.ok.inj hfilter
        exact ⟨hs, h⟩
    | false =>
        rw [h] at hfilter
        cases hfilter
  · rintro ⟨hs, hfilter⟩
    exact ⟨s, hs, if_pos hfilter⟩

/-- What loading makes sure of. -/
structure Checked (d : EntityDeclaration) : Prop where
  rules : ∀ g ∈ d.grants ++ d.attributeGrants,
    ∃ s, RuleSpec.ofTokens d.schema g.rule = .ok s ∧ s.Unfiltered
  audits : ∀ c ∈ d.audits, c.Valid

theorem validate_ok {type : String} {d : EntityDeclaration} :
    d.validate type = .ok () ↔ d.Checked := by
  have hcheck : d.validate type = .ok () ↔ d.check = .ok () := by
    unfold validate
    cases d.check with
    | error e => simp [Except.mapError]
    | ok _ => simp [Except.mapError]
  rw [hcheck, check, bind_eq_ok]
  constructor
  · rintro ⟨_, hrules, haudits⟩
    refine ⟨fun g hg => ?_, fun c hc => ?_⟩
    · obtain ⟨s, hs⟩ := checkAll_ok.mp hrules g hg
      exact ⟨s, parseRule_ok.mp hs⟩
    · obtain ⟨_, hparse⟩ := checkAll_ok.mp haudits c hc
      exact (AuditClause.parse_ok.mp hparse).1
  · rintro ⟨hrules, haudits⟩
    refine ⟨(), checkAll_ok.mpr fun g hg => ?_, checkAll_ok.mpr fun c hc => ?_⟩
    · obtain ⟨s, hs⟩ := hrules g hg
      exact ⟨s, parseRule_ok.mpr hs⟩
    · exact ⟨_, AuditClause.parse_ok.mpr ⟨haudits c hc, rfl⟩⟩

end EntityDeclaration

theorem Declarations.validate_ok {d : Declarations} :
    d.validate = .ok () ↔ ∀ type e, d.entity? type = some e → e.Checked := by
  have hall : ∀ l, validateAll l = .ok () ↔ ∀ x ∈ l, x.2.Checked := by
    intro l
    induction l with
    | nil => simp [validateAll]
    | cons x l ih =>
        simp only [validateAll, bind_eq_ok, ih, List.forall_mem_cons]
        constructor
        · rintro ⟨_, hx, hl⟩
          exact ⟨EntityDeclaration.validate_ok.mp hx, hl⟩
        · rintro ⟨hx, hl⟩
          exact ⟨(), EntityDeclaration.validate_ok.mpr hx, hl⟩
  rw [validate, hall]
  simp only [Prod.forall, SortedMap.mem_entries_iff, entity?]

namespace Registry

/-- A registry is of declarations that are checked. -/
theorem withStore_ok {d : Declarations} {s : Store} {r : Registry} :
    (withStore d s).result = .ok r ↔ d.validate = .ok () ∧ r = ⟨d, s⟩ := by
  simp only [withStore, Noted.bind_ok, Noted.result_ofExcept, Noted.result_note, Noted.result_pure]
  constructor
  · rintro ⟨_, hvalid, _, -, hr⟩
    exact ⟨hvalid, (Except.ok.inj hr).symm⟩
  · rintro ⟨hvalid, rfl⟩
    exact ⟨(), hvalid, (), trivial, rfl⟩

/-- Everything in a registry was checked. -/
theorem checked_of_loaded {d : Declarations} {s : Store} {r : Registry}
    (hloaded : (withStore d s).result = .ok r) (type : String) :
    (r.declarationOf type).Checked := by
  obtain ⟨hvalid, rfl⟩ := withStore_ok.mp hloaded
  unfold declarationOf
  cases hd : d.entity? type with
  | none => exact ⟨fun _ h => (List.not_mem_nil h).elim, fun _ h => (List.not_mem_nil h).elim⟩
  | some e => exact Declarations.validate_ok.mp hvalid type e hd

/-! ## Building -/

variable {π μ : Type} {predicates : SortedMap String π}

/-- What is accepted declares an action, an attribute or a relation. -/
theorem isEmpty_of_ofTokens {schema : Option Schema} {tokens : List RuleToken} {s : RuleSpec}
    (hs : RuleSpec.ofTokens schema tokens = .ok s) : s.isEmpty = false := by
  obtain ⟨hwell, hdeclares⟩ := RuleSpec.ofTokens_ok hs
  rw [RuleSpec.isEmpty_eq_false_iff]
  simpa only [hdeclares] using hwell.something

/-- Where a rule is read, there is something wrong with a grant of attributes only if it names
something else. -/
theorem onlyAttributes_iff {schema : Option Schema} {g : GrantDeclaration} {s : RuleSpec}
    (hs : RuleSpec.ofTokens schema g.rule = .ok s) (hfilter : s.Unfiltered) :
    s.OnlyAttributes ↔ ∀ t, g.Names schema t → ∃ name, t = .attr name := by
  have hnames : ∀ t, g.Names schema t ↔ s.names t = true := fun t =>
    ((RuleSpec.names_iff_holds s t).trans ((RuleSpec.ofTokens_ok hs).2 _)).symm
  simp only [hnames]
  refine ⟨fun honly t => honly.names, fun h => ?_⟩
  have hactions : s.actions.isEmpty = true := by
    by_contra hne
    obtain ⟨a, ha⟩ := (SortedSet.isEmpty_eq_false_iff _).mp (Bool.eq_false_iff.mpr hne)
    obtain ⟨name, hname⟩ := h (.action a) ha
    cases hname
  have hrelations : s.namesRelation = false := by
    by_contra hne
    obtain ⟨k, relation, hmem⟩ := (RuleSpec.namesRelation_iff s).mp (Bool.not_eq_false _ ▸ hne)
    obtain ⟨name, hname⟩ := h (.association k relation) ((RuleSpec.names_iff_holds s _).mpr hmem)
    cases hname
  refine ⟨hactions, hrelations, ?_, hfilter⟩
  simpa [RuleSpec.isEmpty, hactions, hrelations] using isEmpty_of_ofTokens hs

/-- A grant of attributes whose rule is read is refused for its scope only. -/
theorem grantAttributes_error {p : Policy π μ} {tokens : List RuleToken} {q : π} {s : RuleSpec}
    {e : DeclarationError} (hs : RuleSpec.ofTokens p.rules.schema tokens = .ok s)
    (hfilter : s.Unfiltered) (he : (p.grantAttributes tokens q).result = .error e) :
    e = .attributeGrantScope := by
  have hrules : (p.rules.registerAttributes p.entityType s q).result = .error e := by
    simpa [Policy.grantAttributes, Noted.bind_error, hs] using he
  unfold RuleBook.registerAttributes at hrules
  split at hrules
  · exact (Except.error.inj hrules).symm
  · rename_i hscope
    simp only [Bool.or_eq_true, Bool.not_eq_true', not_or, Bool.not_eq_false,
      Bool.not_eq_true] at hscope
    split at hrules
    · rename_i hnone
      have hempty := isEmpty_of_ofTokens hs
      simp [RuleSpec.isEmpty, hscope, hnone] at hempty
    · rw [RuleBook.register_ok.mpr ⟨hfilter, rfl⟩] at hrules
      cases hrules

/-- Where there is a predicate of every name, registering grants fails at one of them. -/
theorem registerGrants_error
    {register : Policy π μ → List RuleToken → π → Noted DeclarationError (Policy π μ)}
    {Allowed : RuleSpec → Prop} (h : Registers register Allowed) {gs : List GrantDeclaration}
    (hpredicates : ∀ g ∈ gs, predicates.contains g.predicate = true) {p : Policy π μ}
    {e : DeclarationError} (he : (registerGrants predicates register gs p).result = .error e) :
    ∃ g ∈ gs, ∃ p₁ q, p₁.rules.schema = p.rules.schema ∧
      (register p₁ g.rule q).result = .error e := by
  induction gs generalizing p with
  | nil => cases he
  | cons g gs ih =>
      obtain ⟨hg, hgs⟩ := List.forall_mem_cons.mp hpredicates
      obtain ⟨q, hq⟩ := Option.isSome_iff_exists.mp hg
      rw [registerGrants, Noted.bind_error] at he
      rcases he with he | ⟨q', -, he⟩
      · rw [resolve_ok.mpr hq] at he
        cases he
      · rcases Noted.bind_error.mp he with he | ⟨p₁, hp₁, he⟩
        · exact ⟨g, List.mem_cons_self, p, q', rfl, he⟩
        · obtain ⟨s, -, -, rfl⟩ := (h _ _ _ _).mp hp₁
          obtain ⟨g', hg', p₂, q₂, hschema, he₂⟩ := ih hgs he
          exact ⟨g', List.mem_cons_of_mem _ hg', p₂, q₂, hschema, he₂⟩

/-- What is checked and has its predicates fails to be registered for the scope of a grant of
attributes only. -/
theorem apply_error {d : EntityDeclaration} (hchecked : d.Checked)
    (hpredicates : ∀ g ∈ d.grants ++ d.attributeGrants, predicates.contains g.predicate = true)
    {template : Action → String → μ} {p : Policy π μ} (hschema : p.rules.schema = d.schema)
    {e : DeclarationError} (he : (Registry.apply predicates template d p).result = .error e) :
    e = .attributeGrantScope := by
  have hgrants : ∀ g ∈ d.grants, g.Accepted predicates p.rules.schema RuleSpec.Unfiltered := by
    intro g hg
    have hmem : g ∈ d.grants ++ d.attributeGrants := List.mem_append_left _ hg
    obtain ⟨s, hs, hfilter⟩ := hchecked.rules g hmem
    obtain ⟨q, hq⟩ := Option.isSome_iff_exists.mp (hpredicates g hmem)
    exact ⟨s, q, hschema ▸ hs, hq, hfilter⟩
  rw [Registry.apply, Noted.bind_error] at he
  rcases he with he | ⟨p₁, hp₁, he⟩
  · rw [(registerGrants_ok registers_grant).mpr ⟨hgrants, rfl⟩] at he
    cases he
  · obtain ⟨-, rfl⟩ := (registerGrants_ok registers_grant).mp hp₁
    rcases Noted.bind_error.mp he with he | ⟨p₂, -, he⟩
    · obtain ⟨g, hg, p₃, q, hschema₃, he⟩ := registerGrants_error registers_grantAttributes
        (fun g hg => hpredicates g (List.mem_append_right _ hg)) he
      obtain ⟨s, hs, hfilter⟩ := hchecked.rules g (List.mem_append_right _ hg)
      have hsame : p₃.rules.schema = d.schema := by
        rw [hschema₃, RuleBook.schema_declared, hschema]
      exact grantAttributes_error (hsame ▸ hs) hfilter he
    · rcases Noted.bind_error.mp he with he | ⟨p₃, -, he⟩
      · rw [registerClauses_ok.mpr ⟨hchecked.audits, rfl⟩] at he
        cases he
      · rcases Noted.bind_error.mp he with he | ⟨_, -, he⟩
        · cases he
        · cases he

/-- **What can still go wrong after loading.**  Of declarations that were loaded, with a predicate of
every name, a policy is built exactly if grants of attributes name nothing else, and that one of
them does is the only error. -/
theorem build_of_loaded {declarations : Declarations} {store : Store} {r : Registry}
    (hloaded : (withStore declarations store).result = .ok r) (type : String)
    (predicates : SortedMap String π)
    (hpredicates : ∀ g ∈ (r.declarationOf type).grants ++ (r.declarationOf type).attributeGrants,
      predicates.contains g.predicate = true) (template : Action → String → μ) :
    ((∃ p, (r.build type predicates template).result = .ok p) ↔
      ∀ g ∈ (r.declarationOf type).attributeGrants, ∀ t, g.Names (r.declarationOf type).schema t →
        ∃ name, t = .attr name) ∧
    ∀ e, (r.build type predicates template).result = .error e → e = .attributeGrantScope := by
  have hchecked := checked_of_loaded hloaded type
  have hexists : (∃ p, (r.build type predicates template).result = .ok p) ↔
      Accepts predicates (r.declarationOf type) :=
    ⟨fun ⟨_, hp⟩ => (build_ok.mp hp).1, fun h => ⟨_, build_ok.mpr ⟨h, rfl⟩⟩⟩
  refine ⟨hexists.trans ⟨fun h g hg => ?_, fun h => ⟨fun g hg => ?_, fun g hg => ?_, ?_⟩⟩,
    fun e he => ?_⟩
  · obtain ⟨s, q, hs, -, honly⟩ := h.attributeGrants g hg
    exact (onlyAttributes_iff hs honly.unfiltered).mp honly
  · obtain ⟨s, hs, hfilter⟩ := hchecked.rules g (List.mem_append_left _ hg)
    obtain ⟨q, hq⟩ := Option.isSome_iff_exists.mp (hpredicates g (List.mem_append_left _ hg))
    exact ⟨s, q, hs, hq, hfilter⟩
  · obtain ⟨s, hs, hfilter⟩ := hchecked.rules g (List.mem_append_right _ hg)
    obtain ⟨q, hq⟩ := Option.isSome_iff_exists.mp (hpredicates g (List.mem_append_right _ hg))
    exact ⟨s, q, hs, hq, (onlyAttributes_iff hs hfilter).mpr (h g hg)⟩
  · exact hchecked.audits
  · unfold build at he
    unfold declarationOf at hchecked hpredicates
    cases hd : r.declarations.entity? type with
    | none =>
        rw [hd] at he
        cases he
    | some d =>
        rw [hd] at he hchecked hpredicates
        exact apply_error hchecked hpredicates rfl he

/-- Declarations for notes with one grant of attributes. -/
def noteDeclarations (rule : List RuleToken) : Declarations where
  audit := .standard
  entities := .ofList [("note", {
    attributes := some ["title", "body"]
    grants := [⟨[.symbol "update"], "always"⟩]
    attributeGrants := [⟨rule, "always"⟩]
    attributeSecurity := false
    audits := [⟨["update"], ["title"], [], none⟩] })]

/-- The predicate that always permits. -/
def always : SortedMap String Bool := .ofList [("always", true)]

/-- The registry of the declarations for notes. -/
def noteRegistry (rule : List RuleToken) : Registry := ⟨noteDeclarations rule, .null⟩

/-- The policy for notes, if there is one. -/
def buildNote (rule : List RuleToken) : Noted DeclarationError (Policy Bool String) :=
  (noteRegistry rule).build "note" always fun _ text => text

theorem build_of_loaded_title :
    (withStore (noteDeclarations [.symbol "title"]) .null).result
      = .ok (noteRegistry [.symbol "title"]) ∧
    ∃ p, (buildNote [.symbol "title"]).result = .ok p := by
  have hloaded : (withStore (noteDeclarations [.symbol "title"]) .null).result
      = .ok (noteRegistry [.symbol "title"]) := withStore_ok.mpr ⟨by decide +kernel, rfl⟩
  refine ⟨hloaded, (build_of_loaded hloaded "note" always (by decide +kernel)
    fun _ text => text).1.mpr ?_⟩
  have hgrants : ((noteRegistry [.symbol "title"]).declarationOf "note").attributeGrants
      = [⟨[.symbol "title"], "always"⟩] := by decide +kernel
  rw [hgrants]
  intro g hg t ht
  obtain rfl := List.mem_singleton.mp hg
  cases ht with
  | @symbol token hmem hdeclares =>
      obtain rfl : token = "title" := by simpa using hmem
      generalize hi : RuleSpec.Item.ofTarget t = i at hdeclares
      cases hdeclares with
      | action hnamed =>
          have hnone : Action.parse? "title" = none := by decide +kernel
          exact absurd hnamed ((Action.parse?_eq_none_iff _).mp hnone _)
      | attr _ => cases t <;> cases hi; exact ⟨_, rfl⟩
  | member hcloses _ _ =>
      obtain ⟨members, hlast, -⟩ := hcloses
      cases hlast

/-- **Loading does not find out about grants of attributes that name actions.**  This one is
loaded, and building fails although there is a predicate of every name. -/
theorem attributeGrants_not_checked :
    (withStore (noteDeclarations [.symbol "create"]) .null).result
      = .ok (noteRegistry [.symbol "create"]) ∧
    (∀ g ∈ ((noteRegistry [.symbol "create"]).declarationOf "note").grants
      ++ ((noteRegistry [.symbol "create"]).declarationOf "note").attributeGrants,
      always.contains g.predicate = true) ∧
    (buildNote [.symbol "create"]).result = .error .attributeGrantScope := by
  refine ⟨withStore_ok.mpr ⟨by decide +kernel, rfl⟩, by decide +kernel, ?_⟩
  rfl

end Registry

end LifecycleGuard
