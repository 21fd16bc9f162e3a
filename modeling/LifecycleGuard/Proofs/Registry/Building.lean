import LifecycleGuard.Proofs.Collections.Except
import LifecycleGuard.Proofs.Declaration.Grammar
import LifecycleGuard.Proofs.Permission.Registration
import LifecycleGuard.Registry

/-!
# What a policy is built from

Building goes through three lists, grants, grants of attributes and audit clauses, and can fail at
every item.  Here it is taken apart once: which items are accepted, and what the policy is that an
accepted declaration gives.

**Items.**  `GrantDeclaration.Accepted` and `AuditClause.Valid` say of one item when it is
accepted.

**The policy.**  `RuleBook.declare` is what a grant adds to a book, and `Registry.policyOf` the
policy of a whole declaration, with no error in it.  `build_ok` says that building gives this policy
if every item is accepted, and nothing otherwise.

**Its rules.**  `rulesFor_declared` reads off for one target which grants have a rule for it, in
their order, and `declaration?_declared` which audit clause counts for an action.
-/

namespace LifecycleGuard

/-! ## The last of a list -/

/-- The last member of a list that has a property. -/
def IsLast {α : Type} (P : α → Prop) (l : List α) (x : α) : Prop :=
  ∃ before after, l = before ++ x :: after ∧ P x ∧ ∀ y ∈ after, ¬ P y

theorem isLast_congr {α : Type} {P Q : α → Prop} {l : List α} (h : ∀ x ∈ l, (P x ↔ Q x)) (x : α) :
    IsLast P l x ↔ IsLast Q l x := by
  refine exists_congr fun before => exists_congr fun after => and_congr_right fun hl => ?_
  subst hl
  refine and_congr (h x (by simp)) (forall₂_congr fun y hy => not_congr (h y ?_))
  exact List.mem_append_right _ (List.mem_cons_of_mem _ hy)

/-- What is picked last is picked from the last from which something is picked. -/
theorem getLast?_filterMap_eq_some_iff {α β : Type} (f : α → Option β) (l : List α) (y : β) :
    (l.filterMap f).getLast? = some y ↔ ∃ x, IsLast (fun x => f x ≠ none) l x ∧ f x = some y := by
  rw [← List.head?_reverse, ← List.filterMap_reverse, List.head?_filterMap,
    List.findSome?_eq_some_iff]
  constructor
  · rintro ⟨after, x, before, hl, hx, hafter⟩
    refine ⟨x, ⟨before.reverse, after.reverse, ?_, by simp [hx], ?_⟩, hx⟩
    · rw [← List.reverse_reverse l, hl]
      simp
    · intro z hz
      simp [hafter z (List.mem_reverse.mp hz)]
  · rintro ⟨x, ⟨before, after, rfl, -, hafter⟩, hx⟩
    refine ⟨after.reverse, x, before.reverse, by simp, hx, fun z hz => ?_⟩
    exact not_not.mp (hafter z (List.mem_reverse.mp hz))

/-! ## Grants -/

namespace RuleSpec

/-- The item that a target is. -/
def Item.ofTarget : RuleTarget → Item
  | .action a => .action a
  | .attr name => .attr name
  | .association k name => .relation k name

theorem names_iff_holds (s : RuleSpec) (t : RuleTarget) :
    s.names t = true ↔ s.Holds (.ofTarget t) := by
  cases t with
  | association k relation => exact decide_eq_true_iff
  | _ => rfl

end RuleSpec

/-- The rule of a grant names a target. -/
def GrantDeclaration.Names (schema : Option Schema) (g : GrantDeclaration) (t : RuleTarget) :
    Prop :=
  RuleSpec.Declares schema g.rule (.ofTarget t)

/-- There is a predicate of the name that a grant gives, and its rule is one that is allowed. -/
def GrantDeclaration.Accepted {π : Type} (predicates : SortedMap String π)
    (schema : Option Schema) (Allowed : RuleSpec → Prop) (g : GrantDeclaration) : Prop :=
  ∃ s q, RuleSpec.ofTokens schema g.rule = .ok s ∧ predicates.get? g.predicate = some q ∧ Allowed s

/-- A specification without a change filter. -/
def RuleSpec.Unfiltered (s : RuleSpec) : Prop := s.filter.isEmpty = true

/-- A specification that names attributes and nothing else. -/
structure RuleSpec.OnlyAttributes (s : RuleSpec) : Prop where
  actions : s.actions.isEmpty = true
  relations : s.namesRelation = false
  attributes : s.attributes.isEmpty = false
  unfiltered : s.Unfiltered

/-- A specification that names attributes only names nothing else. -/
theorem RuleSpec.OnlyAttributes.names {s : RuleSpec} (h : s.OnlyAttributes) {t : RuleTarget}
    (ht : s.names t = true) : ∃ name, t = .attr name := by
  cases t with
  | attr name => exact ⟨name, rfl⟩
  | action a =>
      have hsome : s.actions.isEmpty = false := (SortedSet.isEmpty_eq_false_iff _).mpr ⟨a, ht⟩
      rw [h.actions] at hsome
      cases hsome
  | association k relation =>
      have hsome : s.namesRelation = true := (RuleSpec.namesRelation_iff s).mpr
        ⟨k, relation, (RuleSpec.names_iff_holds s _).mp ht⟩
      rw [h.relations] at hsome
      cases hsome

namespace RuleBook

variable {π : Type}

/-- The predicate that a grant registers for a target, if it does. -/
def granted? (predicates : SortedMap String π) (schema : Option Schema) (t : RuleTarget)
    (g : GrantDeclaration) : Option π :=
  match RuleSpec.ofTokens schema g.rule, predicates.get? g.predicate with
  | .ok s, some q => if s.names t then some q else none
  | _, _ => none

/-- The book with the rules of a grant; one that cannot be read has none. -/
def declare (predicates : SortedMap String π) (b : RuleBook π) (g : GrantDeclaration) :
    RuleBook π :=
  match RuleSpec.ofTokens b.schema g.rule, predicates.get? g.predicate with
  | .ok s, some q => b.add s q
  | _, _ => b

variable {predicates : SortedMap String π} {schema : Option Schema} {Allowed : RuleSpec → Prop}

theorem declare_of_accepted {b : RuleBook π} {g : GrantDeclaration} {s : RuleSpec} {q : π}
    (hs : RuleSpec.ofTokens b.schema g.rule = .ok s) (hq : predicates.get? g.predicate = some q) :
    declare predicates b g = b.add s q := by
  rw [declare, hs, hq]

/-- A grant that is accepted registers its predicate for what it names. -/
theorem granted?_eq_some_iff {t : RuleTarget} {g : GrantDeclaration}
    (h : g.Accepted predicates schema Allowed) (q : π) :
    granted? predicates schema t g = some q ↔
      g.Names schema t ∧ predicates.get? g.predicate = some q := by
  obtain ⟨s, q', hs, hq', -⟩ := h
  have hnames : s.names t = true ↔ g.Names schema t :=
    (RuleSpec.names_iff_holds s t).trans ((RuleSpec.ofTokens_ok hs).2 _)
  rw [granted?, hs, hq', ← hnames]
  by_cases hn : s.names t = true <;> simp [hn]

/-- A grant that is accepted registers nothing for what it does not name. -/
theorem granted?_ne_none_iff {t : RuleTarget} {g : GrantDeclaration}
    (h : g.Accepted predicates schema Allowed) :
    granted? predicates schema t g ≠ none ↔ g.Names schema t := by
  rw [Option.ne_none_iff_exists']
  simp only [granted?_eq_some_iff h]
  obtain ⟨_, q, -, hq, -⟩ := h
  constructor
  · rintro ⟨_, hnames, _⟩
    exact hnames
  · exact fun hnames => ⟨q, hnames, hq⟩

theorem register_ok {type : String} {s : RuleSpec} {q : π} {b b' : RuleBook π} :
    (b.register type s q).result = .ok b' ↔ s.Unfiltered ∧ b' = b.add s q := by
  unfold register RuleSpec.Unfiltered
  cases s.filter.isEmpty with
  | true => simp [eq_comm]
  | false => simp

theorem registerAttributes_ok {type : String} {s : RuleSpec} {q : π} {b b' : RuleBook π} :
    (b.registerAttributes type s q).result = .ok b' ↔ s.OnlyAttributes ∧ b' = b.add s q := by
  unfold registerAttributes
  split
  · rename_i hscope
    refine iff_of_false (by simp) fun h => ?_
    simp [h.1.actions, h.1.relations] at hscope
  · rename_i hscope
    simp only [Bool.or_eq_true, Bool.not_eq_true', not_or, Bool.not_eq_false,
      Bool.not_eq_true] at hscope
    split
    · rename_i hempty
      refine iff_of_false (by simp) fun h => ?_
      simp [h.1.attributes] at hempty
    · rename_i hempty
      rw [register_ok]
      refine and_congr_left fun _ => ⟨fun h => ?_, fun h => h.unfiltered⟩
      exact ⟨hscope.1, hscope.2, Bool.eq_false_iff.mpr hempty, h⟩

@[simp] theorem schema_declare (b : RuleBook π) (g : GrantDeclaration) :
    (declare predicates b g).schema = b.schema := by
  unfold declare
  split <;> rfl

@[simp] theorem strict_declare (b : RuleBook π) (g : GrantDeclaration) :
    (declare predicates b g).strict = b.strict := by
  unfold declare
  split <;> rfl

@[simp] theorem schema_declared (gs : List GrantDeclaration) (b : RuleBook π) :
    (gs.foldl (declare predicates) b).schema = b.schema := by
  induction gs generalizing b with
  | nil => rfl
  | cons g gs ih => rw [List.foldl_cons, ih, schema_declare]

@[simp] theorem strict_declared (gs : List GrantDeclaration) (b : RuleBook π) :
    (gs.foldl (declare predicates) b).strict = b.strict := by
  induction gs generalizing b with
  | nil => rfl
  | cons g gs ih => rw [List.foldl_cons, ih, strict_declare]

theorem rulesFor_declare (b : RuleBook π) (g : GrantDeclaration) (t : RuleTarget) :
    (declare predicates b g).rulesFor t
      = b.rulesFor t ++ ((granted? predicates b.schema t g).map (Rule.mk t)).toList := by
  unfold declare granted?
  split
  · rename_i s q _ _
    rw [rulesFor_add]
    cases s.names t <;> rfl
  · simp

/-- **The rules of a target** are those of the grants that name it, in their order. -/
theorem rulesFor_declared (gs : List GrantDeclaration) (b : RuleBook π) (t : RuleTarget) :
    (gs.foldl (declare predicates) b).rulesFor t
      = b.rulesFor t ++ (gs.filterMap (granted? predicates b.schema t)).map (Rule.mk t) := by
  induction gs generalizing b with
  | nil => simp
  | cons g gs ih =>
      rw [List.foldl_cons, ih, rulesFor_declare, schema_declare, List.append_assoc]
      congr 1
      cases h : granted? predicates b.schema t g <;> simp [h]

end RuleBook

/-! ## Audit clauses -/

namespace AuditClause

variable {μ : Type}

/-- A clause names an action. -/
def Names (c : AuditClause) (a : Action) : Prop := ∃ word ∈ c.actions, Action.Named word a

/-- A clause is accepted: it names actions and nothing else, and its filter is valid. -/
structure Valid (c : AuditClause) : Prop where
  nonempty : c.actions ≠ []
  actions : ∀ word ∈ c.actions, ∃ a, Action.Named word a
  filter : c.filter.validate = .ok ()

/-- What a clause declares for an action that it names. -/
def declaration (template : Action → String → μ) (c : AuditClause) (a : Action) :
    AuditDeclaration μ :=
  ⟨a, c.filter, c.template.map (template a)⟩

/-- What a clause declares; words that name no action are passed over. -/
def declarations (template : Action → String → μ) (c : AuditClause) : List (AuditDeclaration μ) :=
  (c.actions.filterMap Action.parse?).map (c.declaration template)

theorem parseActions_ok {words : List String} {as : List Action} :
    parseActions words = .ok as ↔
      (∀ word ∈ words, ∃ a, Action.Named word a) ∧ as = words.filterMap Action.parse? := by
  induction words generalizing as with
  | nil => simp [parseActions, eq_comm]
  | cons word rest ih =>
      rw [parseActions, List.forall_mem_cons, ← not_forall_not, ← Action.parse?_eq_none_iff]
      cases h : Action.parse? word with
      | none => simp
      | some a =>
          rw [List.filterMap_cons_some h]
          cases hrest : parseActions rest with
          | error e =>
              have hnot : ¬ ∀ word ∈ rest, ∃ a, Action.Named word a := fun hall => by
                have hok := ih.mpr ⟨hall, rfl⟩
                rw [hrest] at hok
                cases hok
              simp [Except.map, hnot]
          | ok as' =>
              obtain ⟨hall, rfl⟩ := ih.mp hrest
              simpa [Except.map, eq_comm] using fun _ => hall

theorem parse_ok {c : AuditClause} {r : List Action × ChangeFilter} :
    c.parse = .ok r ↔ c.Valid ∧ r = (c.actions.filterMap Action.parse?, c.filter) := by
  unfold parse
  by_cases hempty : c.actions = []
  · rw [if_pos (by simp [hempty])]
    exact iff_of_false (by simp [bind_eq_ok]) fun h => h.1.nonempty hempty
  · rw [if_neg (by simp [hempty])]
    simp only [bind_eq_ok, parseActions_ok]
    constructor
    · rintro ⟨as, ⟨hactions, rfl⟩, _, hfilter, hr⟩
      exact ⟨⟨hempty, hactions, hfilter⟩, (Except.ok.inj hr).symm⟩
    · rintro ⟨hvalid, rfl⟩
      exact ⟨_, ⟨hvalid.actions, rfl⟩, (), hvalid.filter, rfl⟩

theorem clauseDeclarations_ok {template : Action → String → μ} {c : AuditClause}
    {ds : List (AuditDeclaration μ)} :
    Registry.clauseDeclarations template c = .ok ds ↔ c.Valid ∧ ds = c.declarations template := by
  unfold Registry.clauseDeclarations
  simp only [bind_eq_ok, parse_ok]
  constructor
  · rintro ⟨r, ⟨hvalid, rfl⟩, hds⟩
    exact ⟨hvalid, (Except.ok.inj hds).symm⟩
  · rintro ⟨hvalid, rfl⟩
    exact ⟨_, ⟨hvalid, rfl⟩, rfl⟩

end AuditClause

namespace AuditBook

variable {μ : Type} {type : String}

theorem register_ok {d : AuditDeclaration μ} {b b' : AuditBook μ} :
    (b.register type d).result = .ok b' ↔
      d.filter.validate = .ok () ∧ b' = ⟨b.declarations ++ [d]⟩ := by
  unfold register
  cases d.filter.validate with
  | error e => simp
  | ok _ => simp [eq_comm]

theorem registerAll_ok {ds : List (AuditDeclaration μ)} {b b' : AuditBook μ} :
    (b.registerAll type ds).result = .ok b' ↔
      (∀ d ∈ ds, d.filter.validate = .ok ()) ∧ b' = ⟨b.declarations ++ ds⟩ := by
  induction ds generalizing b with
  | nil => simp [registerAll, eq_comm]
  | cons d ds ih =>
      simp only [registerAll, Noted.bind_ok, register_ok, ih, List.forall_mem_cons]
      constructor
      · rintro ⟨_, ⟨hd, rfl⟩, hds, rfl⟩
        exact ⟨⟨hd, hds⟩, by simp⟩
      · rintro ⟨⟨hd, hds⟩, rfl⟩
        exact ⟨_, ⟨hd, rfl⟩, hds, by simp⟩

/-- The declaration that counts for an action is that of the last clause that names it. -/
theorem declaration?_append (ds es : List (AuditDeclaration μ)) (a : Action) :
    declaration? ⟨ds ++ es⟩ a = (declaration? ⟨es⟩ a).or (declaration? ⟨ds⟩ a) := by
  simp only [declaration?, List.filter_append, List.getLast?_append]

/-- Declarations that are made for some actions count for these, however often an action occurs. -/
theorem declaration?_map {f : Action → AuditDeclaration μ} (hf : ∀ a, (f a).action = a)
    (as : List Action) (a : Action) (d : AuditDeclaration μ) :
    declaration? ⟨as.map f⟩ a = some d ↔ a ∈ as ∧ d = f a := by
  have hfilter : (as.map f).filter (fun d => d.action = a) = (as.filter fun b => b = a).map f := by
    simp only [List.filter_map, Function.comp_def, hf]
  rw [declaration?, hfilter, List.filter_eq, List.map_replicate, List.getLast?_replicate,
    ← List.count_pos_iff]
  split
  · rename_i hzero
    simp [hzero]
  · rename_i hne
    simp [Nat.pos_of_ne_zero hne, eq_comm]

/-- A clause counts for the actions that it names, however often it names them. -/
theorem declaration?_clause (template : Action → String → μ) (c : AuditClause) (a : Action)
    (d : AuditDeclaration μ) :
    declaration? ⟨c.declarations template⟩ a = some d ↔
      c.Names a ∧ d = c.declaration template a := by
  rw [AuditClause.declarations, declaration?_map (f := c.declaration template) fun _ => rfl]
  simp only [List.mem_filterMap, Action.parse?_eq_some_iff, AuditClause.Names]

theorem declaration?_flatMap (template : Action → String → μ) (cs : List AuditClause)
    (a : Action) :
    declaration? ⟨cs.flatMap (AuditClause.declarations template)⟩ a
      = (cs.filterMap fun c => declaration? ⟨c.declarations template⟩ a).getLast? := by
  induction cs with
  | nil => rfl
  | cons c cs ih =>
      rw [List.flatMap_cons, declaration?_append, ih]
      cases h : declaration? ⟨c.declarations template⟩ a with
      | none => simp [h]
      | some d => simp [h, List.getLast?_cons, Option.or_some]

/-- The declaration that counts for an action is that of the last clause that names it. -/
theorem declaration?_declared (template : Action → String → μ) (cs : List AuditClause) (a : Action)
    (d : AuditDeclaration μ) :
    declaration? ⟨cs.flatMap (AuditClause.declarations template)⟩ a = some d ↔
      ∃ c, IsLast (fun c => c.Names a) cs c ∧ d = c.declaration template a := by
  rw [declaration?_flatMap, getLast?_filterMap_eq_some_iff]
  refine exists_congr fun c => ?_
  rw [isLast_congr (Q := fun c => c.Names a), declaration?_clause]
  · refine and_congr_right fun hlast => and_iff_right ?_
    obtain ⟨_, _, _, hnames, _⟩ := hlast
    exact hnames
  · intro c _
    rw [Option.ne_none_iff_exists']
    simp [declaration?_clause]

end AuditBook

/-! ## Registering lists -/

namespace Registry

variable {π μ : Type} {predicates : SortedMap String π}
  {register : Policy π μ → List RuleToken → π → Noted DeclarationError (Policy π μ)}
  {Allowed : RuleSpec → Prop}

/-- Registering adds the rules of a specification to the book if it is allowed, and does nothing
besides. -/
def Registers (register : Policy π μ → List RuleToken → π → Noted DeclarationError (Policy π μ))
    (Allowed : RuleSpec → Prop) : Prop :=
  ∀ p tokens q p', (register p tokens q).result = .ok p' ↔
    ∃ s, RuleSpec.ofTokens p.rules.schema tokens = .ok s ∧ Allowed s ∧
      p' = { p with rules := p.rules.add s q }

theorem registers_grant :
    Registers (Policy.grant : Policy π μ → _) RuleSpec.Unfiltered := by
  intro p tokens q p'
  simp only [Policy.grant, Noted.bind_ok, Noted.result_ofExcept, Noted.result_pure,
    RuleBook.register_ok]
  refine exists_congr fun s => and_congr_right fun _ => ?_
  constructor
  · rintro ⟨_, ⟨hs, rfl⟩, hp⟩
    exact ⟨hs, (Except.ok.inj hp).symm⟩
  · rintro ⟨hs, rfl⟩
    exact ⟨_, ⟨hs, rfl⟩, rfl⟩

theorem registers_grantAttributes :
    Registers (Policy.grantAttributes : Policy π μ → _) RuleSpec.OnlyAttributes := by
  intro p tokens q p'
  simp only [Policy.grantAttributes, Noted.bind_ok, Noted.result_ofExcept, Noted.result_pure,
    RuleBook.registerAttributes_ok]
  refine exists_congr fun s => and_congr_right fun _ => ?_
  constructor
  · rintro ⟨_, ⟨hs, rfl⟩, hp⟩
    exact ⟨hs, (Except.ok.inj hp).symm⟩
  · rintro ⟨hs, rfl⟩
    exact ⟨_, ⟨hs, rfl⟩, rfl⟩

theorem resolve_ok {type name : String} {q : π} :
    (resolve predicates type name).result = .ok q ↔ predicates.get? name = some q := by
  unfold resolve
  cases predicates.get? name with
  | none => simp
  | some p => simp

/-- Grants are registered if all of them are accepted. -/
theorem registerGrants_ok (h : Registers register Allowed) {gs : List GrantDeclaration}
    {p p' : Policy π μ} :
    (registerGrants predicates register gs p).result = .ok p' ↔
      (∀ g ∈ gs, g.Accepted predicates p.rules.schema Allowed) ∧
        p' = { p with rules := gs.foldl (RuleBook.declare predicates) p.rules } := by
  induction gs generalizing p with
  | nil => simp [registerGrants, eq_comm]
  | cons g gs ih =>
      simp only [registerGrants, Noted.bind_ok, resolve_ok, h _ _ _ _, ih, List.forall_mem_cons,
        List.foldl_cons]
      constructor
      · rintro ⟨q, hq, _, ⟨s, hs, hallowed, rfl⟩, hrest, rfl⟩
        rw [RuleBook.declare_of_accepted hs hq]
        exact ⟨⟨⟨s, q, hs, hq, hallowed⟩, hrest⟩, rfl⟩
      · rintro ⟨⟨⟨s, q, hs, hq, hallowed⟩, hrest⟩, rfl⟩
        rw [RuleBook.declare_of_accepted hs hq]
        exact ⟨q, hq, _, ⟨s, hs, hallowed, rfl⟩, hrest, rfl⟩

/-- Audit clauses are registered if all of them are valid. -/
theorem registerClauses_ok {template : Action → String → μ} {cs : List AuditClause}
    {p p' : Policy π μ} :
    (registerClauses template cs p).result = .ok p' ↔
      (∀ c ∈ cs, c.Valid) ∧ p' = { p with
        audits := ⟨p.audits.declarations ++ cs.flatMap (AuditClause.declarations template)⟩ } := by
  induction cs generalizing p with
  | nil => simp [registerClauses, eq_comm]
  | cons c cs ih =>
      have hfilter : c.Valid → ∀ d ∈ c.declarations template, d.filter.validate = .ok () := by
        intro hvalid d hd
        obtain ⟨a, -, rfl⟩ := List.mem_map.mp hd
        exact hvalid.filter
      simp only [registerClauses, Noted.bind_ok, Noted.result_ofExcept,
        AuditClause.clauseDeclarations_ok, AuditBook.registerAll_ok, ih, List.forall_mem_cons]
      constructor
      · rintro ⟨_, ⟨hvalid, rfl⟩, _, ⟨-, rfl⟩, hrest, rfl⟩
        exact ⟨⟨hvalid, hrest⟩, by simp⟩
      · rintro ⟨⟨hvalid, hrest⟩, rfl⟩
        exact ⟨_, ⟨hvalid, rfl⟩, _, ⟨hfilter hvalid, rfl⟩, hrest, by simp⟩

/-! ## Building -/

/-- Every item of a declaration is accepted. -/
structure Accepts (predicates : SortedMap String π) (d : EntityDeclaration) : Prop where
  grants : ∀ g ∈ d.grants, g.Accepted predicates d.schema RuleSpec.Unfiltered
  attributeGrants : ∀ g ∈ d.attributeGrants,
    g.Accepted predicates d.schema RuleSpec.OnlyAttributes
  audits : ∀ c ∈ d.audits, c.Valid

variable (predicates) in
/-- There is nothing to refuse where nothing is declared. -/
theorem accepts_empty : Accepts predicates .empty :=
  ⟨fun _ h => (List.not_mem_nil h).elim, fun _ h => (List.not_mem_nil h).elim,
    fun _ h => (List.not_mem_nil h).elim⟩

/-- The declaration of an entity type; one that is not declared declares nothing. -/
def declarationOf (r : Registry) (type : String) : EntityDeclaration :=
  (r.declarations.entity? type).getD .empty

/-- The policy that a declaration comes down to. -/
def policyOf (r : Registry) (type : String) (predicates : SortedMap String π)
    (template : Action → String → μ) (d : EntityDeclaration) : Policy π μ where
  entityType := type
  rules :=
    { (d.grants ++ d.attributeGrants).foldl (RuleBook.declare predicates) (.blank d.schema) with
      strict := d.attributeSecurity }
  audits := ⟨d.audits.flatMap (AuditClause.declarations template)⟩
  store := r.store
  recording := r.declarations.audit.enabled

theorem secure_if (p : Policy π μ) (asked : Bool) :
    (if asked then p.secureAttributes else p)
      = { p with rules := { p.rules with strict := p.rules.strict || asked } } := by
  cases asked with
  | true => simp [Policy.secureAttributes, RuleBook.secure]
  | false => simp

theorem apply_ok {template : Action → String → μ} {d : EntityDeclaration}
    {p p' : Policy π μ} (hschema : p.rules.schema = d.schema) :
    (Registry.apply predicates template d p).result = .ok p' ↔
      Accepts predicates d ∧ p' = { p with
        rules :=
          { (d.grants ++ d.attributeGrants).foldl (RuleBook.declare predicates) p.rules with
            strict := p.rules.strict || d.attributeSecurity }
        audits :=
          ⟨p.audits.declarations ++ d.audits.flatMap (AuditClause.declarations template)⟩ } := by
  simp only [Registry.apply, Noted.bind_ok, registerGrants_ok registers_grant,
    registerGrants_ok registers_grantAttributes, registerClauses_ok, secure_if, Noted.result_note,
    Noted.result_pure, List.foldl_append, hschema]
  constructor
  · rintro ⟨_, ⟨hgrants, rfl⟩, _, ⟨hattributes, rfl⟩, _, ⟨haudits, rfl⟩, _, -, hp⟩
    rw [RuleBook.schema_declared, hschema] at hattributes
    refine ⟨⟨hgrants, hattributes, haudits⟩, ?_⟩
    rw [← Except.ok.inj hp]
    simp
  · rintro ⟨⟨hgrants, hattributes, haudits⟩, rfl⟩
    refine ⟨_, ⟨hgrants, rfl⟩, _, ⟨?_, rfl⟩, _, ⟨haudits, rfl⟩, (), trivial, ?_⟩
    · rwa [RuleBook.schema_declared, hschema]
    · simp

/-- **Building** gives the policy of the declaration if all of it is accepted, and none
otherwise. -/
theorem build_ok {r : Registry} {type : String} {template : Action → String → μ}
    {p : Policy π μ} :
    (r.build type predicates template).result = .ok p ↔
      Accepts predicates (r.declarationOf type) ∧
        p = r.policyOf type predicates template (r.declarationOf type) := by
  unfold build declarationOf
  cases h : r.declarations.entity? type with
  | none =>
      simp only [Noted.bind_ok, Noted.result_note, Noted.result_pure, Option.getD_none,
        accepts_empty, true_and]
      constructor
      · rintro ⟨_, hp⟩
        exact (Except.ok.inj hp).symm
      · rintro rfl
        exact ⟨(), rfl⟩
  | some d => exact apply_ok rfl

end Registry

end LifecycleGuard
