import LifecycleGuard.Declaration.Spec
import LifecycleGuard.Proofs.Json.Lossless
import LifecycleGuard.Registry

/-!
# Declarations read back

A document of declarations is a record of records, with lists and maps between them, eight
containers deep.  What is written for it is read as the same document, whatever names are in it.

* **Shapes.**  Tokens have no tag: a symbol is a text and a mapping an object, a single name is a
  text and a list of names an array.  The shapes differ, so that what was written is recognized
  (`NameList.ofContent?_toJson`, `RuleToken.ofContent?_toJson`).
* **Places.**  What may be missing is left out, and what is left out is read as missing: an entity
  type without attribute names has no such member, and one with an empty list has an empty array.
  A list that is left out because it is empty is read as empty, and a path that is not there is
  written as null.
* **Keys.**  Entity types are their own keys, and association actions are written by their names, so
  one that is there without a relation stays there.

Each type has a lemma `readsAs`, from tokens up to documents and rule specifications.
-/

namespace LifecycleGuard

open Json (ReadsAs Fills)

/-! ## Tokens -/

namespace NameList

theorem mapM_text? (names : List String) :
    (Content.ofItems (names.map .string)).mapM text? = some names := by
  induction names with
  | nil => rfl
  | cons name names ih =>
    rw [List.map_cons, Content.ofItems, List.mapM_cons, ih]
    rfl

theorem ofContent?_toJson (n : NameList) : ofContent? (Content.ofJson n.toJson) = some n := by
  cases n with
  | one name => rfl
  | many names =>
    rw [toJson, Content.ofJson, ofContent?, mapM_text?]
    rfl

theorem readsAs (n : NameList) : ReadsAs NameList.read n.toJson n 1 := by
  have htexts : ∀ names : List String,
      ReadsAs (Decoding.readList Source.text) (.array (names.map .string)) names 1 :=
    fun names => ReadsAs.list fun name _ => ReadsAs.text name
  refine ReadsAs.content ?_ ?_ ?_
  · cases n with
    | one name => rfl
    | many names => exact (htexts names).exact
  · cases n with
    | one name => exact Nat.zero_le 1
    | many names => exact (htexts names).depth
  · simp only [ofContent?_toJson]
    rfl

end NameList

namespace RuleToken

theorem mapM_member? (members : List (String × NameList)) :
    (Content.ofMembers (members.map fun m => (m.1, m.2.toJson))).mapM member? = some members := by
  induction members with
  | nil => rfl
  | cons m members ih =>
    rw [List.map_cons, Content.ofMembers, List.mapM_cons, ih, member?, NameList.ofContent?_toJson]
    rfl

theorem ofContent?_toJson (t : RuleToken) : ofContent? (Content.ofJson t.toJson) = some t := by
  cases t with
  | symbol name => rfl
  | mapping members =>
    rw [toJson, Content.ofJson, ofContent?, mapM_member?]
    exact congrArg (some ∘ mapping) (SortedMap.ofList_entries members)

theorem readsAs (t : RuleToken) : ReadsAs RuleToken.read t.toJson t 2 := by
  refine ReadsAs.content ?_ ?_ ?_
  · cases t with
    | symbol name => rfl
    | mapping members =>
      exact Json.membersExact_iff.mpr (List.forall_mem_map.mpr fun m _ => m.2.readsAs.exact)
  · cases t with
    | symbol name => exact Nat.zero_le 2
    | mapping members =>
      exact Nat.succ_le_succ
        (Json.membersDepth_le_iff.mpr (List.forall_mem_map.mpr fun m _ => m.2.readsAs.depth))
  · simp only [ofContent?_toJson]
    rfl

theorem readsAs_list (tokens : List RuleToken) :
    ReadsAs RuleToken.readList (listJson tokens) tokens 3 :=
  ReadsAs.list fun t _ => t.readsAs

end RuleToken

/-! ## Entity types -/

theorem GrantDeclaration.readsAs (g : GrantDeclaration) :
    ReadsAs GrantDeclaration.read g.toJson g 4 := by
  have hwhen := (ReadsAs.text g.predicate).mono (by decide : 0 ≤ 3)
  have hfills : Fills GrantDeclaration.step 3 (none, none)
      [("rule", RuleToken.listJson g.rule), ("when", .string g.predicate)]
      (some g.rule, some g.predicate) :=
    .field (fun rule => (rule, none)) (RuleToken.readsAs_list g.rule) (fun _ => rfl) <|
    .field (fun predicate => (some g.rule, predicate)) hwhen (fun _ => rfl) <| .nil _
  exact ReadsAs.record hfills rfl

namespace AuditClause

theorem readsAs_texts (names : List String) : ReadsAs readTexts (Json.texts names) names 1 :=
  ReadsAs.list fun name _ => ReadsAs.text name

theorem readsAs (c : AuditClause) : ReadsAs AuditClause.read c.toJson c 2 := by
  have hactions : Fills Draft.step 1 ⟨none, none, none, none⟩ [("actions", Json.texts c.actions)]
      ⟨some c.actions, none, none, none⟩ :=
    .field (fun actions => Draft.mk actions none none none) (readsAs_texts c.actions) (fun _ => rfl)
      (.nil _)
  have honly := hactions.append (.omittable c.only.isEmpty "only"
    (fun only => Draft.mk (some c.actions) only none none) (readsAs_texts c.only) fun _ => rfl)
  have hexcept := honly.append (.omittable c.except.isEmpty "except"
    (fun except => Draft.mk (some c.actions) _ except none) (readsAs_texts c.except) fun _ => rfl)
  have htemplate := hexcept.append (.optional c.template "message"
    (fun template => Draft.mk (some c.actions) _ _ template)
    (fun t => ⟨by simp, (ReadsAs.text t).mono (by decide)⟩) fun _ => rfl)
  obtain ⟨actions, only, except, template⟩ := c
  cases template <;> cases only <;> cases except <;> exact ReadsAs.record htemplate rfl

end AuditClause

namespace EntityDeclaration

theorem readsAs_grants (grants : List GrantDeclaration) :
    ReadsAs readGrants (.array (grants.map GrantDeclaration.toJson)) grants 5 :=
  ReadsAs.list fun g _ => g.readsAs

theorem readsAs (d : EntityDeclaration) : ReadsAs EntityDeclaration.read d.toJson d 6 := by
  have hsecurity := (ReadsAs.flag d.attributeSecurity).mono (by decide : 0 ≤ 5)
  have haudits := (ReadsAs.list fun c (_ : c ∈ d.audits) => c.readsAs).mono (by decide : 3 ≤ 5)
  have hattributes : Fills Draft.step 5 ⟨none, none, none, none, none⟩ _ _ :=
    .optional d.attributes "attributes"
      (fun attributes => Draft.mk attributes none none none none)
      (fun names => ⟨by simp [Json.texts], (AuditClause.readsAs_texts names).mono (by decide)⟩)
      fun _ => rfl
  have hrest : Fills Draft.step 5 ⟨d.attributes.map some, none, none, none, none⟩
      [("grants", .array (d.grants.map GrantDeclaration.toJson)),
        ("attribute_grants", .array (d.attributeGrants.map GrantDeclaration.toJson)),
        ("attribute_security", .bool d.attributeSecurity),
        ("audits", .array (d.audits.map AuditClause.toJson))]
      ⟨d.attributes.map some, some d.grants, some d.attributeGrants, some d.attributeSecurity,
        some d.audits⟩ :=
    .field (fun grants => Draft.mk _ grants none none none) (readsAs_grants d.grants)
      (fun _ => rfl) <|
    .field (fun grants => Draft.mk _ _ grants none none) (readsAs_grants d.attributeGrants)
      (fun _ => rfl) <|
    .field (fun security => Draft.mk _ _ _ security none) hsecurity (fun _ => rfl) <|
    .field (fun audits => Draft.mk _ _ _ _ audits) haudits (fun _ => rfl) <| .nil _
  obtain ⟨attributes, grants, attributeGrants, attributeSecurity, audits⟩ := d
  cases attributes <;> exact ReadsAs.record (hattributes.append hrest) rfl

end EntityDeclaration

/-! ## Documents -/

theorem StoreKind.ofName?_name (k : StoreKind) : ofName? k.name = some k := by
  cases k <;> rfl

theorem StorageSettings.readsAs (s : StorageSettings) :
    ReadsAs StorageSettings.read s.toJson s 1 := by
  have hpath := ReadsAs.nullable (fun p => ⟨by simp, ReadsAs.text p⟩) s.path
  have hfills : Fills StorageSettings.step 0 (none, none)
      [("backend", .string s.kind.name), ("file_path", s.path.elim .null .string)]
      (some s.kind, some s.path) :=
    .field (fun kind => (kind, none)) (ReadsAs.choice (StoreKind.ofName?_name s.kind))
      (fun _ => rfl) <|
    .field (fun path => (some s.kind, path)) hpath (fun _ => rfl) <| .nil _
  obtain ⟨kind, path⟩ := s
  cases path <;> exact ReadsAs.record hfills rfl

theorem AuditSettings.readsAs (a : AuditSettings) : ReadsAs AuditSettings.read a.toJson a 2 := by
  have henabled := (ReadsAs.flag a.enabled).mono (by decide : 0 ≤ 1)
  have hfills : Fills AuditSettings.step 1 (none, none)
      [("enabled", .bool a.enabled), ("storage", a.storage.toJson)]
      (some a.enabled, some a.storage) :=
    .field (fun enabled => (enabled, none)) henabled (fun _ => rfl) <|
    .field (fun storage => (some a.enabled, storage)) a.storage.readsAs (fun _ => rfl) <| .nil _
  exact ReadsAs.record hfills rfl

namespace Declarations

theorem readsAs_entities (entities : SortedMap String EntityDeclaration) :
    ReadsAs readEntities (.object (entities.entries.map fun e => (e.1, e.2.toJson)))
      entities 7 :=
  ReadsAs.sortedMap id ReadsAs.name EntityDeclaration.readsAs entities

theorem readsAs (d : Declarations) : ReadsAs Declarations.read d.toJson d 8 := by
  have haudit := d.audit.readsAs.mono (by decide : 2 ≤ 7)
  have hfills : Fills Declarations.step 7 (none, none)
      [("audit", d.audit.toJson),
        ("entities", .object (d.entities.entries.map fun e => (e.1, e.2.toJson)))]
      (some d.audit, some d.entities) :=
    .field (fun audit => (audit, none)) haudit (fun _ => rfl) <|
    .field (fun entities => (some d.audit, entities)) (readsAs_entities d.entities)
      (fun _ => rfl) <| .nil _
  exact ReadsAs.record hfills rfl

end Declarations

/-! ## Rules -/

theorem Action.ofName?_name (a : Action) : ofName? a.name = some a := by cases a <;> rfl

theorem AssociationAction.ofName?_name (a : AssociationAction) : ofName? a.name = some a := by
  cases a <;> rfl

namespace ChangeFilter

theorem readsAs_names (names : SortedSet String) :
    ReadsAs readNames (namesJson names) names 1 :=
  ReadsAs.set ReadsAs.text names

theorem readsAs (f : ChangeFilter) : ReadsAs ChangeFilter.read f.toJson f 2 := by
  have honly : Fills ChangeFilter.step 1 (none, none) _ _ :=
    .omittable f.only.isEmpty "only" (fun only => (only, none)) (readsAs_names f.only) fun _ => rfl
  have hexcept := honly.append (.omittable f.except.isEmpty "except"
    (fun except => Prod.mk _ except) (readsAs_names f.except) fun _ => rfl)
  have hset : ∀ s : SortedSet String,
      (if s.isEmpty then none else some s).getD SortedMap.empty = s := by
    intro s
    cases hempty : s.isEmpty with
    | false => rfl
    | true => exact SortedMap.ext (List.isEmpty_iff.mp hempty).symm
  refine ReadsAs.record hexcept ?_
  show Except.ok (ChangeFilter.mk _ _) = Except.ok f
  rw [hset, hset]

end ChangeFilter

namespace RuleSpec

theorem readsAs_actions (actions : SortedSet Action) :
    ReadsAs readActions (.array (actions.toList.map fun a => .string a.name)) actions 1 :=
  ReadsAs.set (fun a => ReadsAs.choice (Action.ofName?_name a)) actions

theorem readsAs_associations (associations : SortedMap AssociationAction (SortedSet String)) :
    ReadsAs readAssociations (.object (associations.entries.map fun e =>
      (e.1.name, ChangeFilter.namesJson e.2))) associations 2 :=
  ReadsAs.sortedMap AssociationAction.name
    (fun a => ReadsAs.choice (AssociationAction.ofName?_name a)) ChangeFilter.readsAs_names
    associations

theorem readsAs (s : RuleSpec) : ReadsAs RuleSpec.read s.toJson s 3 := by
  have hactions := (readsAs_actions s.actions).mono (by decide : 1 ≤ 2)
  have hattributes := (ChangeFilter.readsAs_names s.attributes).mono (by decide : 1 ≤ 2)
  have hfills : Fills Draft.step 2 ⟨none, none, none, none⟩
      [("actions", .array (s.actions.toList.map fun a => .string a.name)),
        ("attributes", ChangeFilter.namesJson s.attributes),
        ("associations", .object (s.associations.entries.map fun e =>
          (e.1.name, ChangeFilter.namesJson e.2))),
        ("options", s.filter.toJson)]
      ⟨some s.actions, some s.attributes, some s.associations, some s.filter⟩ :=
    .field (fun actions => Draft.mk actions none none none) hactions (fun _ => rfl) <|
    .field (fun attributes => Draft.mk _ attributes none none) hattributes (fun _ => rfl) <|
    .field (fun associations => Draft.mk _ _ associations none)
      (readsAs_associations s.associations) (fun _ => rfl) <|
    .field (fun filter => Draft.mk _ _ _ filter) s.filter.readsAs (fun _ => rfl) <| .nil _
  exact ReadsAs.record hfills rfl

end RuleSpec

/-! ## Copies -/

/-- What the rules and clauses of an entity type are parsed to. -/
def EntityDeclaration.parsed (d : EntityDeclaration) :
    List (Except DeclarationError RuleSpec) ×
      List (Except DeclarationError (List Action × ChangeFilter)) :=
  ((d.grants ++ d.attributeGrants).map d.parseRule, d.audits.map AuditClause.parse)

/-- **Declarations survive being written.**  A document is read back from its text and from the
value of that text, documents that differ are written differently, and a copy that was read is
refused and parsed, opened and built like the document.  The same holds for the text of a rule
specification. -/
theorem Declarations.survive (d : Declarations) (s : RuleSpec) :
    (Json.decode Declarations.read d.toJson.render = .ok d ∧
      Json.convert Declarations.read d.toJson = .ok d ∧
      (∀ d' : Declarations, d.toJson.render = d'.toJson.render → d = d') ∧
      ∀ copy, Json.decode Declarations.read d.toJson.render = .ok copy →
        copy.validate = d.validate ∧
        (∀ type, (copy.entity? type).map EntityDeclaration.parsed =
          (d.entity? type).map EntityDeclaration.parsed) ∧
        Registry.ofDeclarations copy = Registry.ofDeclarations d ∧
        ∀ (π μ : Type) (store : Store) (type : String) (predicates : SortedMap String π)
          (template : Action → String → μ),
          (Registry.mk copy store).build type predicates template =
            (Registry.mk d store).build type predicates template) ∧
    Json.decode RuleSpec.read s.toJson.render = .ok s ∧
    Json.convert RuleSpec.read s.toJson = .ok s ∧
    ∀ s' : RuleSpec, s.toJson.render = s'.toJson.render → s = s' := by
  have hd (d : Declarations) := d.readsAs.mono (by decide : 8 ≤ Json.nestingLimit)
  have hs (s : RuleSpec) := s.readsAs.mono (by decide : 3 ≤ Json.nestingLimit)
  refine ⟨⟨(hd d).decode_render, (hd d).convert, fun d' => (hd d).eq_of_render (hd d'),
    fun copy hcopy => ?_⟩, (hs s).decode_render, (hs s).convert,
    fun s' => (hs s).eq_of_render (hs s')⟩
  obtain rfl : d = copy := Except.ok.inj ((hd d).decode_render.symm.trans hcopy)
  exact ⟨rfl, fun _ => rfl, rfl, fun _ _ _ _ _ _ => rfl⟩

end LifecycleGuard
