import LifecycleGuard.Proofs.Policy.Declaring
import LifecycleGuard.Proofs.Symbol
import Mathlib.Data.Finset.Max

/-!
# Audit clauses and audit tokens

What is audited can be declared in two ways: by an `AuditClause` of a declaration, and in code by
tokens.  `AuditClause.token` is the token with the actions and names of a clause.

**Acceptance.**  The clause is accepted if and only if its token is (`accepts_token`), and both
declare the same actions.

**Filters.**  The words for actions are normalized in both.  The names of the filter are stripped in
the token only, so the filter of the token is that of the clause with its names stripped
(`reads_of_token`).  The two filters let the same through if and only if stripping leaves the names
as they are (`apply_bare_iff`): stripping shortens every other name, and so does not map a finite
set with such a name onto itself.
-/

namespace LifecycleGuard

/-! ## Names that are stripped -/

/-- Names are left as they are if stripping maps them onto themselves. -/
theorem Symbol.bare_eq_self_of_same {names : List String}
    (h : ∀ name, name ∈ names ↔ name ∈ names.map bare) : ∀ name ∈ names, bare name = name := by
  by_contra hsome
  let changed := names.toFinset.filter fun name => bare name ≠ name
  have hnonempty : changed.Nonempty := by
    obtain ⟨name, hmem, hne⟩ : ∃ name ∈ names, bare name ≠ name := by simpa using hsome
    exact ⟨name, by simp [changed, hmem, hne]⟩
  -- The longest of the names that change is what is left of a longer one, which changes as well.
  obtain ⟨name, hname, hlongest⟩ :=
    changed.exists_max_image (fun name => name.toList.length) hnonempty
  obtain ⟨hmem, hne⟩ : name ∈ names ∧ bare name ≠ name := by simpa [changed] using hname
  obtain ⟨longer, hlonger, rfl⟩ := List.mem_map.mp ((h name).mp hmem)
  have hchanged : bare longer ≠ longer := fun heq => hne (by rw [heq, heq])
  have hle := hlongest longer (by simp [changed, hlonger, hchanged])
  have hlt : (bare longer).toList.length < longer.toList.length := by
    obtain hsame | hlt := bareChars_eq_or_length_lt longer.toList
    · exact absurd (String.toList_inj.mp ((toList_bare longer).trans hsame)) hchanged
    · rwa [toList_bare]
  omega

/-! ## What filters let through -/

namespace ChangeFilter

/-- Two filters keep the same of all changes if they let the same names through. -/
theorem apply_eq_iff {f g : ChangeFilter} :
    (∀ changes, f.apply changes = g.apply changes) ↔ ∀ name, f.lets name = g.lets name := by
  constructor
  · intro h name
    let change : AttributeChange := ⟨.null, .null⟩
    have hone (f : ChangeFilter) : (f.apply (SortedMap.empty.insert name change)).get? name =
        some change ↔ f.lets name = true := by
      rw [apply, SortedMap.get?_filterKeys, SortedMap.get?_insert]
      simp
    rw [Bool.eq_iff_iff, ← hone f, ← hone g, h]
  · intro h changes
    rw [apply, apply, funext h]

end ChangeFilter

namespace AuditClause

/-- The names that the filter of a clause lets through. -/
theorem lets_filter_iff {c : AuditClause} {name : String} : c.filter.lets name = true ↔
    name ∉ c.except ∧ (c.only = [] ∨ name ∈ c.only) := by
  simp only [filter, ChangeFilter.lets, SortedSet.mem_ofList, SortedSet.isEmpty_ofList_iff,
    Bool.and_eq_true, Bool.not_eq_true', Bool.or_eq_true, decide_eq_true_eq,
    decide_eq_false_iff_not]

/-- A clause may list what to keep or what to leave out, not both. -/
theorem validate_filter_iff {c : AuditClause} :
    c.filter.validate = .ok () ↔ c.only = [] ∨ c.except = [] := by
  rw [← SortedSet.isEmpty_ofList_iff c.only, ← SortedSet.isEmpty_ofList_iff c.except,
    ChangeFilter.validate, ChangeFilter.conflicting, filter]
  cases (SortedSet.ofList c.only).isEmpty <;> cases (SortedSet.ofList c.except).isEmpty <;> simp

end AuditClause

/-! ## The token of a clause -/

namespace AuditClause

open RuleSpec

variable {schema : Option Schema}

/-- The token with the actions and names of a clause. -/
def token (c : AuditClause) : RuleToken :=
  .mapping (.ofList [("actions", .many c.actions), ("only", .many c.only),
    ("except", .many c.except)])

/-- The clause with its names stripped. -/
def bare (c : AuditClause) : AuditClause :=
  { c with only := c.only.map Symbol.bare, except := c.except.map Symbol.bare }

theorem closes_token {c : AuditClause} {key : String} {n : NameList} :
    Closes [c.token] key n ↔ (key = "actions" ∧ n = .many c.actions) ∨
      (key = "only" ∧ n = .many c.only) ∨ (key = "except" ∧ n = .many c.except) := by
  have hget : ((SortedMap.ofList [("actions", NameList.many c.actions), ("only", .many c.only),
      ("except", .many c.except)]).get? key = some n) ↔ (key = "actions" ∧ n = .many c.actions) ∨
        (key = "only" ∧ n = .many c.only) ∨ (key = "except" ∧ n = .many c.except) := by
    simp only [SortedMap.ofList, List.foldl_cons, List.foldl_nil, SortedMap.get?_insert,
      SortedMap.get?_empty]
    split
    · simp_all [eq_comm]
    · split
      · simp_all [eq_comm]
      · simp_all [eq_comm]
  rw [← hget]
  constructor
  · rintro ⟨members, hmembers, hn⟩
    obtain rfl := RuleToken.mapping.inj (Option.some.inj hmembers)
    exact hn
  · exact fun hn => ⟨_, rfl, hn⟩

theorem written_actions : Key.actions.Written "actions" := by
  unfold Key.Written
  decide

theorem written_only : Key.only.Written "only" := by
  unfold Key.Written
  decide

theorem written_except : Key.except.Written "except" := by
  unfold Key.Written
  decide

/-- What the token of a clause declares. -/
theorem declares_token {c : AuditClause} {i : Item} : Declares schema [c.token] i ↔
    (∃ a, c.Names a ∧ i = .action a) ∨ (∃ name ∈ c.bare.only, i = .only name) ∨
      ∃ name ∈ c.bare.except, i = .except name := by
  constructor
  · intro hi
    cases hi with
    | symbol hmem _ => cases List.mem_singleton.mp hmem
    | member hcloses hw hdeclares =>
        obtain ⟨rfl, rfl⟩ | ⟨rfl, rfl⟩ | ⟨rfl, rfl⟩ := closes_token.mp hcloses
        · obtain rfl := hw.unique written_actions
          cases hdeclares with
          | action hword ha => exact .inl ⟨_, ⟨_, hword, ha⟩, rfl⟩
        · obtain rfl := hw.unique written_only
          cases hdeclares with
          | only hname => exact .inr (.inl ⟨_, List.mem_map_of_mem hname, rfl⟩)
        · obtain rfl := hw.unique written_except
          cases hdeclares with
          | except hname => exact .inr (.inr ⟨_, List.mem_map_of_mem hname, rfl⟩)
  · rintro (⟨a, ⟨word, hword, ha⟩, rfl⟩ | ⟨name, hmem, rfl⟩ | ⟨name, hmem, rfl⟩)
    · exact .member (closes_token.mpr (.inl ⟨rfl, rfl⟩)) written_actions (.action hword ha)
    · obtain ⟨name, hname, rfl⟩ := List.mem_map.mp hmem
      exact .member (closes_token.mpr (.inr (.inl ⟨rfl, rfl⟩))) written_only (.only hname)
    · obtain ⟨name, hname, rfl⟩ := List.mem_map.mp hmem
      exact .member (closes_token.mpr (.inr (.inr ⟨rfl, rfl⟩))) written_except (.except hname)

/-- The token of a clause is accepted if and only if the clause is. -/
theorem wellFormed_token (schema : Option Schema) (c : AuditClause) :
    WellFormed schema [c.token] ↔ c.Valid := by
  constructor
  · intro h
    refine ⟨?_, ?_, ?_⟩
    · obtain ⟨a, ha⟩ | ⟨name, hname⟩ | ⟨k, name, hname⟩ := h.something
      · obtain ⟨_, ⟨word, hword, -⟩, -⟩ : ∃ b, c.Names b ∧ Item.action a = .action b := by
          simpa using declares_token.mp ha
        exact List.ne_nil_of_mem hword
      · simp [declares_token] at hname
      · simp [declares_token] at hname
    · exact h.actions _ _ (closes_token.mpr (.inl ⟨rfl, rfl⟩)) written_actions
    · rw [validate_filter_iff]
      by_contra hboth
      obtain ⟨honly, hexcept⟩ := not_or.mp hboth
      obtain ⟨only, honly⟩ := List.exists_mem_of_ne_nil _ honly
      obtain ⟨except, hexcept⟩ := List.exists_mem_of_ne_nil _ hexcept
      exact h.filter
        ⟨⟨_, declares_token.mpr (.inr (.inl ⟨_, List.mem_map_of_mem honly, rfl⟩))⟩,
          ⟨_, declares_token.mpr (.inr (.inr ⟨_, List.mem_map_of_mem hexcept, rfl⟩))⟩⟩
  · intro h
    refine ⟨fun _ hmem => absurd hmem (by simp), ?_, ?_, ?_, ?_, ?_⟩
    · intro key n hcloses hkey
      obtain ⟨rfl, rfl⟩ | ⟨rfl, rfl⟩ | ⟨rfl, rfl⟩ := closes_token.mp hcloses
      · exact h.actions
      · cases hkey.unique written_only
      · cases hkey.unique written_except
    · intro key n hcloses
      obtain ⟨rfl, rfl⟩ | ⟨rfl, rfl⟩ | ⟨rfl, rfl⟩ := closes_token.mp hcloses
      · exact ⟨_, written_actions⟩
      · exact ⟨_, written_only⟩
      · exact ⟨_, written_except⟩
    · obtain ⟨word, hword⟩ := List.exists_mem_of_ne_nil _ h.nonempty
      obtain ⟨a, ha⟩ := h.actions word hword
      exact .inl ⟨a, declares_token.mpr (.inl ⟨a, ⟨word, hword, ha⟩, rfl⟩)⟩
    · rintro ⟨⟨only, honly⟩, except, hexcept⟩
      have honly : only ∈ c.bare.only := by simpa using declares_token.mp honly
      have hexcept : except ∈ c.bare.except := by simpa using declares_token.mp hexcept
      obtain hnone | hnone := validate_filter_iff.mp h.filter
      · simp [bare, hnone] at honly
      · simp [bare, hnone] at hexcept
    · intro s _ name hname
      simp [declares_token] at hname

theorem accepts_token {c : AuditClause} : (∃ s, ofTokens schema [c.token] = .ok s) ↔ c.Valid := by
  rw [← wellFormed_token schema]
  constructor
  · rintro ⟨s, hs⟩
    exact (ofTokens_ok hs).1
  · intro hwell
    cases h : ofTokens schema [c.token] with
    | ok s => exact ⟨s, rfl⟩
    | error e => exact absurd (ofTokens_error h) (hwell.no_fault e)

/-- What the token of a clause comes down to. -/
structure Reads (c : AuditClause) (s : RuleSpec) : Prop where
  actions : ∀ a, SortedSet.mem s.actions a = true ↔ c.Names a
  filter : s.filter = c.bare.filter
  onlyActions : s.OnlyActions

/-- The filter of the token is that of the clause with its names stripped. -/
theorem reads_of_token {c : AuditClause} {s : RuleSpec}
    (h : ofTokens schema [c.token] = .ok s) : c.Reads s := by
  obtain ⟨hwell, hholds⟩ := ofTokens_ok h
  have hvalid := (wellFormed_token schema c).mp hwell
  have hactions (a : Action) : SortedSet.mem s.actions a = true ↔ c.Names a :=
    (hholds (.action a)).trans (by simp [declares_token])
  have hfilter : s.filter = c.bare.filter := by
    have honly : s.filter.only = .ofList c.bare.only := SortedSet.eq_ofList fun name =>
      (hholds (.only name)).trans (by simp [declares_token])
    have hexcept : s.filter.except = .ofList c.bare.except := SortedSet.eq_ofList fun name =>
      (hholds (.except name)).trans (by simp [declares_token])
    rw [filter, ← honly, ← hexcept]
  refine ⟨hactions, hfilter, ?_, ?_, ?_, ?_⟩
  · rw [← Bool.not_eq_false, SortedSet.isEmpty_eq_false_iff]
    rintro ⟨name, hname⟩
    simpa [declares_token] using (hholds (.attr name)).mp hname
  · rw [← Bool.not_eq_true, namesRelation_iff]
    rintro ⟨k, name, hname⟩
    simpa [declares_token] using (hholds _).mp hname
  · obtain ⟨word, hword⟩ := List.exists_mem_of_ne_nil _ hvalid.nonempty
    obtain ⟨a, ha⟩ := hvalid.actions word hword
    exact (SortedSet.isEmpty_eq_false_iff _).mpr ⟨a, (hactions a).mpr ⟨word, hword, ha⟩⟩
  · rw [hfilter, validate_filter_iff]
    exact (validate_filter_iff.mp hvalid.filter).imp (by simp [bare]) (by simp [bare])

/-- Stripping the names changes nothing if and only if there is nothing to strip. -/
theorem apply_bare_iff {c : AuditClause} (h : c.Valid) :
    (∀ changes, c.filter.apply changes = c.bare.filter.apply changes) ↔
      ∀ name ∈ c.only ++ c.except, Symbol.bare name = name := by
  rw [ChangeFilter.apply_eq_iff]
  constructor
  · intro hsame
    have hlets (name : String) := Bool.eq_iff_iff.mp (hsame name)
    simp only [lets_filter_iff] at hlets
    obtain hnone | hnone := validate_filter_iff.mp h.filter
    · have hsame (name : String) : name ∈ c.except ↔ name ∈ c.except.map Symbol.bare := by
        simpa [bare, hnone] using not_congr (hlets name)
      simpa [hnone] using Symbol.bare_eq_self_of_same hsame
    · by_cases hempty : c.only = []
      · simp [hnone, hempty]
      · have hsame (name : String) : name ∈ c.only ↔ name ∈ c.only.map Symbol.bare := by
          simpa [bare, hnone, hempty] using hlets name
        simpa [hnone] using Symbol.bare_eq_self_of_same hsame
  · intro hbare name
    have hnames (names : List String) (hsub : ∀ name ∈ names, name ∈ c.only ++ c.except) :
        names.map Symbol.bare = names :=
      (List.map_congr_left fun name hname => hbare name (hsub name hname)).trans (List.map_id _)
    have hsame : c.bare = c := by
      rw [bare, hnames c.only fun _ h => List.mem_append_left _ h,
        hnames c.except fun _ h => List.mem_append_right _ h]
    rw [hsame]

end AuditClause

/-! ## Declaring both ways -/

namespace Registry

variable {π μ : Type} {predicates : SortedMap String π} {template : Action → String → μ}
  {p p' : Policy π μ}

/-- A declaration of one clause and nothing else. -/
def clauseOnly (attributes : Option (List String)) (c : AuditClause) : EntityDeclaration :=
  { EntityDeclaration.empty with attributes, audits := [c] }

theorem apply_clauseOnly_ok {attributes : Option (List String)} {c : AuditClause} :
    (apply predicates template (clauseOnly attributes c) p).result = .ok p' ↔
      c.Valid ∧ p' = { p with
        audits := ⟨p.audits.declarations ++ c.declarations template⟩ } := by
  simp only [apply, clauseOnly, EntityDeclaration.empty, registerGrants, Noted.bind_ok,
    registerClauses_ok, Noted.result_note, Noted.result_pure]
  constructor
  · rintro ⟨_, hp₁, _, hp₂, _, ⟨hvalid, rfl⟩, _, -, hp⟩
    obtain rfl := Except.ok.inj hp₁
    obtain rfl := Except.ok.inj hp₂
    exact ⟨hvalid c (List.mem_singleton_self c), by simpa using (Except.ok.inj hp).symm⟩
  · rintro ⟨hvalid, rfl⟩
    exact ⟨p, rfl, p, rfl, _, ⟨by simpa using hvalid, rfl⟩, (), trivial, by simp⟩

end Registry

section

variable {π μ : Type} {p p' : Policy π μ} {c : AuditClause}

theorem Policy.auditOn_token_ok {message : Option μ} :
    (p.auditOn [c.token] message).result = .ok p' ↔
    ∃ s, RuleSpec.ofTokens p.rules.schema [c.token] = .ok s ∧ p' = { p with audits :=
      ⟨p.audits.declarations ++ s.actions.toList.map fun a => ⟨a, s.filter, message⟩⟩ } := by
  refine (Declaration.whole_ok (d := .auditOn [c.token] message)).trans (exists_congr fun s => ?_)
  refine and_congr_right fun hs => and_iff_right (AuditClause.reads_of_token hs).onlyActions

/-- What the token of a clause declares for an action. -/
theorem AuditClause.Reads.declaration? {s : RuleSpec} (h : c.Reads s) (message : Option μ)
    (a : Action) (d : AuditDeclaration μ) :
    AuditBook.declaration? ⟨s.actions.toList.map fun a => ⟨a, s.filter, message⟩⟩ a = some d ↔
      c.Names a ∧ d = ⟨a, c.bare.filter, message⟩ := by
  rw [AuditBook.declaration?_map fun _ => rfl, SortedSet.mem_toList_iff, h.actions, h.filter]

/-- What counts in a book for an action when more is declared. -/
theorem AuditBook.declaration?_of_append (ds : List (AuditDeclaration μ))
    {es : List (AuditDeclaration μ)} {a : Action}
    {P : Prop} {d : AuditDeclaration μ}
    (h : ∀ d', declaration? ⟨es⟩ a = some d' ↔ P ∧ d' = d) :
    (P → declaration? ⟨ds ++ es⟩ a = some d) ∧
      (¬ P → declaration? ⟨ds ++ es⟩ a = declaration? ⟨ds⟩ a) := by
  rw [declaration?_append]
  constructor
  · intro hP
    rw [(h d).mpr ⟨hP, rfl⟩, Option.some_or]
  · intro hP
    have hnone : declaration? ⟨es⟩ a = none :=
      Option.eq_none_iff_forall_ne_some.mpr fun d' hd' => hP ((h d').mp hd').1
    rw [hnone, Option.none_or]

end

namespace Registry

variable {π μ : Type}

/-- **A clause and its token.**  Either both are accepted or neither.  If they are, the same actions
are declared after the one as after the other, the actions that they name with a filter each, the
others as they were.  The filter of the clause has the names as they are written and that of the
token has them stripped, and the two keep the same of all changes if and only if stripping leaves
every name as it is. -/
theorem clause_and_token (p : Policy π μ) (predicates : SortedMap String π)
    (template : Action → String → μ) (attributes : Option (List String)) (c : AuditClause)
    (message : Option μ) :
    ((∃ p', (apply predicates template (clauseOnly attributes c) p).result = .ok p') ↔
        ∃ p', (p.auditOn [c.token] message).result = .ok p') ∧
      ∀ p' p'', (apply predicates template (clauseOnly attributes c) p).result = .ok p' →
        (p.auditOn [c.token] message).result = .ok p'' →
        (∀ a, p'.audits.declares a = p''.audits.declares a) ∧
        (∀ a, ¬ c.Names a → p'.audits.declaration? a = p.audits.declaration? a ∧
          p''.audits.declaration? a = p.audits.declaration? a) ∧
        ∀ a, c.Names a → ∃ d d', p'.audits.declaration? a = some d ∧
          p''.audits.declaration? a = some d' ∧
          d.filter = c.filter ∧ d'.filter = c.bare.filter ∧
          ((∀ changes, d.filter.apply changes = d'.filter.apply changes) ↔
            ∀ name ∈ c.only ++ c.except, Symbol.bare name = name) := by
  refine ⟨?_, fun p' p'' hp' hp'' => ?_⟩
  · simp only [apply_clauseOnly_ok, Policy.auditOn_token_ok]
    constructor
    · rintro ⟨_, hvalid, -⟩
      obtain ⟨s, hs⟩ := AuditClause.accepts_token.mpr hvalid
      exact ⟨_, s, hs, rfl⟩
    · rintro ⟨_, s, hs, -⟩
      exact ⟨_, AuditClause.accepts_token.mp ⟨s, hs⟩, rfl⟩
  · obtain ⟨hvalid, rfl⟩ := apply_clauseOnly_ok.mp hp'
    obtain ⟨s, hs, rfl⟩ := Policy.auditOn_token_ok.mp hp''
    have hreads := AuditClause.reads_of_token hs
    have hclause (a : Action) := AuditBook.declaration?_of_append p.audits.declarations
      (AuditBook.declaration?_clause template c a)
    have htoken (a : Action) := AuditBook.declaration?_of_append p.audits.declarations
      (hreads.declaration? message a)
    refine ⟨fun a => ?_, fun a hnot => ⟨(hclause a).2 hnot, (htoken a).2 hnot⟩, fun a hnames => ?_⟩
    · by_cases hnames : c.Names a
      · rw [AuditBook.declares, AuditBook.declares, (hclause a).1 hnames, (htoken a).1 hnames]
        rfl
      · rw [AuditBook.declares, AuditBook.declares, (hclause a).2 hnames, (htoken a).2 hnames]
    · exact ⟨_, _, (hclause a).1 hnames, (htoken a).1 hnames, rfl, rfl,
        AuditClause.apply_bare_iff hvalid⟩

/-- The filter with which updates are audited. -/
def updateFilter (x : Noted DeclarationError (Policy Unit Unit)) : Option ChangeFilter :=
  match x.result with
  | .ok p => (p.audits.declaration? .update).map (·.filter)
  | .error _ => none

/-- A clause that leaves out an attribute, whose name has a colon. -/
def exceptSsn : AuditClause := ⟨["update"], [], [":ssn"], none⟩

/-- A change of the attribute. -/
def ssnChange : ChangeSet := .ofList [("ssn", ⟨.string "1", .string "2"⟩)]

/-- **A change that the token leaves out the clause lets through.** -/
theorem clause_and_token_colon :
    updateFilter (apply .empty (fun _ _ => ()) (clauseOnly none exceptSsn)
        (.blank "note" none .null)) = some ⟨.empty, .ofList [":ssn"]⟩ ∧
      updateFilter ((Policy.blank "note" none .null).auditOn [exceptSsn.token] none) =
        some ⟨.empty, .ofList ["ssn"]⟩ ∧
      ChangeFilter.apply ⟨.empty, .ofList [":ssn"]⟩ ssnChange = ssnChange ∧
      ChangeFilter.apply ⟨.empty, .ofList ["ssn"]⟩ ssnChange = .empty := by
  decide +kernel

end Registry

end LifecycleGuard
