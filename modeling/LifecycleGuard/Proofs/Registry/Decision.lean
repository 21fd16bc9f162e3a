import LifecycleGuard.Proofs.Audit.Recorder
import LifecycleGuard.Proofs.Permission.Attributes
import LifecycleGuard.Proofs.Registry.Building

/-!
# Built policies decide as the declarations say

What a declaration says is said here about its items, their predicates and their templates;
nothing is parsed, registered or asked for it.

**Permissions.**  `Permits` needs any grant that names the target, `PermitsAttribute` only the last
one in both lists, and `Secures` says when attributes are checked at all.

**Auditing.**  `Audits` is the clause that counts for an action.

**Following.**  `Evaluator.Follows` and `Recorder.Follows` say what a policy answers that does as a
declaration says, where nothing is bypassed, and `build_decides` that building gives such a policy
or none.
-/

namespace LifecycleGuard

/-! ## What declarations say -/

/-- The predicate of a grant holds for a request. -/
def GrantDeclaration.Holds {π : Type} (predicates : SortedMap String π)
    (answer : π → Request → Bool) (r : Request) (g : GrantDeclaration) : Prop :=
  ∃ q, predicates.get? g.predicate = some q ∧ answer q r = true

namespace EntityDeclaration

variable {π : Type} (d : EntityDeclaration) (predicates : SortedMap String π)
  (answer : π → Request → Bool)

/-- A target is permitted if some grant that names it holds. -/
def Permits (r : Request) (t : RuleTarget) : Prop :=
  ∃ g ∈ d.grants, g.Names d.schema t ∧ g.Holds predicates answer r

/-- Attributes are checked if that is asked for or some attribute is named. -/
def Secures : Prop :=
  d.attributeSecurity = true ∨
    ∃ g ∈ d.grants ++ d.attributeGrants, ∃ name, g.Names d.schema (.attr name)

/-- A change of an attribute is permitted if there is a last grant that names it and it holds. -/
def PermitsAttribute (r : Request) (name : String) : Prop :=
  ∃ g, IsLast (fun g => g.Names d.schema (.attr name)) (d.grants ++ d.attributeGrants) g ∧
    g.Holds predicates answer r

/-- The clause that counts for an action is the last that names it. -/
def Audits (a : Action) (c : AuditClause) : Prop := IsLast (fun c => c.Names a) d.audits c

end EntityDeclaration

/-! ## Following a declaration -/

/-- A check succeeds in one case and is denied in the other. -/
def Settles (x : Except Interrupt (Except Denial Unit)) (denial : Denial) (P : Prop) : Prop :=
  (P → x = .ok (.ok ())) ∧ (¬ P → x = .ok (.error denial))

/-- A check that predicates decide is settled by what they answer. -/
theorem settles_of_decided {π : Type} {judge : π → Request → Run Bool}
    {answer : π → Request → Bool} {type : String} {ps : List π} {req : Request} {denial : Denial}
    {check : (π → Request → Run Bool) → Run (Except Denial Unit)} {w : Work} {P : Prop}
    (hdecided : Evaluator.Decided judge type ps req denial check w)
    (hanswers : Evaluator.Answers judge answer)
    (hasked : ¬ Evaluator.Unasked type req.subject w.context)
    (hP : (∃ q ∈ ps, answer q req = true) ↔ P) : Settles (check judge w).1 denial P := by
  have hiff := hdecided.succeeds_iff_exists (fun q => answer q req) fun q _ w => hanswers q req w
  rw [or_iff_right hasked, hP] at hiff
  refine ⟨hiff.mpr, fun hnot => ?_⟩
  obtain ⟨cs, x, w₁, -, hx, -, -, -, -, hlast, -⟩ := hdecided.asked hasked
  have hanswer : ∃ permitted, x = .ok permitted := by
    rw [hlast]
    cases cs.getLast? with
    | none => exact ⟨false, rfl⟩
    | some c => exact ⟨answer c.predicate c.request, hanswers _ _ _⟩
  obtain ⟨permitted, rfl⟩ := hanswer
  cases permitted with
  | true => exact absurd (hiff.mp hx) hnot
  | false => exact hx

/-- An evaluator does as a declaration says, where it is asked about an entity. -/
structure Evaluator.Follows {π : Type} (e : Evaluator π) (d : EntityDeclaration)
    (predicates : SortedMap String π) (judge : π → Request → Run Bool)
    (answer : π → Request → Bool) (subject : Entity) (w : Work) : Prop where
  action : ∀ a, Settles (e.checkAction judge a subject w).1
    (.action a.name (Actor.describe w.context.actor) subject.describe)
    (d.Permits predicates answer ⟨w.context.actor, subject, none⟩ (.action a))
  association : ∀ k relation associated,
    Settles (e.checkAssociation judge k relation subject associated w).1
      (.association k.name relation associated.describe (Actor.describe w.context.actor)
        subject.describe)
      (d.Permits predicates answer ⟨w.context.actor, subject, some associated⟩
        (.association k relation))
  /-- Where attributes are checked, all that are refused are denied together. -/
  attributes : d.Secures → ∀ a, ∃ denied,
    (∀ name, name ∈ denied ↔ name ∈ subject.changes.keys ∧
      ¬ d.PermitsAttribute predicates answer ⟨w.context.actor, subject, none⟩ name) ∧
    Settles (e.checkAttributes judge a subject w).1
      (.attributes a.name (SortedSet.ofList denied) (Actor.describe w.context.actor)
        subject.describe) (denied = [])
  unsecured : ¬ d.Secures → ∀ a, (e.checkAttributes judge a subject w).1 = .ok (.ok ())
  granted : ∀ a, ∃ b, (e.isGranted judge a subject w).1 = .ok b ∧
    (b = true ↔ d.Permits predicates answer ⟨w.context.actor, subject, none⟩ (.action a))
  attributeGranted : ∀ name, ∃ b, (e.isAttributeGranted judge name subject w).1 = .ok b ∧
    (b = true ↔ (d.Secures →
      d.PermitsAttribute predicates answer ⟨w.context.actor, subject, none⟩ name))

/-- A recorder does as a declaration says, where it is asked about an entity. -/
structure Recorder.Follows {μ : Type} (r : Recorder μ) (d : EntityDeclaration) (enabled : Bool)
    (template : Action → String → μ) (compose : μ → Entity → Option Actor → Run String)
    (text : μ → Entity → Option Actor → String) (subject : Entity) (w : Work) : Prop where
  /-- A mutation that is audited is captured with the filter and the template that count. -/
  captured : ∀ a c, a.isMutation = true → enabled = true → d.Audits a c →
    (r.begin compose a subject w).1 = .ok () ∧
    ∃ id now, (r.begin compose a subject w).2.context.inFlight.get? r.entityType
      = some (.unfinished id now a subject w.context.actor (c.filter.apply subject.changes)
          ((c.template.map (template a)).map fun m => text m subject w.context.actor))
  /-- Another is not captured. -/
  uncaptured : ∀ a, ¬ (enabled = true ∧ ∃ c, d.Audits a c) →
    (r.begin compose a subject w).1 = .ok () ∧
    (r.begin compose a subject w).2.toWorld = w.toWorld
  /-- A find that is audited is persisted with the template that counts, on the media that the
  composing of its message has left. -/
  recorded : ∀ c, enabled = true → d.Audits .find c →
    let m := (Recorder.composed compose (c.template.map (template .find)) subject w.context.actor
      w).2.media
    ∃ id now, ∃ e : AuditEntry, e = .found id now subject w.context.actor
        ((c.template.map (template .find)).map fun m => text m subject w.context.actor) ∧
      (r.record compose subject w).1 = .ok (r.store.receive e m).1 ∧
      (r.record compose subject w).2.media = (r.store.receive e m).2
  /-- Another is not persisted. -/
  unrecorded : ¬ (enabled = true ∧ ∃ c, d.Audits .find c) →
    (r.record compose subject w).1 = .ok (.ok none) ∧
    (r.record compose subject w).2.toWorld = w.toWorld

/-- A policy denies every action and association that is checked and captures nothing, whatever
predicates and message rules mean. -/
structure Policy.Refuses {π μ : Type} (p : Policy π μ) : Prop where
  action : ∀ judge a subject w, ¬ Evaluator.Unasked p.entityType subject w.context →
    (p.evaluator.checkAction judge a subject w).1
      = .ok (.error (.action a.name (Actor.describe w.context.actor) subject.describe))
  association : ∀ judge k relation subject associated w,
    ¬ Evaluator.Unasked p.entityType subject w.context →
    (p.evaluator.checkAssociation judge k relation subject associated w).1
      = .ok (.error (.association k.name relation associated.describe
          (Actor.describe w.context.actor) subject.describe))
  uncaptured : ∀ compose a subject w, (p.recorder.begin compose a subject w).1 = .ok () ∧
    (p.recorder.begin compose a subject w).2.toWorld = w.toWorld
  unrecorded : ∀ compose subject w, (p.recorder.record compose subject w).1 = .ok (.ok none) ∧
    (p.recorder.record compose subject w).2.toWorld = w.toWorld

namespace Registry

variable {π μ : Type} {r : Registry} {type : String} {predicates : SortedMap String π}
  {template : Action → String → μ} {d : EntityDeclaration}

/-! ## Permissions of a built policy -/

section Permissions

variable {judge : π → Request → Run Bool} {answer : π → Request → Bool}

theorem rulesFor_policyOf (t : RuleTarget) :
    (r.policyOf type predicates template d).rules.rulesFor t
      = ((d.grants ++ d.attributeGrants).filterMap
          (RuleBook.granted? predicates d.schema t)).map (Rule.mk t) := by
  show ((d.grants ++ d.attributeGrants).foldl (RuleBook.declare predicates)
    (.blank d.schema)).rulesFor t = _
  rw [RuleBook.rulesFor_declared]
  rfl

/-- Every grant of an accepted declaration names what it registers a predicate for. -/
theorem granted?_iff (h : Accepts predicates d) {g : GrantDeclaration}
    (hg : g ∈ d.grants ++ d.attributeGrants) (t : RuleTarget) (q : π) :
    RuleBook.granted? predicates d.schema t g = some q ↔
      g.Names d.schema t ∧ predicates.get? g.predicate = some q := by
  rcases List.mem_append.mp hg with hg | hg
  · exact RuleBook.granted?_eq_some_iff (h.grants g hg) q
  · exact RuleBook.granted?_eq_some_iff (h.attributeGrants g hg) q

theorem granted?_ne_none (h : Accepts predicates d) {g : GrantDeclaration}
    (hg : g ∈ d.grants ++ d.attributeGrants) (t : RuleTarget) :
    RuleBook.granted? predicates d.schema t g ≠ none ↔ g.Names d.schema t := by
  rcases List.mem_append.mp hg with hg | hg
  · exact RuleBook.granted?_ne_none_iff (h.grants g hg)
  · exact RuleBook.granted?_ne_none_iff (h.attributeGrants g hg)

/-- Grants of attributes name attributes only. -/
theorem mem_grants_of_names (h : Accepts predicates d) {g : GrantDeclaration}
    (hg : g ∈ d.grants ++ d.attributeGrants) {t : RuleTarget} (hnames : g.Names d.schema t)
    (ht : ∀ name, t ≠ .attr name) : g ∈ d.grants := by
  rcases List.mem_append.mp hg with hg | hg
  · exact hg
  · obtain ⟨s, q, hs, -, honly⟩ := h.attributeGrants g hg
    have hholds := ((RuleSpec.ofTokens_ok hs).2 _).mpr hnames
    obtain ⟨name, rfl⟩ := honly.names ((RuleSpec.names_iff_holds s t).mpr hholds)
    exact absurd rfl (ht name)

variable (r type template answer) in
/-- Some rule of a target permits exactly if some grant does. -/
theorem exists_permits_iff (h : Accepts predicates d) (req : Request) {t : RuleTarget}
    (ht : ∀ name, t ≠ .attr name) :
    (∃ q ∈ ((r.policyOf type predicates template d).rules.rulesFor t).map Rule.predicate,
      answer q req = true) ↔ d.Permits predicates answer req t := by
  have hmap : ((r.policyOf type predicates template d).rules.rulesFor t).map Rule.predicate
      = (d.grants ++ d.attributeGrants).filterMap (RuleBook.granted? predicates d.schema t) := by
    rw [rulesFor_policyOf, List.map_map]
    exact List.map_id _
  simp only [hmap, List.mem_filterMap]
  constructor
  · rintro ⟨q, ⟨g, hg, hq⟩, hanswer⟩
    obtain ⟨hnames, hget⟩ := (granted?_iff h hg t q).mp hq
    exact ⟨g, mem_grants_of_names h hg hnames ht, hnames, q, hget, hanswer⟩
  · rintro ⟨g, hg, hnames, q, hget, hanswer⟩
    have hmem : g ∈ d.grants ++ d.attributeGrants := List.mem_append_left _ hg
    exact ⟨q, ⟨g, hmem, (granted?_iff h hmem t q).mpr ⟨hnames, hget⟩⟩, hanswer⟩

variable (r type template) in
/-- Attributes are secured exactly if the declaration says so. -/
theorem securesAttributes_policyOf (h : Accepts predicates d) :
    (r.policyOf type predicates template d).rules.securesAttributes = true ↔ d.Secures := by
  rw [RuleBook.securesAttributes_iff]
  refine or_congr Iff.rfl ?_
  simp only [rulesFor_policyOf, ne_eq, List.map_eq_nil_iff, List.filterMap_eq_nil_iff, not_forall]
  constructor
  · rintro ⟨name, g, hg, hne⟩
    exact ⟨g, hg, name, (granted?_ne_none h hg _).mp hne⟩
  · rintro ⟨g, hg, name, hnames⟩
    exact ⟨name, g, hg, (granted?_ne_none h hg _).mpr hnames⟩

variable (r type template answer) in
/-- The rule for an attribute permits exactly if the last grant that names it does. -/
theorem attributeAnswer_iff (h : Accepts predicates d) (req : Request) (name : String) :
    (r.policyOf type predicates template d).evaluator.attributeAnswer answer req name = true ↔
      d.PermitsAttribute predicates answer req name := by
  have hlast : ∀ q, ((d.grants ++ d.attributeGrants).filterMap
      (RuleBook.granted? predicates d.schema (.attr name))).getLast? = some q ↔
      ∃ g, IsLast (fun g => g.Names d.schema (.attr name)) (d.grants ++ d.attributeGrants) g ∧
        predicates.get? g.predicate = some q := by
    intro q
    rw [getLast?_filterMap_eq_some_iff]
    refine exists_congr fun g => ?_
    rw [isLast_congr fun g hg => granted?_ne_none h hg (.attr name)]
    refine and_congr_right fun hg => ?_
    obtain ⟨before, after, hsplit, hnames, -⟩ := hg
    have hmem : g ∈ d.grants ++ d.attributeGrants := by
      rw [hsplit]
      exact List.mem_append_right _ List.mem_cons_self
    rw [granted?_iff h hmem]
    exact and_iff_right hnames
  have hrule : (r.policyOf type predicates template d).evaluator.attributeAnswer answer req name
      = (((d.grants ++ d.attributeGrants).filterMap
          (RuleBook.granted? predicates d.schema (.attr name))).getLast?.map
            fun q => answer q req).getD false := by
    show ((((r.policyOf type predicates template d).rules.rulesFor (.attr name)).getLast?).map
      fun rule => answer rule.predicate req).getD false = _
    rw [rulesFor_policyOf, List.getLast?_map, Option.map_map]
    rfl
  have hgetD : ∀ o : Option π, (o.map fun q => answer q req).getD false = true ↔
      ∃ q, o = some q ∧ answer q req = true := by
    intro o
    cases o <;> simp
  rw [hrule, hgetD]
  constructor
  · rintro ⟨q, hq, hanswer⟩
    obtain ⟨g, hg, hget⟩ := (hlast q).mp hq
    exact ⟨g, hg, q, hget, hanswer⟩
  · rintro ⟨g, hg, q, hget, hanswer⟩
    exact ⟨q, (hlast q).mpr ⟨g, hg, hget⟩, hanswer⟩

variable (r type template) in
/-- The evaluator of a built policy does as the declaration says. -/
theorem follows_evaluator (h : Accepts predicates d) (hanswers : Evaluator.Answers judge answer)
    {subject : Entity} {w : Work} (hasked : ¬ Evaluator.Unasked type subject w.context) :
    (r.policyOf type predicates template d).evaluator.Follows d predicates judge answer subject
      w := by
  have hsecures : (r.policyOf type predicates template d).evaluator.book.securesAttributes = true ↔
      d.Secures := securesAttributes_policyOf r type template h
  have hunsecured : ¬ d.Secures →
      (r.policyOf type predicates template d).evaluator.book.securesAttributes = false :=
    fun hs => Bool.eq_false_iff.mpr (mt hsecures.mp hs)
  have hasked' : ¬ Evaluator.Unasked (r.policyOf type predicates template d).evaluator.entityType
      subject w.context := hasked
  have hattribute := attributeAnswer_iff r type template answer h ⟨w.context.actor, subject, none⟩
  refine ⟨fun a => ?_, fun k relation associated => ?_, fun hs a => ?_, fun hs a => ?_,
    fun a => ?_, fun name => ?_⟩
  · exact settles_of_decided (Evaluator.decided_checkAction judge _ a subject w) hanswers hasked
      (exists_permits_iff r type template answer h _ (by simp))
  · exact settles_of_decided
      (Evaluator.decided_checkAssociation judge _ k relation subject associated w) hanswers hasked
      (exists_permits_iff r type template answer h _ (by simp))
  · obtain ⟨denied, hdenied⟩ : ∃ denied, denied = subject.changes.keys.filter fun name =>
        !(r.policyOf type predicates template d).evaluator.attributeAnswer answer
          ⟨w.context.actor, subject, none⟩ name := ⟨_, rfl⟩
    have hcheck := Evaluator.checkAttributes_of_secured hanswers (hsecures.mpr hs) hasked' a denied
      hdenied
    refine ⟨denied, fun name => ?_, fun hnone => ?_, fun hsome => ?_⟩
    · rw [hdenied, List.mem_filter, ← hattribute, Bool.not_eq_true', Bool.not_eq_true]
    · rw [hcheck, if_pos hnone]
    · rw [hcheck, if_neg hsome]
  · rw [Evaluator.checkAttributes_of_unsecured _ _ _ _ (hunsecured hs)]
  · refine ⟨_, Evaluator.isGranted_of_asked hanswers hasked' a, ?_⟩
    rw [← exists_permits_iff r type template answer h _ (by simp), List.any_eq_true]
    simp only [List.mem_map, exists_exists_and_eq_and]
    rfl
  · by_cases hs : d.Secures
    · refine ⟨_, Evaluator.isAttributeGranted_of_secured hanswers (hsecures.mpr hs) hasked' name,
        ?_⟩
      rw [hattribute]
      simp [hs]
    · refine ⟨true, ?_, by simp [hs]⟩
      rw [Evaluator.isAttributeGranted_of_unsecured _ _ _ _ (hunsecured hs)]

end Permissions

/-! ## Auditing of a built policy -/

section Auditing

variable {compose : μ → Entity → Option Actor → Run String}
  {text : μ → Entity → Option Actor → String}

variable (r type predicates template d) in
/-- What applies to an action, where nothing is bypassed, is what the clause declares that
counts for it. -/
theorem applicable?_iff {subject : Entity} {c : Context}
    (htype : c.isAuditBypassed type = false) (hsubject : c.isAuditBypassed subject.type = false)
    (a : Action) (x : AuditDeclaration μ) :
    (r.policyOf type predicates template d).recorder.applicable? a subject c = some x ↔
      r.declarations.audit.enabled = true ∧
        ∃ clause, d.Audits a clause ∧ x = clause.declaration template a := by
  have hbypassed : (r.policyOf type predicates template d).recorder.bypassed subject c
      = !r.declarations.audit.enabled := by
    show (!r.declarations.audit.enabled || c.isAuditBypassed type ||
      c.isAuditBypassed subject.type) = _
    rw [htype, hsubject, Bool.or_false, Bool.or_false]
  rw [Recorder.applicable?, hbypassed]
  cases r.declarations.audit.enabled with
  | false => simp
  | true =>
      simp only [Bool.not_true, Bool.false_eq_true, if_false, true_and]
      exact AuditBook.declaration?_declared template d.audits a x

/-- A recorder follows a declaration if what applies to an action is what the declaration says. -/
theorem follows_of_applicable {recorder : Recorder μ} {enabled : Bool}
    (hcomposes : Recorder.Composes compose text) {subject : Entity} {w : Work}
    (h : ∀ a x, recorder.applicable? a subject w.context = some x ↔
      enabled = true ∧ ∃ c, d.Audits a c ∧ x = c.declaration template a) :
    recorder.Follows d enabled template compose text subject w := by
  have hnone : ∀ a, ¬ (enabled = true ∧ ∃ c, d.Audits a c) →
      recorder.applicable? a subject w.context = none := by
    intro a hnot
    refine Option.eq_none_iff_forall_ne_some.mpr fun x hx => hnot ?_
    obtain ⟨henabled, c, hc, -⟩ := (h a x).mp hx
    exact ⟨henabled, c, hc⟩
  have hsome : ∀ a c, enabled = true → d.Audits a c →
      recorder.applicable? a subject w.context = some (c.declaration template a) :=
    fun a c henabled hc => (h a _).mpr ⟨henabled, c, hc, rfl⟩
  refine ⟨fun a c ha henabled hc => ?_, fun a hnot => ?_, fun c henabled hc => ?_, fun hnot => ?_⟩
  · have hcaptures := recorder.begin_captures hcomposes ha (hsome a c henabled hc)
    exact hcaptures
  · obtain ⟨events, hbegin⟩ := recorder.begin_of_none (hnone a hnot)
    rw [hbegin]
    exact ⟨rfl, rfl⟩
  · have hpersists := recorder.record_persists hcomposes (hsome .find c henabled hc)
    exact hpersists
  · obtain ⟨events, hrecord⟩ := recorder.record_of_none (hnone .find hnot)
    rw [hrecord]
    exact ⟨rfl, rfl⟩

end Auditing

/-! ## Building -/

/-- A policy without rules and audit declarations refuses everything. -/
theorem refuses_of_blank {p : Policy π μ} (hrules : ∀ t, p.rules.rulesFor t = [])
    (haudits : ∀ a, p.audits.declaration? a = none) : p.Refuses := by
  have hnobody : ∀ t, (p.evaluator.book.rulesFor t).map Rule.predicate = [] := fun t => by
    rw [show p.evaluator.book.rulesFor t = [] from hrules t, List.map_nil]
  have hnone : ∀ a subject c, p.recorder.applicable? a subject c = none := fun a subject c => by
    unfold Recorder.applicable?
    split
    · rfl
    · exact haudits a
  refine ⟨fun judge a subject w h => ?_, fun judge k relation subject associated w h => ?_,
    fun compose a subject w => ?_, fun compose subject w => ?_⟩
  · exact (Evaluator.decided_checkAction judge p.evaluator a subject w).nobody h (hnobody _)
  · exact (Evaluator.decided_checkAssociation judge p.evaluator k relation subject associated
      w).nobody h (hnobody _)
  · obtain ⟨events, hbegin⟩ := p.recorder.begin_of_none (hnone a subject w.context)
    rw [hbegin]
    exact ⟨rfl, rfl⟩
  · obtain ⟨events, hrecord⟩ := p.recorder.record_of_none (hnone .find subject w.context)
    rw [hrecord]
    exact ⟨rfl, rfl⟩

/-- **Built policies decide as the declarations say.**  Where building gives a policy, its checks
and its captures are what the declaration of the entity type says, wherever nothing is bypassed.
A type that is not declared has a policy, and it refuses everything. -/
theorem build_decides (r : Registry) (type : String) (predicates : SortedMap String π)
    (template : Action → String → μ) :
    (∀ p, (r.build type predicates template).result = .ok p →
      (∀ judge answer, Evaluator.Answers judge answer →
        ∀ subject (w : Work), ¬ Evaluator.Unasked type subject w.context →
          p.evaluator.Follows (r.declarationOf type) predicates judge answer subject w) ∧
      ∀ compose text, Recorder.Composes compose text →
        ∀ (subject : Entity) (w : Work), w.context.isAuditBypassed type = false →
          w.context.isAuditBypassed subject.type = false →
          p.recorder.Follows (r.declarationOf type) r.declarations.audit.enabled template compose
            text subject w) ∧
    (r.declarations.entity? type = none →
      ∃ p, (r.build type predicates template).result = .ok p ∧ p.entityType = type ∧
        p.Refuses) := by
  refine ⟨fun p hp => ?_, fun hnone => ?_⟩
  · obtain ⟨haccepts, rfl⟩ := build_ok.mp hp
    exact ⟨fun judge answer hanswers subject w hasked =>
        follows_evaluator r type template haccepts hanswers hasked,
      fun compose text hcomposes subject w htype hsubject =>
        follows_of_applicable hcomposes
          (applicable?_iff r type predicates template (r.declarationOf type) htype hsubject)⟩
  · have hempty : r.declarationOf type = .empty := by rw [declarationOf, hnone, Option.getD_none]
    have haccepts : Accepts predicates (r.declarationOf type) := by
      rw [hempty]
      exact accepts_empty predicates
    refine ⟨_, build_ok.mpr ⟨haccepts, rfl⟩, rfl, ?_⟩
    rw [hempty]
    exact refuses_of_blank (fun t => rulesFor_policyOf t) fun a => rfl

/-- Declarations for pages: updates are granted, and of the grants for titles the last refuses. -/
def pageRegistry : Registry where
  declarations :=
    { audit := .standard
      entities := .ofList [("page", {
        attributes := some ["title", "body"]
        grants := [⟨[.symbol ":Update", .symbol "title"], "always"⟩]
        attributeGrants := [⟨[.symbol "title"], "never"⟩]
        attributeSecurity := false
        audits := [⟨["update"], ["title"], [], none⟩] })] }
  store := .null

/-- Predicates that are their own answers. -/
def verdicts : SortedMap String Bool := .ofList [("always", true), ("never", false)]

theorem build_decides_page :
    ∃ p, (pageRegistry.build "page" verdicts fun _ text => text).result = .ok p ∧
      (p.evaluator.checkAction (fun q _ => pure q) .update (.plain "page" (some "1"))
        (.start .epoch)).1 = .ok (.ok ()) := by
  have hbuilt : (pageRegistry.build "page" verdicts fun _ text => text).result.isOk = true := by
    decide +kernel
  cases hp : (pageRegistry.build "page" verdicts fun _ text => text).result with
  | error e =>
      rw [hp] at hbuilt
      cases hbuilt
  | ok p =>
      have hfollows := ((build_decides pageRegistry "page" verdicts fun _ text => text).1 p hp).1
        (fun q _ => pure q) (fun q _ => q) (fun _ _ _ => rfl) (.plain "page" (some "1"))
        (.start .epoch) (by unfold Evaluator.Unasked; decide +kernel)
      refine ⟨p, rfl, (hfollows.action .update).1 ?_⟩
      refine ⟨⟨[.symbol ":Update", .symbol "title"], "always"⟩, by decide +kernel, ?_, true,
        by decide +kernel, rfl⟩
      exact .symbol List.mem_cons_self
        (.action ((Action.parse?_eq_some_iff _ _).mp (by decide +kernel)))

end Registry

end LifecycleGuard
