import LifecycleGuard.Permission.RuleBook
import LifecycleGuard.Proofs.Collections.SortedMap

/-!
# What a history of registrations leaves in a rule book

Grants are registered one call after the other, and a call may fail.  A book keeps one list of
rules for all targets; this file says what that list holds for each of them.

**The history.**  `Registration.replay` makes the calls in order, and a call that fails leaves the
book as it was.  `Registration.granted` is what a history grants for one target: the predicates of
the calls that succeeded and whose specification names the target, in the order of the calls.

**The book.**  `rulesFor_replay` says that the rules of a target are those predicates and nothing
else, whatever the specifications name besides.  It rests on `filter_targets`: a specification is
spread over targets that are all different, so it gives each of them at most one rule.
-/

namespace LifecycleGuard

/-- Whether a specification names a target. -/
def RuleSpec.names (s : RuleSpec) : RuleTarget → Bool
  | .action a => SortedSet.mem s.actions a
  | .attr name => SortedSet.mem s.attributes name
  | .association a relation => decide (relation ∈ s.relations a)

/-! ## Histories -/

/-- A call that registers a grant. -/
inductive Registration (π : Type) where
  | grant (s : RuleSpec) (predicate : π)
  | attributes (s : RuleSpec) (predicate : π)

namespace Registration

variable {π : Type}

/-- The specification of a call. -/
def spec : Registration π → RuleSpec
  | grant s _ => s
  | attributes s _ => s

/-- The predicate of a call. -/
def predicate : Registration π → π
  | grant _ p => p
  | attributes _ p => p

/-- Make a call on the book of an entity type. -/
def call (type : String) (b : RuleBook π) : Registration π → Noted DeclarationError (RuleBook π)
  | grant s p => b.register type s p
  | attributes s p => b.registerAttributes type s p

/-- Whether a call succeeds. -/
def succeeds (type : String) (b : RuleBook π) (c : Registration π) : Bool :=
  (c.call type b).result.isOk

/-- The book after a call; a call that fails leaves it as it was. -/
def apply (type : String) (b : RuleBook π) (c : Registration π) : RuleBook π :=
  match (c.call type b).result with
  | .ok b' => b'
  | .error _ => b

/-- The book after a history of calls. -/
def replay (type : String) (b : RuleBook π) (history : List (Registration π)) : RuleBook π :=
  history.foldl (apply type) b

/-- The predicates that the calls which succeed register for a target, in order. -/
def granted (type : String) (t : RuleTarget) : RuleBook π → List (Registration π) → List π
  | _, [] => []
  | b, c :: rest =>
    (if c.succeeds type b && c.spec.names t then [c.predicate] else []) ++
      granted type t (c.apply type b) rest

end Registration

/-! ## One specification -/

namespace RuleBook

variable {π : Type}

theorem mem_relationPairs_iff (s : RuleSpec) (a : AssociationAction) (relation : String) :
    (a, relation) ∈ s.relationPairs ↔ relation ∈ s.relations a := by
  simp only [RuleSpec.relationPairs, RuleSpec.relations, List.mem_flatMap, List.mem_map]
  constructor
  · rintro ⟨⟨a', rs⟩, hmem, r, hr, heq⟩
    obtain ⟨rfl, rfl⟩ := Prod.mk.inj heq
    rw [(SortedMap.mem_entries_iff _ _ _).mp hmem]
    exact hr
  · intro hr
    cases hget : s.associations.get? a with
    | none => simp [hget] at hr
    | some rs =>
        rw [hget] at hr
        exact ⟨(a, rs), (SortedMap.mem_entries_iff _ _ _).mpr hget, relation, hr, rfl⟩

theorem nodup_relationPairs (s : RuleSpec) : s.relationPairs.Nodup := by
  refine List.nodup_flatMap.mpr ⟨fun e _ => ?_, ?_⟩
  · exact (SortedMap.nodup_keys e.2).map fun r r' h => (Prod.mk.inj h).2
  · refine s.associations.ascending.imp fun {x y} hxy => ?_
    intro p hx hy
    obtain ⟨r, _, rfl⟩ := List.mem_map.mp hx
    obtain ⟨r', _, heq⟩ := List.mem_map.mp hy
    have hkey : y.1 = x.1 := (Prod.mk.inj heq).1
    exact SortedMap.compare_self_ne_lt x.1 (hkey ▸ hxy)

theorem mem_targets_iff (s : RuleSpec) (t : RuleTarget) :
    t ∈ targets s ↔ s.names t = true := by
  cases t with
  | action a => simp [targets, RuleSpec.names, SortedSet.mem_toList_iff]
  | attr name => simp [targets, RuleSpec.names, SortedSet.mem_toList_iff]
  | association a relation => simp [targets, RuleSpec.names, mem_relationPairs_iff]

/-- A specification is spread over targets that are all different. -/
theorem nodup_targets (s : RuleSpec) : (targets s).Nodup := by
  refine List.Nodup.append (List.Nodup.append ?_ ?_ ?_) ?_ ?_
  · exact (SortedMap.nodup_keys s.actions).map fun a b h => RuleTarget.action.inj h
  · exact (SortedMap.nodup_keys s.attributes).map fun a b h => RuleTarget.attr.inj h
  · intro t ha hb
    obtain ⟨a, _, rfl⟩ := List.mem_map.mp ha
    simp at hb
  · refine (nodup_relationPairs s).map fun p q h => ?_
    obtain ⟨h₁, h₂⟩ := RuleTarget.association.inj h
    exact Prod.ext h₁ h₂
  · intro t ha hb
    obtain ⟨p, _, rfl⟩ := List.mem_map.mp hb
    simp at ha

/-- Of a specification, a target gets itself if it is named. -/
theorem filter_targets (s : RuleSpec) (t : RuleTarget) :
    (targets s).filter (fun u => u = t) = if s.names t then [t] else [] := by
  rw [List.filter_eq, (nodup_targets s).count]
  by_cases h : s.names t = true
  · simp [h, (mem_targets_iff s t).mpr h]
  · have hout : t ∉ targets s := fun hmem => h ((mem_targets_iff s t).mp hmem)
    simp [h, hout]

/-- The rules of a target after a specification is added. -/
theorem rulesFor_add (b : RuleBook π) (s : RuleSpec) (p : π) (t : RuleTarget) :
    (b.add s p).rulesFor t = b.rulesFor t ++ if s.names t then [⟨t, p⟩] else [] := by
  have hnew : ((targets s).map fun u => (⟨u, p⟩ : Rule π)).filter (fun r => r.target = t)
      = ((targets s).filter (fun u => u = t)).map fun u => ⟨u, p⟩ := by
    rw [List.filter_map]
    rfl
  simp only [rulesFor, add, List.filter_append, hnew, filter_targets]
  split <;> rfl

/-- Attributes are secured where it was asked for or some attribute has a rule. -/
theorem securesAttributes_iff (b : RuleBook π) :
    b.securesAttributes = true ↔ b.strict = true ∨ ∃ name, b.rulesFor (.attr name) ≠ [] := by
  simp only [securesAttributes, Bool.or_eq_true, List.any_eq_true, rulesFor]
  refine or_congr_right ⟨?_, ?_⟩
  · rintro ⟨r, hmem, hr⟩
    cases ht : r.target with
    | attr name =>
        refine ⟨name, List.ne_nil_of_mem (a := r) (List.mem_filter.mpr ⟨hmem, ?_⟩)⟩
        exact decide_eq_true ht
    | action a => simp [attributeOf?, ht] at hr
    | association k relation => simp [attributeOf?, ht] at hr
  · rintro ⟨name, hne⟩
    obtain ⟨r, hr⟩ := List.exists_mem_of_ne_nil _ hne
    obtain ⟨hmem, ht⟩ := List.mem_filter.mp hr
    exact ⟨r, hmem, by simp [attributeOf?, of_decide_eq_true ht]⟩

/-! ## A whole history -/

/-- A call that succeeds adds its specification and nothing else. -/
theorem call_ok {type : String} {b b' : RuleBook π} {c : Registration π}
    (h : (c.call type b).result = .ok b') : b' = b.add c.spec c.predicate := by
  have register_ok : ∀ {s : RuleSpec} {p : π}, (b.register type s p).result = .ok b' →
      b' = b.add s p := by
    intro s p h
    unfold register at h
    split at h
    · exact (Except.ok.inj h).symm
    · cases h
  cases c with
  | grant s p => exact register_ok h
  | attributes s p =>
      simp only [Registration.call, registerAttributes] at h
      split at h
      · cases h
      · split at h
        · cases h
        · exact register_ok h

theorem rulesFor_apply (type : String) (b : RuleBook π) (c : Registration π) (t : RuleTarget) :
    (c.apply type b).rulesFor t = b.rulesFor t ++
      if c.succeeds type b && c.spec.names t then [⟨t, c.predicate⟩] else [] := by
  unfold Registration.apply Registration.succeeds
  cases h : (c.call type b).result with
  | ok b' =>
      rw [call_ok h, rulesFor_add]
      simp [Except.isOk, Except.toBool]
  | error e => simp [Except.isOk, Except.toBool]

/-- **The rules of a target are what the history grants for it**, in the order of the calls. -/
theorem rulesFor_replay (type : String) (t : RuleTarget) :
    ∀ (history : List (Registration π)) (b : RuleBook π),
      (Registration.replay type b history).rulesFor t
        = b.rulesFor t ++ (Registration.granted type t b history).map (Rule.mk t)
  | [], b => by simp [Registration.replay, Registration.granted]
  | c :: rest, b => by
      have ih := rulesFor_replay type t rest (c.apply type b)
      simp only [Registration.replay, List.foldl_cons] at ih ⊢
      rw [ih, rulesFor_apply, Registration.granted, List.append_assoc, List.map_append]
      congr 2
      split <;> rfl

theorem replay_append (type : String) (b : RuleBook π) (history more : List (Registration π)) :
    Registration.replay type b (history ++ more)
      = Registration.replay type (Registration.replay type b history) more :=
  List.foldl_append

/-- What a longer history grants begins with what the shorter one does. -/
theorem granted_append (type : String) (t : RuleTarget) (more : List (Registration π)) :
    ∀ (history : List (Registration π)) (b : RuleBook π),
      Registration.granted type t b (history ++ more)
        = Registration.granted type t b history
          ++ Registration.granted type t (Registration.replay type b history) more
  | [], b => rfl
  | c :: rest, b => by
      have ih := granted_append type t more rest (c.apply type b)
      rw [List.cons_append, Registration.granted, ih, Registration.granted, List.append_assoc]
      rfl

/-- A call that fails leaves the book as it was. -/
theorem apply_of_not_succeeds {type : String} {b : RuleBook π} {c : Registration π}
    (h : c.succeeds type b = false) : c.apply type b = b := by
  unfold Registration.succeeds at h
  unfold Registration.apply
  cases hr : (c.call type b).result with
  | ok b' => simp [hr, Except.isOk, Except.toBool] at h
  | error e => rfl

end RuleBook

end LifecycleGuard
