import LifecycleGuard.Proofs.Collections.SortedMap
import LifecycleGuard.Proofs.Declaration.Meaning

/-!
# The grammar of declarations

`RuleSpec.ofTokens` is held to what the tokens mean.

**Collecting.**  The tokens are taken in one after the other in three loops, each of which may fail.
`Adds` says what one step adds and when it fails, and `Adds.foldlM` that a loop adds what its steps
add and fails where one of them does.

**Checking.**  Each check of the whole is what the grammar asks of the items that are held.

A list of tokens is accepted exactly if it is well formed, the specification then holds what the
tokens declare and nothing else, and an error is always a fault of the tokens.
-/

namespace LifecycleGuard

namespace RuleSpec

/-! ## Collecting -/

/-- What comes of a step from a specification: one that holds what `C` says in addition, or an
error that `F` gives a reason for.  Where there is a reason for an error there is one. -/
inductive Adds (s : RuleSpec) (C : Item → Prop) (F : DeclarationError → Prop) :
    Except DeclarationError RuleSpec → Prop where
  | ok {s' : RuleSpec} : (∀ e, ¬ F e) → (∀ i, s'.Holds i ↔ s.Holds i ∨ C i) → Adds s C F (.ok s')
  | error {e : DeclarationError} : F e → Adds s C F (.error e)

namespace Adds

variable {α : Type} {s : RuleSpec} {r : Except DeclarationError RuleSpec}

theorem congr {C C' : Item → Prop} {F F' : DeclarationError → Prop} (h : Adds s C F r)
    (hC : ∀ i, C i ↔ C' i) (hF : ∀ e, F e ↔ F' e) : Adds s C' F' r := by
  rwa [← funext fun i => propext (hC i), ← funext fun e => propext (hF e)]

/-- Two steps add what both of them add, and fail where one of them does. -/
theorem bind {C C' : Item → Prop} {F F' : DeclarationError → Prop}
    {f : RuleSpec → Except DeclarationError RuleSpec} (h : Adds s C F r)
    (hf : ∀ s', Adds s' C' F' (f s')) :
    Adds s (fun i => C i ∨ C' i) (fun e => F e ∨ F' e) (r >>= f) := by
  cases h with
  | error hfault => exact .error (.inl hfault)
  | @ok s' hfine hholds =>
      show Adds s _ _ (f s')
      have hrest := hf s'
      generalize f s' = r at hrest ⊢
      cases hrest with
      | error hfault => exact .error (.inr hfault)
      | ok hfine' hholds' =>
          refine .ok (fun e => not_or.mpr ⟨hfine e, hfine' e⟩) fun i => ?_
          rw [hholds', hholds, or_assoc]

/-- A loop adds what its steps add, and fails where one of them does. -/
theorem foldlM {f : RuleSpec → α → Except DeclarationError RuleSpec} {C : α → Item → Prop}
    {F : α → DeclarationError → Prop} (h : ∀ s x, Adds s (C x) (F x) (f s x)) (xs : List α)
    (s : RuleSpec) :
    Adds s (fun i => ∃ x ∈ xs, C x i) (fun e => ∃ x ∈ xs, F x e) (xs.foldlM f s) := by
  induction xs generalizing s with
  | nil => exact .ok (by simp) (by simp)
  | cons x xs ih =>
      rw [List.foldlM_cons]
      exact ((h s x).bind ih).congr (by simp) (by simp)

end Adds

/-! ### What one step adds -/

section Adding

variable (s : RuleSpec) (i : Item)

theorem holds_addAction (a : Action) :
    Holds { s with actions := SortedSet.add s.actions a } i ↔ s.Holds i ∨ i = .action a := by
  cases i <;> simp [Holds, SortedSet.mem_add, relations, or_comm]

theorem holds_addAttributes (names : List String) :
    Holds { s with attributes := SortedSet.addAll s.attributes names } i ↔
      s.Holds i ∨ ∃ name ∈ names, i = .attr name := by
  cases i <;> simp [Holds, SortedSet.mem_addAll, relations, or_comm]

theorem holds_addOnly (names : List String) :
    Holds { s with filter.only := SortedSet.addAll s.filter.only names } i ↔
      s.Holds i ∨ ∃ name ∈ names, i = .only name := by
  cases i <;> simp [Holds, SortedSet.mem_addAll, relations, or_comm]

theorem holds_addExcept (names : List String) :
    Holds { s with filter.except := SortedSet.addAll s.filter.except names } i ↔
      s.Holds i ∨ ∃ name ∈ names, i = .except name := by
  cases i <;> simp [Holds, SortedSet.mem_addAll, relations, or_comm]

theorem relations_addRelations (k k' : AssociationAction) (names : List String) (name : String) :
    name ∈ (s.addRelations k names).relations k' ↔
      name ∈ s.relations k' ∨ (k' = k ∧ name ∈ names) := by
  unfold relations addRelations
  rw [SortedMap.get?_insert]
  by_cases hk : k' = k
  · subst hk
    cases s.associations.get? k' <;>
      simp [SortedSet.mem_toList_iff, SortedSet.mem_addAll, or_comm]
  · simp [hk]

theorem holds_addRelations (k : AssociationAction) (names : List String) :
    (s.addRelations k names).Holds i ↔
      s.Holds i ∨ i = .association k ∨ ∃ name ∈ names, i = .relation k name := by
  cases i with
  | association k' =>
      simp only [Holds, addRelations, SortedMap.contains, SortedMap.get?_insert]
      by_cases hk : k' = k <;> simp [hk]
  | relation k' name =>
      simp only [Holds, relations_addRelations]
      simp [and_comm]
  | _ => simp [Holds, addRelations]

end Adding

/-! ### The three loops -/

theorem holds_addSymbol (s : RuleSpec) (token : String) (i : Item) :
    (s.addSymbol token).Holds i ↔ s.Holds i ∨ SymbolDeclares token i := by
  unfold addSymbol
  cases h : Action.parse? token with
  | some a =>
      have hnamed := (Action.parse?_eq_some_iff token a).mp h
      rw [holds_addAction]
      refine or_congr_right ⟨?_, fun hi => ?_⟩
      · rintro rfl
        exact .action hnamed
      · cases hi with
        | action ha =>
            rw [← Action.parse?_eq_some_iff, h] at ha
            rw [Option.some.inj ha]
        | attr hnone => exact absurd hnamed (hnone a)
  | none =>
      have hnone := (Action.parse?_eq_none_iff token).mp h
      refine (holds_addAttributes s i [Symbol.bare token]).trans (or_congr_right ⟨?_, fun hi => ?_⟩)
      · rintro ⟨name, hname, rfl⟩
        rw [List.mem_singleton.mp hname]
        exact .attr hnone
      · cases hi with
        | action ha => exact absurd ha (hnone _)
        | attr _ => exact ⟨_, List.mem_singleton_self _, rfl⟩

theorem adds_addToken (s : RuleSpec) (t : RuleToken) :
    Adds s (fun i => ∃ token, t = .symbol token ∧ SymbolDeclares token i)
      (fun e => (∃ members, t = .mapping members) ∧ e = .misplacedMapping) (s.addToken t) := by
  cases t with
  | symbol token => exact .ok (by simp) (by simp [holds_addSymbol])
  | mapping members => exact .error ⟨⟨members, rfl⟩, rfl⟩

theorem adds_addAction (s : RuleSpec) (token : String) :
    Adds s (fun i => ∃ a, Action.Named token a ∧ i = .action a)
      (fun e => (∀ a, ¬ Action.Named token a) ∧ e = .unknownAction token) (s.addAction token) := by
  unfold addAction
  cases h : Action.parse? token with
  | some a =>
      have hnamed : ∀ b, Action.Named token b ↔ a = b := by
        intro b
        rw [← Action.parse?_eq_some_iff, h, Option.some.injEq]
      exact .ok (by simp [hnamed]) (by simp [holds_addAction, hnamed])
  | none => exact .error ⟨(Action.parse?_eq_none_iff token).mp h, rfl⟩

/-- The word that a key is written as. -/
def Key.word : Key → String
  | .actions => "actions"
  | .attributes => "attributes"
  | .only => "only"
  | .except => "except"
  | .relations k => k.name

theorem Key.word_injective {w w' : Key} (h : w.word = w'.word) : w = w' := by
  rcases w with _ | _ | _ | _ | (_ | _) <;> rcases w' with _ | _ | _ | _ | (_ | _) <;>
    simp_all [word, AssociationAction.name]

/-- Another normalization does not change a word. -/
theorem Key.Written.twice {w : Key} {key : String} (hw : w.Written key) :
    Symbol.normalize (Symbol.normalize key) = w.word := by
  cases w with
  | relations k => exact hw
  | _ =>
      unfold Written at hw
      rw [hw]
      decide

/-- A key is written for one purpose only. -/
theorem Key.Written.unique {w w' : Key} {key : String} (hw : w.Written key)
    (hw' : w'.Written key) : w = w' :=
  word_injective (hw.twice.symm.trans hw'.twice)

theorem memberDeclares_iff {schema : Option Schema} {key : String} {n : NameList} {w : Key}
    (hw : w.Written key) (i : Item) :
    (∃ w : Key, w.Written key ∧ w.Declares schema n i) ↔ w.Declares schema n i := by
  constructor
  · rintro ⟨w', hw', hi⟩
    rwa [hw.unique hw']
  · exact fun hi => ⟨w, hw, hi⟩

theorem memberFault_iff {key : String} {n : NameList} {w : Key} (hw : w.Written key)
    (e : DeclarationError) :
    MemberFault key n e ↔ w = .actions ∧
      ∃ token ∈ n.names, (∀ a, ¬ Action.Named token a) ∧ e = .unknownAction token := by
  constructor
  · intro hfault
    cases hfault with
    | action hkey hmem hunknown => exact ⟨hw.unique hkey, _, hmem, hunknown, rfl⟩
    | key hunknown => exact absurd hw (hunknown w)
  · rintro ⟨rfl, token, hmem, hunknown, rfl⟩
    exact .action hw hmem hunknown

theorem isAll_iff (n : NameList) : n.isAll = true ↔ AsksForAll n := by
  unfold NameList.isAll AsksForAll
  split
  · rename_i word h
    simp [h, NameList.allWord, eq_comm]
  · rename_i h
    simp only [Bool.false_eq_true, false_iff, not_exists, not_and]
    intro word hnames
    exact absurd hnames (h word)

theorem exists_mem_bareNames (n : NameList) (P : String → Prop) :
    (∃ name ∈ bareNames n, P name) ↔ ∃ token ∈ n.names, P (Symbol.bare token) := by
  simp [bareNames]

theorem mem_listedAttributes (schema : Option Schema) (n : NameList) (i : Item) :
    (∃ name ∈ listedAttributes schema n, i = .attr name) ↔ Key.attributes.Declares schema n i := by
  unfold listedAttributes
  by_cases hall : AsksForAll n
  · rw [if_pos ((isAll_iff n).mpr hall)]
    constructor
    · rintro ⟨name, hname, rfl⟩
      cases schema with
      | none => simp at hname
      | some s => exact .every hall rfl (by simpa using hname)
    · intro hi
      cases hi with
      | attr hnot _ => exact absurd hall hnot
      | every _ hs hname => exact ⟨_, by simpa [hs] using hname, rfl⟩
  · rw [if_neg fun h => hall ((isAll_iff n).mp h), exists_mem_bareNames]
    constructor
    · rintro ⟨token, htoken, rfl⟩
      exact .attr hall htoken
    · intro hi
      cases hi with
      | attr _ htoken => exact ⟨_, htoken, rfl⟩
      | every h _ _ => exact absurd h hall

/-- The names under a key are taken in as the key says. -/
theorem addMember_of_written (schema : Option Schema) (s : RuleSpec) {key : String} (n : NameList)
    {w : Key} (hw : w.Written key) :
    addMember schema s (key, n) = match w with
      | .actions => n.names.foldlM addAction s
      | .attributes =>
        .ok { s with attributes := SortedSet.addAll s.attributes (listedAttributes schema n) }
      | .only => .ok { s with filter.only := SortedSet.addAll s.filter.only (bareNames n) }
      | .except => .ok { s with filter.except := SortedSet.addAll s.filter.except (bareNames n) }
      | .relations k => .ok (s.addRelations k (bareNames n)) := by
  cases w with
  | relations k =>
      have hnot : ∀ w : Key, w ≠ .relations k → ¬ w.Written key := fun w hne h =>
        hne (h.unique hw)
      have hactions : Symbol.normalize key ≠ "actions" := hnot .actions (by simp)
      have hattributes : Symbol.normalize key ≠ "attributes" := hnot .attributes (by simp)
      have honly : Symbol.normalize key ≠ "only" := hnot .only (by simp)
      have hexcept : Symbol.normalize key ≠ "except" := hnot .except (by simp)
      have hparse := (AssociationAction.parse?_eq_some_iff (Symbol.normalize key) k).mpr hw
      simp only [addMember, hactions, hattributes, honly, hexcept, hparse, if_false]
  | _ =>
      unfold Key.Written at hw
      simp [addMember, hw]

theorem addMember_of_not_written (schema : Option Schema) (s : RuleSpec) {key : String}
    (n : NameList) (hw : ∀ w : Key, ¬ w.Written key) :
    addMember schema s (key, n) = .error (.unknownKey (Symbol.normalize key)) := by
  have hactions : Symbol.normalize key ≠ "actions" := hw .actions
  have hattributes : Symbol.normalize key ≠ "attributes" := hw .attributes
  have honly : Symbol.normalize key ≠ "only" := hw .only
  have hexcept : Symbol.normalize key ≠ "except" := hw .except
  have hparse := (AssociationAction.parse?_eq_none_iff (Symbol.normalize key)).mpr
    fun k => hw (.relations k)
  simp only [addMember, hactions, hattributes, honly, hexcept, hparse, if_false]

/-- A member of the closing mapping adds what its key says of its names. -/
theorem adds_addMember (schema : Option Schema) (s : RuleSpec) (m : String × NameList) :
    Adds s (fun i => ∃ w : Key, w.Written m.1 ∧ w.Declares schema m.2 i) (MemberFault m.1 m.2)
      (addMember schema s m) := by
  obtain ⟨key, n⟩ := m
  by_cases hkey : ∃ w : Key, w.Written key
  · obtain ⟨w, hw⟩ := hkey
    suffices h : Adds s (w.Declares schema n) (fun e => w = .actions ∧ ∃ token ∈ n.names,
        (∀ a, ¬ Action.Named token a) ∧ e = .unknownAction token) (addMember schema s (key, n)) from
      h.congr (fun i => (memberDeclares_iff hw i).symm) (fun e => (memberFault_iff hw e).symm)
    rw [addMember_of_written schema s n hw]
    cases w with
    | actions =>
        refine (Adds.foldlM adds_addAction n.names s).congr (fun i => ⟨?_, fun hi => ?_⟩) (by simp)
        · rintro ⟨token, hmem, a, ha, rfl⟩
          exact .action hmem ha
        · cases hi with
          | action hmem ha => exact ⟨_, hmem, _, ha, rfl⟩
    | attributes =>
        refine .ok (by simp) fun i => ?_
        rw [holds_addAttributes, mem_listedAttributes]
    | only =>
        refine .ok (by simp) fun i => ?_
        rw [holds_addOnly, exists_mem_bareNames]
        refine or_congr_right ⟨?_, fun hi => ?_⟩
        · rintro ⟨token, htoken, rfl⟩
          exact .only htoken
        · cases hi with
          | only htoken => exact ⟨_, htoken, rfl⟩
    | except =>
        refine .ok (by simp) fun i => ?_
        rw [holds_addExcept, exists_mem_bareNames]
        refine or_congr_right ⟨?_, fun hi => ?_⟩
        · rintro ⟨token, htoken, rfl⟩
          exact .except htoken
        · cases hi with
          | except htoken => exact ⟨_, htoken, rfl⟩
    | relations k =>
        refine .ok (by simp) fun i => ?_
        rw [holds_addRelations, exists_mem_bareNames]
        refine or_congr_right ⟨?_, fun hi => ?_⟩
        · rintro (rfl | ⟨token, htoken, rfl⟩)
          · exact .association
          · exact .relation htoken
        · cases hi with
          | association => exact .inl rfl
          | relation htoken => exact .inr ⟨_, htoken, rfl⟩
  · rw [not_exists] at hkey
    rw [addMember_of_not_written schema s n hkey]
    exact .error (.key hkey)

theorem mem_split (tokens : List RuleToken) :
    (∀ token, .symbol token ∈ (split tokens).1 ↔ RuleToken.symbol token ∈ tokens) ∧
      (∀ members, .mapping members ∈ (split tokens).1 ↔
        RuleToken.mapping members ∈ tokens.dropLast) ∧
      ∀ key n, (key, n) ∈ (split tokens).2 ↔ Closes tokens key n := by
  unfold split Closes
  rcases tokens.eq_nil_or_concat with rfl | ⟨init, last, rfl⟩
  · simp
  · cases last with
    | symbol token => simp
    | mapping members => simp [SortedMap.mem_entries_iff]

/-- All tokens together add what they declare. -/
theorem adds_collect (schema : Option Schema) (tokens : List RuleToken) :
    Adds empty (Declares schema tokens)
      (fun e => (∃ members, .mapping members ∈ tokens.dropLast ∧ e = .misplacedMapping) ∨
        ∃ key n, Closes tokens key n ∧ MemberFault key n e) (collect schema tokens) := by
  obtain ⟨hsymbol, hmapping, hmember⟩ := mem_split tokens
  refine ((Adds.foldlM adds_addToken (split tokens).1 empty).bind
    (Adds.foldlM (adds_addMember schema) (split tokens).2)).congr (fun i => ?_) (fun e => ?_)
  · constructor
    · rintro (⟨t, hmem, token, rfl, hi⟩ | ⟨⟨key, n⟩, hmem, w, hw, hi⟩)
      · exact .symbol ((hsymbol token).mp hmem) hi
      · exact .member ((hmember key n).mp hmem) hw hi
    · intro hi
      cases hi with
      | symbol hmem hi => exact .inl ⟨_, (hsymbol _).mpr hmem, _, rfl, hi⟩
      | member hcloses hw hi => exact .inr ⟨(_, _), (hmember _ _).mpr hcloses, _, hw, hi⟩
  · constructor
    · rintro (⟨t, hmem, ⟨members, rfl⟩, rfl⟩ | ⟨⟨key, n⟩, hmem, hfault⟩)
      · exact .inl ⟨members, (hmapping members).mp hmem, rfl⟩
      · exact .inr ⟨key, n, (hmember key n).mp hmem, hfault⟩
    · rintro (⟨members, hmem, rfl⟩ | ⟨key, n, hcloses, hfault⟩)
      · exact .inl ⟨_, (hmapping members).mpr hmem, ⟨members, rfl⟩, rfl⟩
      · exact .inr ⟨(key, n), (hmember key n).mpr hcloses, hfault⟩

/-! ## Checking the whole -/

theorem namesRelation_iff (s : RuleSpec) :
    s.namesRelation = true ↔ ∃ k name, s.Holds (.relation k name) := by
  simp only [namesRelation, SortedMap.values, List.any_eq_true, List.mem_map, Holds, relations]
  constructor
  · rintro ⟨r, ⟨⟨k, r'⟩, hmem, rfl⟩, hne⟩
    rw [Bool.not_eq_true', SortedSet.isEmpty_eq_false_iff] at hne
    obtain ⟨name, hname⟩ := hne
    refine ⟨k, name, ?_⟩
    rw [(SortedMap.mem_entries_iff _ _ _).mp hmem]
    exact (SortedSet.mem_toList_iff _ _).mpr hname
  · rintro ⟨k, name, hname⟩
    cases hget : s.associations.get? k with
    | none => simp [hget] at hname
    | some r =>
        rw [hget] at hname
        refine ⟨r, ⟨(k, r), (SortedMap.mem_entries_iff _ _ _).mpr hget, rfl⟩, ?_⟩
        rw [Bool.not_eq_true', SortedSet.isEmpty_eq_false_iff]
        exact ⟨name, (SortedSet.mem_toList_iff _ _).mp hname⟩

theorem isEmpty_eq_false_iff (s : RuleSpec) : s.isEmpty = false ↔
    (∃ a, s.Holds (.action a)) ∨ (∃ name, s.Holds (.attr name)) ∨
      ∃ k name, s.Holds (.relation k name) := by
  have hactions := SortedSet.isEmpty_eq_false_iff s.actions
  have hattributes := SortedSet.isEmpty_eq_false_iff s.attributes
  rw [← namesRelation_iff]
  simp only [Holds, ← hactions, ← hattributes, isEmpty, Bool.and_eq_false_iff, Bool.not_eq_false',
    or_assoc]

theorem conflicting_iff (s : RuleSpec) : s.filter.conflicting = true ↔
    (∃ name, s.Holds (.only name)) ∧ ∃ name, s.Holds (.except name) := by
  simp only [ChangeFilter.conflicting, Bool.and_eq_true, Bool.not_eq_true',
    SortedSet.isEmpty_eq_false_iff, Holds]

theorem mem_unlisted (schema : Schema) (s : RuleSpec) (name : String) :
    name ∈ unlisted schema s ↔ s.Holds (.attr name) ∧ name ∉ schema.attributes := by
  simp [unlisted, SortedSet.mem_toList_iff, Schema.has, Holds]

theorem check_eq (schema : Option Schema) (s : RuleSpec) :
    check schema s = if s.isEmpty then .error .emptyRule
      else if s.filter.conflicting then .error .conflictingFilter else checkSchema schema s := by
  unfold check ChangeFilter.validate
  split <;> split <;> rfl

/-- The check succeeds where the specification meets what the grammar asks of it. -/
theorem check_ok {schema : Option Schema} {s : RuleSpec} (h : check schema s = .ok ()) :
    s.isEmpty = false ∧ s.filter.conflicting = false ∧
      ∀ sch, schema = some sch → unlisted sch s = [] := by
  rw [check_eq] at h
  cases hempty : s.isEmpty with
  | true => simp [hempty] at h
  | false =>
      cases hconflict : s.filter.conflicting with
      | true => simp [hempty, hconflict] at h
      | false =>
          refine ⟨rfl, rfl, ?_⟩
          rintro sch rfl
          simp only [hempty, hconflict, Bool.false_eq_true, if_false, checkSchema] at h
          cases hnames : unlisted sch s with
          | nil => rfl
          | cons name names => simp [hnames] at h

/-- The check fails for what is wrong with the specification. -/
theorem check_error {schema : Option Schema} {s : RuleSpec} {e : DeclarationError}
    (h : check schema s = .error e) :
    (e = .emptyRule ∧ s.isEmpty = true) ∨ (e = .conflictingFilter ∧ s.filter.conflicting = true) ∨
      ∃ sch, schema = some sch ∧ unlisted sch s ≠ [] ∧
        e = .unknownAttributes (unlisted sch s) := by
  rw [check_eq] at h
  cases hempty : s.isEmpty with
  | true =>
      simp only [hempty, if_true] at h
      exact .inl ⟨(Except.error.inj h).symm, rfl⟩
  | false =>
      cases hconflict : s.filter.conflicting with
      | true =>
          simp only [hempty, hconflict, Bool.false_eq_true, if_false, if_true] at h
          exact .inr (.inl ⟨(Except.error.inj h).symm, rfl⟩)
      | false =>
          simp only [hempty, hconflict, Bool.false_eq_true, if_false, checkSchema] at h
          cases schema with
          | none => cases h
          | some sch =>
              cases hnames : unlisted sch s with
              | nil => simp [hnames] at h
              | cons name names =>
                  simp only [hnames] at h
                  refine .inr (.inr ⟨sch, rfl, ?_, ?_⟩)
                  · simp [hnames]
                  · rw [hnames]
                    exact (Except.error.inj h).symm

/-! ## The grammar and what is accepted -/

/-- A specification is determined by the items that it holds. -/
theorem ext_holds {s t : RuleSpec} (h : ∀ i, s.Holds i ↔ t.Holds i) : s = t := by
  have hset : ∀ {κ : Type} [Ord κ] [Std.TransOrd κ] [Std.LawfulEqOrd κ] {u v : SortedSet κ},
      (∀ k, SortedSet.mem u k = true ↔ SortedSet.mem v k = true) → u = v := fun huv =>
    SortedSet.ext_mem fun k => Bool.eq_iff_iff.mpr (huv k)
  have hassociations : s.associations = t.associations := by
    refine SortedMap.ext_get? fun k => ?_
    have hkey := h (.association k)
    have hrelation := fun name => h (.relation k name)
    simp only [Holds, SortedMap.contains, relations] at hkey hrelation
    cases hs : s.associations.get? k <;> cases ht : t.associations.get? k <;>
      simp only [hs, ht, Option.isSome_none, Option.isSome_some, Bool.false_eq_true, iff_true,
        iff_false, not_true_eq_false, SortedSet.mem_toList_iff] at hkey hrelation
    · rfl
    · rw [hset hrelation]
  have hfilter : s.filter = t.filter := by
    have honly : s.filter.only = t.filter.only := hset fun name => h (.only name)
    have hexcept : s.filter.except = t.filter.except := hset fun name => h (.except name)
    cases hs : s.filter
    cases ht : t.filter
    simp_all
  have hactions : s.actions = t.actions := hset fun a => h (.action a)
  have hattributes : s.attributes = t.attributes := hset fun name => h (.attr name)
  cases s
  cases t
  simp_all

/-- The tokens are collected and then checked, and the first error is reported. -/
theorem ofTokens_cases (schema : Option Schema) (tokens : List RuleToken) :
    (∃ e, collect schema tokens = .error e ∧ ofTokens schema tokens = .error e) ∨
      ∃ s, collect schema tokens = .ok s ∧
        ((check schema s = .ok () ∧ ofTokens schema tokens = .ok s) ∨
          ∃ e, check schema s = .error e ∧ ofTokens schema tokens = .error e) := by
  unfold ofTokens
  cases hc : collect schema tokens with
  | error e => exact .inl ⟨e, rfl, rfl⟩
  | ok s =>
      cases hcheck : check schema s with
      | error e =>
          refine .inr ⟨s, rfl, .inr ⟨e, hcheck, ?_⟩⟩
          simp [bind, Except.bind, hcheck]
      | ok _ =>
          refine .inr ⟨s, rfl, .inl ⟨hcheck, ?_⟩⟩
          simp [bind, Except.bind, hcheck, pure, Except.pure]

theorem declares_of_collect {schema : Option Schema} {tokens : List RuleToken} {s : RuleSpec}
    (h : collect schema tokens = .ok s) (i : Item) : s.Holds i ↔ Declares schema tokens i := by
  have hcollect := adds_collect schema tokens
  rw [h] at hcollect
  cases hcollect with
  | ok _ hholds =>
      rw [hholds]
      cases i <;> simp [Holds, empty, ChangeFilter.all, relations, SortedMap.contains]

/-- What is accepted is well formed, and the specification holds what the tokens declare. -/
theorem ofTokens_ok {schema : Option Schema} {tokens : List RuleToken} {s : RuleSpec}
    (h : ofTokens schema tokens = .ok s) :
    WellFormed schema tokens ∧ ∀ i, s.Holds i ↔ Declares schema tokens i := by
  have hcollect := adds_collect schema tokens
  rcases ofTokens_cases schema tokens with ⟨e, _, he⟩ | ⟨s₁, hc, ⟨hcheck, hok⟩ | ⟨e, _, he⟩⟩
  · rw [h] at he
    cases he
  · obtain rfl : s₁ = s := Except.ok.inj (hok.symm.trans h)
    have hdeclares := declares_of_collect hc
    obtain ⟨hempty, hconflict, hlisted⟩ := check_ok hcheck
    rw [hc] at hcollect
    cases hcollect with
    | ok hfine _ =>
        refine ⟨⟨?_, ?_, ?_, ?_, ?_, ?_⟩, hdeclares⟩
        · exact fun members hmem => hfine _ (.inl ⟨members, hmem, rfl⟩)
        · intro key n hcloses hkey token hmem
          by_contra hunknown
          exact hfine _ (.inr ⟨key, n, hcloses, .action hkey hmem (not_exists.mp hunknown)⟩)
        · intro key n hcloses
          by_contra hunknown
          exact hfine _ (.inr ⟨key, n, hcloses, .key (not_exists.mp hunknown)⟩)
        · simpa only [hdeclares] using (isEmpty_eq_false_iff s₁).mp hempty
        · rw [← Bool.not_eq_true, conflicting_iff] at hconflict
          simpa only [hdeclares] using hconflict
        · intro sch hsch name hname
          by_contra hout
          have hmem := (mem_unlisted sch s₁ name).mpr ⟨(hdeclares _).mpr hname, hout⟩
          rw [hlisted sch hsch] at hmem
          cases hmem
  · rw [h] at he
    cases he

/-- What is refused is refused for something that is wrong with it. -/
theorem ofTokens_error {schema : Option Schema} {tokens : List RuleToken} {e : DeclarationError}
    (h : ofTokens schema tokens = .error e) : Fault schema tokens e := by
  have hcollect := adds_collect schema tokens
  rcases ofTokens_cases schema tokens with ⟨e', hc, he⟩ | ⟨s, hc, ⟨_, hok⟩ | ⟨e', hcheck, he⟩⟩
  · obtain rfl : e' = e := Except.error.inj (he.symm.trans h)
    rw [hc] at hcollect
    cases hcollect with
    | error hfault =>
        rcases hfault with ⟨members, hmem, rfl⟩ | ⟨key, n, hcloses, hfault⟩
        · exact .misplaced hmem
        · exact .member hcloses hfault
  · rw [h] at hok
    cases hok
  · obtain rfl : e' = e := Except.error.inj (he.symm.trans h)
    have hdeclares := declares_of_collect hc
    rcases check_error hcheck with ⟨rfl, hempty⟩ | ⟨rfl, hconflict⟩ | ⟨sch, hsch, hne, rfl⟩
    · have hnothing := mt (isEmpty_eq_false_iff s).mpr (by simp [hempty])
      simp only [hdeclares, not_or, not_exists] at hnothing
      exact .nothing hnothing.1 hnothing.2.1 hnothing.2.2
    · obtain ⟨⟨name, honly⟩, name', hexcept⟩ := (conflicting_iff s).mp hconflict
      exact .conflict ((hdeclares _).mp honly) ((hdeclares _).mp hexcept)
    · refine .unlisted hsch hne ((SortedSet.ascending_toList _).filter _) fun name => ?_
      rw [mem_unlisted, hdeclares]

/-- **The grammar of declarations.**  A list of tokens is accepted exactly if it is well formed.  The
specification is the one that holds what the tokens declare and nothing else.  What is refused is
refused for something that is wrong with it. -/
theorem accepts_exactly (schema : Option Schema) (tokens : List RuleToken) :
    ((∃ s, ofTokens schema tokens = .ok s) ↔ WellFormed schema tokens) ∧
      (∀ s, ofTokens schema tokens = .ok s ↔
        WellFormed schema tokens ∧ ∀ i, s.Holds i ↔ Declares schema tokens i) ∧
      ∀ e, ofTokens schema tokens = .error e → Fault schema tokens e := by
  have hexists : WellFormed schema tokens → ∃ s, ofTokens schema tokens = .ok s := by
    intro hwell
    cases h : ofTokens schema tokens with
    | ok s => exact ⟨s, rfl⟩
    | error e => exact absurd (ofTokens_error h) (hwell.no_fault e)
  refine ⟨⟨?_, hexists⟩, fun s => ⟨ofTokens_ok, ?_⟩, fun e => ofTokens_error⟩
  · rintro ⟨s, hs⟩
    exact (ofTokens_ok hs).1
  · rintro ⟨hwell, hholds⟩
    obtain ⟨t, ht⟩ := hexists hwell
    have hsame : t = s := ext_holds fun i => ((ofTokens_ok ht).2 i).trans (hholds i).symm
    rw [← hsame]
    exact ht

end RuleSpec

end LifecycleGuard
