import LifecycleGuard.Collections.SortedMap
import Mathlib.Data.List.Nodup

/-!
# Sorted maps are determined by their look-ups

A map is kept as its entries in strictly ascending order of the keys, so what can be looked up in
it determines it.

* `mem_entries_iff` — an entry stands in the list exactly if its key is looked up to its value.
* **`ext_get?`** — two maps with the same look-ups are equal, and for sets `SortedSet.ext_mem`.
* `ofList_entries` — a map is put together again from its entries.
* `SortedSet.remove_add` — taking out what was put in gives the set back that was there before.

Maps that are read back from a log rest on the third.  Scopes rest on the last, since they put a
type into a set and take it out again.
-/

namespace LifecycleGuard

universe u v

namespace SortedMap

variable {κ : Type u} {ν : Type v} [Ord κ] [Std.LawfulEqOrd κ]

theorem compare_self_ne_lt (k : κ) : compare k k ≠ .lt := by
  simp [Std.ReflCmp.compare_self]

/-- No key stands twice in a map. -/
theorem nodup_keys (m : SortedMap κ ν) : m.keys.Nodup := by
  refine List.Pairwise.map _ (fun a b hab heq => ?_) m.ascending
  exact compare_self_ne_lt b.1 (heq ▸ hab)

/-- In a list in strictly ascending order, the entry of a key is the one that is found. -/
theorem find_eq_some_iff {k : κ} {x : ν} {l : List (κ × ν)}
    (h : l.Pairwise fun a b => compare a.1 b.1 = .lt) : find k l = some x ↔ (k, x) ∈ l := by
  induction l with
  | nil => simp [find]
  | cons e l ih =>
      obtain ⟨k', y⟩ := e
      rw [List.pairwise_cons] at h
      unfold find
      by_cases hk : compare k k' = .eq
      · obtain rfl := Std.LawfulEqCmp.eq_of_compare hk
        have hout : (k, x) ∉ l := fun hmem => compare_self_ne_lt k (h.1 _ hmem)
        simp [hout, eq_comm]
      · have hne : k ≠ k' := fun heq => hk (heq ▸ Std.ReflCmp.compare_self)
        simp [hk, hne, ih h.2]

/-- An entry stands in a map exactly if its key is looked up to its value. -/
theorem mem_entries_iff (m : SortedMap κ ν) (k : κ) (x : ν) :
    (k, x) ∈ m.entries ↔ m.get? k = some x :=
  (find_eq_some_iff m.ascending).symm

/-- Looking up behind a restriction of the keys. -/
theorem get?_filterKeys (m : SortedMap κ ν) (keep : κ → Bool) (k : κ) (x : ν) :
    (m.filterKeys keep).get? k = some x ↔ m.get? k = some x ∧ keep k = true := by
  rw [← mem_entries_iff, ← mem_entries_iff]
  exact List.mem_filter

variable [Std.TransOrd κ]

/-- **Two maps with the same look-ups are equal.** -/
theorem ext_get? {m n : SortedMap κ ν} (h : ∀ k, m.get? k = n.get? k) : m = n := by
  have hnodup : ∀ p : SortedMap κ ν, p.entries.Nodup := fun p =>
    List.Nodup.of_map _ (nodup_keys p)
  have hperm : m.entries.Perm n.entries := by
    refine (List.perm_ext_iff_of_nodup (hnodup m) (hnodup n)).mpr ?_
    rintro ⟨k, x⟩
    rw [mem_entries_iff, mem_entries_iff, h]
  refine SortedMap.ext (hperm.eq_of_pairwise (fun a b _ _ hab hba => ?_) m.ascending n.ascending)
  exact absurd (Std.TransCmp.lt_trans hab hba) (compare_self_ne_lt a.1)

/-- Putting in what is there changes nothing. -/
theorem insert_of_get? [DecidableEq κ] {m : SortedMap κ ν} {k : κ} {x : ν}
    (h : m.get? k = some x) : m.insert k x = m := by
  refine ext_get? fun k' => ?_
  rw [get?_insert]
  split
  · rename_i hk
    rw [hk, h]
  · rfl

omit [Std.LawfulEqOrd κ] in
/-- A key above all others goes behind them. -/
theorem place_of_above {k : κ} {x : ν} {l : List (κ × ν)} (h : ∀ e ∈ l, compare e.1 k = .lt) :
    place k x l = l ++ [(k, x)] := by
  induction l with
  | nil => rfl
  | cons e l ih =>
    obtain ⟨k', y⟩ := e
    have hgt : compare k k' = .gt := Std.OrientedCmp.gt_iff_lt.mpr (h (k', y) List.mem_cons_self)
    rw [place, hgt, List.cons_append, ih fun a ha => h a (List.mem_cons_of_mem _ ha)]

/-- A list in strictly ascending order is the list of entries of its map. -/
theorem entries_ofList {l : List (κ × ν)} (h : l.Pairwise fun a b => compare a.1 b.1 = .lt) :
    (ofList l).entries = l := by
  -- Generalised over the map built so far, which the rest of the list goes behind.
  have hfold : ∀ (l : List (κ × ν)) (m : SortedMap κ ν),
      (m.entries ++ l).Pairwise (fun a b => compare a.1 b.1 = .lt) →
      (l.foldl (fun m e => m.insert e.1 e.2) m).entries = m.entries ++ l := by
    intro l
    induction l with
    | nil => intro m _; simp
    | cons e l ih =>
      intro m hm
      have habove : ∀ a ∈ m.entries, compare a.1 e.1 = .lt := fun a ha =>
        (List.pairwise_append.mp hm).2.2 a ha e List.mem_cons_self
      have hinsert : (m.insert e.1 e.2).entries = m.entries ++ [e] := place_of_above habove
      rw [List.foldl_cons, ih _ (by rw [hinsert]; simpa using hm), hinsert]
      simp
  exact hfold l empty h

/-- A map is the map of its entries. -/
theorem ofList_entries (m : SortedMap κ ν) : ofList m.entries = m :=
  SortedMap.ext (entries_ofList m.ascending)

end SortedMap

namespace SortedSet

variable {κ : Type u} [Ord κ] [Std.LawfulEqOrd κ]

omit [Std.LawfulEqOrd κ] in
/-- The members are listed in strictly ascending order. -/
theorem ascending_toList (s : SortedSet κ) : s.toList.Pairwise fun a b => compare a b = .lt :=
  List.Pairwise.map _ (fun _ _ h => h) s.ascending

/-- The members of a set are what is listed. -/
theorem mem_toList_iff (s : SortedSet κ) (k : κ) : k ∈ s.toList ↔ mem s k = true := by
  simp only [toList, SortedMap.keys, mem, SortedMap.contains, List.mem_map,
    Option.isSome_iff_exists]
  constructor
  · rintro ⟨⟨k', x⟩, hmem, rfl⟩
    exact ⟨x, (SortedMap.mem_entries_iff s _ x).mp hmem⟩
  · rintro ⟨x, hx⟩
    exact ⟨(k, x), (SortedMap.mem_entries_iff s k x).mpr hx, rfl⟩

omit [Std.LawfulEqOrd κ] in
@[simp] theorem mem_empty (k : κ) : mem (SortedMap.empty : SortedSet κ) k = false := rfl

theorem isEmpty_eq_false_iff (s : SortedSet κ) : s.isEmpty = false ↔ ∃ k, mem s k = true := by
  simp only [← mem_toList_iff, ← List.isEmpty_eq_false_iff_exists_mem]
  simp [SortedMap.isEmpty, toList, SortedMap.keys]

variable [Std.TransOrd κ]

/-- A list in strictly ascending order is the list of members of its set. -/
theorem toList_ofList {ks : List κ}
    (h : ks.Pairwise fun a b => compare a b = .lt) : (ofList ks).toList = ks := by
  have hmap : ofList ks = SortedMap.ofList (ks.map fun k => (k, ())) := by
    rw [SortedMap.ofList, List.foldl_map]
    rfl
  rw [hmap, toList, SortedMap.keys,
    SortedMap.entries_ofList (List.pairwise_map.mpr h), List.map_map]
  exact List.map_id _

/-- A set is the set of its members. -/
theorem ofList_toList (s : SortedSet κ) : ofList s.toList = s := by
  have hlist : (ofList s.toList).toList = s.toList := toList_ofList (ascending_toList s)
  have hentries : ∀ t : SortedSet κ, t.entries = t.toList.map fun k => (k, ()) := by
    intro t
    rw [toList, SortedMap.keys, List.map_map]
    exact (List.map_id _).symm
  exact SortedMap.ext (by rw [hentries, hlist, ← hentries])

/-- Two sets with the same members are equal. -/
theorem ext_mem {s t : SortedSet κ} (h : ∀ k, mem s k = mem t k) : s = t := by
  refine SortedMap.ext_get? fun k => ?_
  have hk := h k
  simp only [mem, SortedMap.contains] at hk
  cases hs : s.get? k <;> cases ht : t.get? k <;> simp_all

variable [DecidableEq κ]

theorem isEmpty_ofList_iff (ks : List κ) : (ofList ks).isEmpty = true ↔ ks = [] := by
  rw [← not_iff_not, Bool.not_eq_true, isEmpty_eq_false_iff]
  simp [mem_ofList, List.eq_nil_iff_forall_not_mem]

/-- A set is the set of a list if it has the members of the list. -/
theorem eq_ofList {s : SortedSet κ} {ks : List κ} (h : ∀ k, mem s k = true ↔ k ∈ ks) :
    s = ofList ks :=
  ext_mem fun k => by rw [Bool.eq_iff_iff, h, mem_ofList, decide_eq_true_iff]

/-- Adding a member changes nothing. -/
theorem add_of_mem {s : SortedSet κ} {k : κ} (h : mem s k = true) : add s k = s := by
  refine ext_mem fun k' => ?_
  rw [mem_add]
  by_cases hk : k' = k
  · subst hk
    simp [h]
  · simp [hk]

/-- What is taken out may have been put in before or not. -/
theorem remove_add_self (s : SortedSet κ) (k : κ) : remove (add s k) k = remove s k := by
  refine ext_mem fun k' => ?_
  simp only [mem_remove, mem_add]
  by_cases hk : k' = k <;> simp [hk]

theorem remove_remove_self (s : SortedSet κ) (k : κ) : remove (remove s k) k = remove s k := by
  refine ext_mem fun k' => ?_
  simp only [mem_remove]
  by_cases hk : k' = k <;> simp [hk]

theorem remove_comm (s : SortedSet κ) (k k' : κ) :
    remove (remove s k) k' = remove (remove s k') k := by
  refine ext_mem fun i => ?_
  simp only [mem_remove]
  exact Bool.and_left_comm ..

/-- What is put in does not matter to taking something else out. -/
theorem add_remove_comm (s : SortedSet κ) {k k' : κ} (h : k' ≠ k) :
    add (remove s k) k' = remove (add s k') k := by
  refine ext_mem fun i => ?_
  simp only [mem_remove, mem_add]
  by_cases hi : i = k'
  · subst hi
    simp [h]
  · simp [hi]

/-- Taking out what was put in gives the set back. -/
theorem remove_add {s : SortedSet κ} {k : κ} (h : mem s k = false) : remove (add s k) k = s := by
  refine ext_mem fun k' => ?_
  rw [mem_remove, mem_add]
  by_cases hk : k' = k
  · subst hk
    simp [h]
  · simp [hk]

end SortedSet

end LifecycleGuard
