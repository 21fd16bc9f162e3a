/-!
# Finite maps and sets in key order

A `SortedMap` is a list of entries in strictly ascending order of their keys, with the order
as part of the type.  Two consequences are used all over the library:

* **A map has one representation.**  Two maps with the same entries are equal, so a value read
  back from its written form can be compared with `=`.
* **Walking a map is walking its keys in order.**  Names are strings, and strings are ordered
  by code point, which is also the order of their UTF-8 bytes; every list that is printed in
  byte order is therefore simply `keys` or `entries`.

A `SortedSet` is a map to `Unit`.  The lemmas `get?_insert`, `get?_erase` and `mem_keys_iff`
describe the operations through look-up; nothing else unfolds them.
-/

namespace LifecycleGuard

universe u v w

/-- A finite map, kept as its entries in strictly ascending order of their keys. -/
structure SortedMap (κ : Type u) (ν : Type v) [Ord κ] where
  entries : List (κ × ν)
  ascending : entries.Pairwise fun a b => compare a.1 b.1 = .lt

/-- A finite set, kept as its members in strictly ascending order. -/
abbrev SortedSet (κ : Type u) [Ord κ] := SortedMap κ Unit

namespace SortedMap

variable {κ : Type u} {ν : Type v} [Ord κ]

@[ext] theorem ext {m n : SortedMap κ ν} (h : m.entries = n.entries) : m = n := by
  cases m; cases n; simp_all

instance [DecidableEq κ] [DecidableEq ν] : DecidableEq (SortedMap κ ν) := fun m n =>
  decidable_of_iff (m.entries = n.entries) ⟨ext, fun h => h ▸ rfl⟩

/-- The map without entries. -/
def empty : SortedMap κ ν := ⟨[], .nil⟩

instance : Inhabited (SortedMap κ ν) := ⟨empty⟩

instance : EmptyCollection (SortedMap κ ν) := ⟨empty⟩

/-- The keys, in ascending order. -/
def keys (m : SortedMap κ ν) : List κ := m.entries.map Prod.fst

/-- The values, in ascending order of their keys. -/
def values (m : SortedMap κ ν) : List ν := m.entries.map Prod.snd

/-- The number of entries. -/
def size (m : SortedMap κ ν) : Nat := m.entries.length

/-- Whether there is no entry. -/
def isEmpty (m : SortedMap κ ν) : Bool := m.entries.isEmpty

/-! ## Look-up -/

/-- The value found under `k` in a list of entries. -/
def find (k : κ) : List (κ × ν) → Option ν
  | [] => none
  | (k', x) :: rest => if compare k k' = .eq then some x else find k rest

/-- The value under `k`, if there is one. -/
def get? (m : SortedMap κ ν) (k : κ) : Option ν := find k m.entries

/-- Whether there is a value under `k`. -/
def contains (m : SortedMap κ ν) (k : κ) : Bool := (m.get? k).isSome

/-! ## Insertion and removal -/

/-- Put a value under a key into a list in key order, replacing what was there. -/
def place (k : κ) (x : ν) : List (κ × ν) → List (κ × ν)
  | [] => [(k, x)]
  | (k', y) :: rest =>
    match compare k k' with
    | .lt => (k, x) :: (k', y) :: rest
    | .eq => (k, x) :: rest
    | .gt => (k', y) :: place k x rest

/-- The list without the entry under `k`. -/
def drop (k : κ) : List (κ × ν) → List (κ × ν)
  | [] => []
  | (k', y) :: rest => if compare k k' = .eq then rest else (k', y) :: drop k rest

/-- Every entry that `place` leaves behind was there before or is the new one. -/
theorem mem_place {k : κ} {x : ν} {e : κ × ν} {l : List (κ × ν)} (h : e ∈ place k x l) :
    e = (k, x) ∨ e ∈ l := by
  induction l with
  | nil => simpa [place] using h
  | cons _ _ ih => unfold place at h; split at h <;> grind

/-- Every entry that `drop` leaves behind was there before. -/
theorem mem_drop {k : κ} {e : κ × ν} {l : List (κ × ν)} (h : e ∈ drop k l) : e ∈ l := by
  induction l with
  | nil => simp [drop] at h
  | cons _ _ ih => unfold drop at h; split at h <;> grind

/-- Removal keeps the order. -/
theorem ascending_drop {k : κ} {l : List (κ × ν)}
    (h : l.Pairwise fun a b => compare a.1 b.1 = .lt) :
    (drop k l).Pairwise fun a b => compare a.1 b.1 = .lt := by
  induction l with
  | nil => exact .nil
  | cons e l ih =>
    obtain ⟨k', y⟩ := e
    rw [List.pairwise_cons] at h
    unfold drop
    split
    · exact h.2
    · exact List.pairwise_cons.2 ⟨fun a ha => h.1 a (mem_drop ha), ih h.2⟩

variable [Std.TransOrd κ] [Std.LawfulEqOrd κ]

/-- Insertion keeps the order. -/
theorem ascending_place {k : κ} {x : ν} {l : List (κ × ν)}
    (h : l.Pairwise fun a b => compare a.1 b.1 = .lt) :
    (place k x l).Pairwise fun a b => compare a.1 b.1 = .lt := by
  induction l with
  | nil => simp [place]
  | cons e l ih =>
    obtain ⟨k', y⟩ := e
    rw [List.pairwise_cons] at h
    unfold place
    split <;> rename_i hc
    · refine List.pairwise_cons.2 ⟨fun a ha => ?_, List.pairwise_cons.2 h⟩
      rcases List.mem_cons.1 ha with rfl | ha
      · exact hc
      · exact Std.TransCmp.lt_trans hc (h.1 a ha)
    · obtain rfl := Std.LawfulEqCmp.eq_of_compare hc
      exact List.pairwise_cons.2 ⟨h.1, h.2⟩
    · refine List.pairwise_cons.2 ⟨fun a ha => ?_, ih h.2⟩
      rcases mem_place ha with rfl | ha
      · exact Std.OrientedCmp.gt_iff_lt.1 hc
      · exact h.1 a ha

/-- Put `x` under `k`, replacing what was there. -/
def insert (m : SortedMap κ ν) (k : κ) (x : ν) : SortedMap κ ν :=
  ⟨place k x m.entries, ascending_place m.ascending⟩

omit [Std.TransOrd κ] [Std.LawfulEqOrd κ] in
/-- Remove what is under `k`. -/
def erase (m : SortedMap κ ν) (k : κ) : SortedMap κ ν :=
  ⟨drop k m.entries, ascending_drop m.ascending⟩

omit [Std.TransOrd κ] [Std.LawfulEqOrd κ] in
/-- Keep the entries whose key satisfies `p`. -/
def filterKeys (m : SortedMap κ ν) (p : κ → Bool) : SortedMap κ ν :=
  ⟨m.entries.filter fun e => p e.1, m.ascending.filter _⟩

/-- The map of a list of entries; of two entries with one key the later counts. -/
def ofList (l : List (κ × ν)) : SortedMap κ ν := l.foldl (fun m e => m.insert e.1 e.2) empty

/-! ## Look-up after an operation -/

omit [Std.TransOrd κ] [Std.LawfulEqOrd κ] in
@[simp] theorem get?_empty (k : κ) : (empty : SortedMap κ ν).get? k = none := rfl

omit [Std.TransOrd κ] [Std.LawfulEqOrd κ] in
theorem find_eq_none_of_lt {k : κ} {l : List (κ × ν)} (h : ∀ e ∈ l, compare k e.1 = .lt) :
    find k l = none := by
  induction l with
  | nil => rfl
  | cons e l ih => grind [find]

omit [Std.TransOrd κ] in
theorem find_place [DecidableEq κ] {k k' : κ} {x : ν} {l : List (κ × ν)} :
    find k' (place k x l) = if k' = k then some x else find k' l := by
  induction l with
  | nil =>
    by_cases h : k' = k
    · subst h; simp [place, find]
    · have : compare k' k ≠ .eq := fun hc => h (Std.LawfulEqCmp.eq_of_compare hc)
      simp [place, find, h, this]
  | cons e l ih =>
    obtain ⟨a, y⟩ := e
    have eq_iff : ∀ b c : κ, compare b c = .eq ↔ b = c := fun b c =>
      ⟨Std.LawfulEqCmp.eq_of_compare, fun h => h ▸ Std.ReflCmp.compare_self⟩
    unfold place
    split <;> rename_i hc
    · simp only [find, eq_iff]
    · obtain rfl := (eq_iff _ _).1 hc
      simp only [find, eq_iff]; split <;> simp_all
    · simp only [find, eq_iff, ih]
      by_cases h : k' = k
      · subst h
        have : k' ≠ a := fun h' => by subst h'; simp [Std.ReflCmp.compare_self] at hc
        simp [this]
      · simp [h]

/-- Looking up after an insertion. -/
theorem get?_insert [DecidableEq κ] (m : SortedMap κ ν) (k k' : κ) (x : ν) :
    (m.insert k x).get? k' = if k' = k then some x else m.get? k' := find_place

omit [Std.TransOrd κ] in
theorem find_drop [DecidableEq κ] {k k' : κ} {l : List (κ × ν)}
    (h : l.Pairwise fun a b => compare a.1 b.1 = .lt) :
    find k' (drop k l) = if k' = k then none else find k' l := by
  induction l with
  | nil => simp [drop, find]
  | cons e l ih =>
    obtain ⟨a, y⟩ := e
    rw [List.pairwise_cons] at h
    have eq_iff : ∀ b c : κ, compare b c = .eq ↔ b = c := fun b c =>
      ⟨Std.LawfulEqCmp.eq_of_compare, fun h => h ▸ Std.ReflCmp.compare_self⟩
    unfold drop
    by_cases hk : compare k a = .eq
    · obtain rfl := (eq_iff _ _).1 hk
      simp only [hk, if_true, find, eq_iff]
      by_cases h' : k' = k
      · subst h'; simp [find_eq_none_of_lt h.1]
      · simp [h']
    · simp only [hk, if_false, find, ih h.2, eq_iff]
      have hk' : k ≠ a := fun h' => hk ((eq_iff _ _).2 h')
      by_cases h' : k' = a
      · subst h'; simp [Ne.symm hk']
      · simp [h']

omit [Std.TransOrd κ] in
/-- Looking up after a removal. -/
theorem get?_erase [DecidableEq κ] (m : SortedMap κ ν) (k k' : κ) :
    (m.erase k).get? k' = if k' = k then none else m.get? k' := find_drop m.ascending

end SortedMap

/-! ## Sets -/

namespace SortedSet

variable {κ : Type u} [Ord κ]

/-- The members, in ascending order. -/
def toList (s : SortedSet κ) : List κ := s.keys

/-- Whether `k` is a member. -/
def mem (s : SortedSet κ) (k : κ) : Bool := s.contains k

/-- The set without `k`. -/
def remove (s : SortedSet κ) (k : κ) : SortedSet κ := SortedMap.erase s k

variable [Std.TransOrd κ] [Std.LawfulEqOrd κ]

/-- The set with `k` added. -/
def add (s : SortedSet κ) (k : κ) : SortedSet κ := SortedMap.insert s k ()

/-- The set with every member of a list added. -/
def addAll (s : SortedSet κ) (ks : List κ) : SortedSet κ := ks.foldl add s

/-- The set of the members of a list. -/
def ofList (ks : List κ) : SortedSet κ := addAll SortedMap.empty ks

theorem mem_add [DecidableEq κ] (s : SortedSet κ) (k k' : κ) :
    mem (add s k) k' = (decide (k' = k) || mem s k') := by
  unfold mem add SortedMap.contains
  rw [SortedMap.get?_insert]
  split <;> simp_all

theorem mem_addAll [DecidableEq κ] (ks : List κ) (s : SortedSet κ) (k : κ) :
    mem (addAll s ks) k = (decide (k ∈ ks) || mem s k) := by
  induction ks generalizing s with
  | nil => simp [addAll]
  | cons a ks ih =>
    rw [show addAll s (a :: ks) = addAll (add s a) ks from rfl, ih, mem_add]
    by_cases h : k ∈ ks <;> by_cases h' : k = a <;> simp [h, h']

theorem mem_ofList [DecidableEq κ] (ks : List κ) (k : κ) :
    mem (ofList ks) k = decide (k ∈ ks) := by
  rw [ofList, mem_addAll]
  simp [mem, SortedMap.contains]

omit [Std.TransOrd κ] in
theorem mem_remove [DecidableEq κ] (s : SortedSet κ) (k k' : κ) :
    mem (remove s k) k' = (decide (k' ≠ k) && mem s k') := by
  unfold mem remove SortedMap.contains
  rw [SortedMap.get?_erase]
  split <;> simp_all

end SortedSet

end LifecycleGuard
