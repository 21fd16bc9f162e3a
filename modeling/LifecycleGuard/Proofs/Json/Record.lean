import LifecycleGuard.Json.Source

/-!
# Decoders on the trees of values

What the decoders for records, lists and maps make of a tree that comes from a value.  Nothing is
wrong with such a tree, so a decoder only has to accept what it is handed: `readRecord_reading`
turns the reading of a record into a fold over its members, and `readList_reading` and
`readEntries_reading` turn the readings of a list and of a map into the readings of what is in them.
-/

namespace LifecycleGuard.Json

variable {α δ : Type}

theorem memberReadings_eq_map (members : List (String × Json)) :
    memberReadings members =
      members.map fun m => (Reading.string ⟨.ok m.1, .ok ()⟩, reading m.2) := by
  induction members with
  | nil => rfl
  | cons m members ih => rw [memberReadings, ih, List.map_cons]

/-- A value other than null is read as something that is there. -/
theorem readOptional_reading {decoder : Reading → Except ReadError α} {j : Json} {x : α}
    (hj : j ≠ .null) (h : decoder (reading j) = .ok x) :
    Decoding.readOptional decoder (reading j) = .ok (some x) := by
  have hsome : (Source.optional (reading j) : Except ReadError (Option Reading)) =
      .ok (some (reading j)) := by
    cases j with
    | null => exact absurd rfl hj
    | _ => rfl
  rw [Decoding.readOptional, hsome]
  show some <$> decoder (reading j) = _
  rw [h]
  rfl

theorem integer_reading (v : Int64) :
    (Source.integer (reading (ofInt64 v)) : Except ReadError Int64) = .ok v := by
  have hlt : v.toInt < 9223372036854775808 := v.toInt_lt
  show Reading.integer (.number ⟨.ok (.whole v.toInt _), .ok ()⟩) = .ok v
  simp only [Reading.integer]
  show (if v.toInt < 9223372036854775808 then Except.ok (Int64.ofInt v.toInt)
    else Except.error ReadError.mismatch) = Except.ok v
  rw [if_pos hlt, Int64.ofInt_toInt]

/-- A record is read member by member. -/
theorem readRecord_reading (names : List String) (step : δ → String → Reading → Except ReadError δ)
    (start : δ) (members : List (String × Json)) :
    Decoding.readRecord names step start (reading (.object members)) =
      members.foldlM (fun d m => step d m.1 (reading m.2)) start := by
  have hname : ∀ m : String × Json,
      (Source.name (Reading.string ⟨.ok m.1, .ok ()⟩) : Except ReadError String) = .ok m.1 :=
    fun _ => rfl
  show (do
    let d ← (memberReadings members).foldlM
      (fun d (e : Reading × Reading) => do step d (← Source.name e.1) e.2) start
    Decoding.finish none
    return d) = _
  rw [memberReadings_eq_map, List.foldlM_map]
  simp only [hname]
  exact bind_pure _

/-- A list is read if each of its items is. -/
theorem readList_reading {decoder : Reading → Except ReadError α} {encode : α → Json}
    {xs : List α} (h : ∀ x ∈ xs, decoder (reading (encode x)) = .ok x) :
    Decoding.readList decoder (reading (.array (xs.map encode))) = .ok xs := by
  have hparts : (itemReadings (xs.map encode)).mapM decoder = .ok xs := by
    induction xs with
    | nil => rfl
    | cons x xs ih =>
      have hx := h x List.mem_cons_self
      have hrest := ih fun x' hx' => h x' (List.mem_cons_of_mem _ hx')
      rw [List.map_cons, itemReadings, List.mapM_cons, hrest, hx]
      rfl
  show (do
    let ys ← (itemReadings (xs.map encode)).mapM decoder
    Decoding.finish none
    return ys) = _
  rw [hparts]
  rfl

/-- A map is read if each of its keys and values is. -/
theorem readEntries_reading {κ : Type} {key : Reading → Except ReadError κ} (name : κ → String)
    (hkey : ∀ k, key (reading (.string (name k))) = .ok k)
    {decoder : Reading → Except ReadError α} {encode : α → Json} {entries : List (κ × α)}
    (h : ∀ e ∈ entries, decoder (reading (encode e.2)) = .ok e.2) :
    Decoding.readEntries key decoder
      (reading (.object (entries.map fun e => (name e.1, encode e.2)))) = .ok entries := by
  have hparts : (memberReadings (entries.map fun e => (name e.1, encode e.2))).mapM
      (fun (e : Reading × Reading) => do
        let k ← key e.1
        let x ← decoder e.2
        return (k, x)) = .ok entries := by
    induction entries with
    | nil => rfl
    | cons e entries ih =>
      have hk : key (.string ⟨.ok (name e.1), .ok ()⟩) = .ok e.1 := hkey e.1
      have he := h e List.mem_cons_self
      have hrest := ih fun e' he' => h e' (List.mem_cons_of_mem _ he')
      rw [List.map_cons, memberReadings, List.mapM_cons, hrest, he, hk]
      rfl
  show (do
    let xs ← (memberReadings (entries.map fun (e : κ × α) => (name e.1, encode e.2))).mapM
      (fun (e : Reading × Reading) => do
        let k ← key e.1
        let x ← decoder e.2
        return (k, x))
    Decoding.finish none
    return xs) = _
  rw [hparts]
  rfl

/-- A map with names is read if each of its values is. -/
theorem readMembers_reading {decoder : Reading → Except ReadError α} {encode : α → Json}
    {entries : List (String × α)}
    (h : ∀ e ∈ entries, decoder (reading (encode e.2)) = .ok e.2) :
    Decoding.readMembers decoder (reading (.object (entries.map fun e => (e.1, encode e.2)))) =
      .ok entries :=
  readEntries_reading id (fun _ => rfl) h

end LifecycleGuard.Json
