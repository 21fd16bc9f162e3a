import LifecycleGuard.Proofs.Json.Record
import LifecycleGuard.Proofs.Json.RoundTrip

/-!
# Encodings that lose nothing

What has to be known of an encoding so that a decoder takes back what was encoded, and how this
goes from the parts of a value to the whole.

**`ReadsAs`** holds the three facts about one encoded value: the decoder accepts its tree, and its
written form has that tree, because there is no double in it and because its containers do not
enclose each other too often.  Every kind of value has a lemma that asks for the same of its parts,
one container less deep.

**`Fills`** says the same of the members of a record.  They go into a draft one after the other, and
a member that is left out does nothing, so groups of members can be looked at on their own
(`Fills.append`) before the draft is turned into the record (`ReadsAs.record`).  That a member goes
into its field is `ReadsField`, which is so by definition of the step.

Alternatives that are told apart by their shape only are read as `Content` first; `ofJson` is the
content of a value (`content_reading`).
-/

namespace LifecycleGuard

/-! ## Content -/

mutual

/-- What a value holds, to be looked at later. -/
def Content.ofJson : Json → Content
  | .string s => .text s
  | .array items => .list (Content.ofItems items)
  | .object members => .map (Content.ofMembers members)
  | _ => .other

/-- What items hold. -/
def Content.ofItems : List Json → List Content
  | [] => []
  | j :: rest => Content.ofJson j :: Content.ofItems rest

/-- What members hold. -/
def Content.ofMembers : List (String × Json) → List (Content × Content)
  | [] => []
  | (k, j) :: rest => (.text k, Content.ofJson j) :: Content.ofMembers rest

end

namespace Json

mutual

theorem content_reading : ∀ j : Json, (reading j).content = .ok (Content.ofJson j)
  | .null | .bool _ | .number _ | .string _ => rfl
  | .array items => by
    rw [reading, Reading.content, itemContents_itemReadings items]
    rfl
  | .object members => by
    rw [reading, Reading.content, memberContents_memberReadings members]
    rfl

theorem itemContents_itemReadings : ∀ items : List Json,
    itemContents (itemReadings items) = .ok (Content.ofItems items)
  | [] => rfl
  | j :: rest => by
    rw [itemReadings, itemContents, content_reading j, itemContents_itemReadings rest]
    rfl

theorem memberContents_memberReadings : ∀ members : List (String × Json),
    memberContents (memberReadings members) = .ok (Content.ofMembers members)
  | [] => rfl
  | (k, j) :: rest => by
    rw [memberReadings, memberContents, content_reading j, memberContents_memberReadings rest]
    rfl

end

variable {α β δ κ : Type} {n : Nat}

/-! ## Values -/

/-- A decoder makes `x` of a value and of its written form; at most `n` containers of the value
enclose each other. -/
structure ReadsAs (decoder : Reading → Except ReadError α) (j : Json) (x : α) (n : Nat) : Prop where
  exact : isExact j = true
  depth : depth j ≤ n
  reads : decoder (reading j) = .ok x

namespace ReadsAs

variable {decoder : Reading → Except ReadError α} {encode : α → Json} {j : Json} {x : α}

theorem decode_render (h : ReadsAs decoder j x nestingLimit) :
    Json.decode decoder j.render = .ok x :=
  Json.decode_render h.exact h.depth h.reads

theorem convert (h : ReadsAs decoder j x n) : Json.convert decoder j = .ok x := by
  rw [Json.convert, h.reads]
  rfl

/-- What is written the same is the same. -/
theorem eq_of_render {j' : Json} {y : α} (h : ReadsAs decoder j x nestingLimit)
    (h' : ReadsAs decoder j' y nestingLimit) (heq : j.render = j'.render) : x = y := by
  have hread := h.decode_render
  rw [heq, h'.decode_render] at hread
  exact (Except.ok.inj hread).symm

theorem mono {k : Nat} (h : ReadsAs decoder j x n) (hk : n ≤ k) : ReadsAs decoder j x k :=
  ⟨h.exact, Nat.le_trans h.depth hk, h.reads⟩

theorem map (f : α → β) (h : ReadsAs decoder j x n) :
    ReadsAs (fun s => f <$> decoder s) j (f x) n :=
  ⟨h.exact, h.depth, by rw [h.reads]; rfl⟩

theorem text (s : String) : ReadsAs Source.text (.string s) s 0 := ⟨rfl, Nat.le_refl 0, rfl⟩

theorem flag (b : Bool) : ReadsAs Source.flag (.bool b) b 0 := ⟨rfl, Nat.le_refl 0, rfl⟩

theorem name (s : String) : ReadsAs Source.name (.string s) s 0 := ⟨rfl, Nat.le_refl 0, rfl⟩

theorem choice {known : String → Option α} {name : String} (h : known name = some x) :
    ReadsAs (Decoding.readChoice known) (.string name) x 0 := by
  refine ⟨rfl, Nat.le_refl 0, ?_⟩
  have hchoice : (Source.choice (reading (.string name)) :
      Except ReadError (String × Except ReadError Unit)) = .ok (name, .ok ()) := rfl
  rw [Decoding.readChoice, hchoice]
  refine (pure_bind (name, Except.ok ()) _).trans ?_
  simp only [h]
  rfl

/-- A value other than null, where nothing is possible as well. -/
theorem optional (hj : j ≠ .null) (h : ReadsAs decoder j x n) :
    ReadsAs (Decoding.readOptional decoder) j (some x) n :=
  ⟨h.exact, h.depth, readOptional_reading hj h.reads⟩

/-- A value that is null where nothing is there. -/
theorem nullable (h : ∀ x, encode x ≠ .null ∧ ReadsAs decoder (encode x) x n) (o : Option α) :
    ReadsAs (Decoding.readOptional decoder) (o.elim .null encode) o n := by
  cases o with
  | none => exact ⟨rfl, Nat.zero_le n, rfl⟩
  | some x => exact optional (h x).1 (h x).2

/-- A value that is recognized by its shape. -/
theorem content {recognize : Content → Except ReadError α} (hexact : isExact j = true)
    (hdepth : Json.depth j ≤ n) (h : recognize (Content.ofJson j) = .ok x) :
    ReadsAs (fun s => Source.content s >>= recognize) j x n := by
  refine ⟨hexact, hdepth, ?_⟩
  have hcontent : (Source.content (reading j) : Except ReadError Content) =
      .ok (Content.ofJson j) := content_reading j
  rw [hcontent]
  exact h

theorem list {xs : List α} (h : ∀ x ∈ xs, ReadsAs decoder (encode x) x n) :
    ReadsAs (Decoding.readList decoder) (.array (xs.map encode)) xs (n + 1) where
  exact := areExact_iff.mpr (List.forall_mem_map.mpr fun x hx => (h x hx).exact)
  depth := Nat.succ_le_succ
    (itemsDepth_le_iff.mpr (List.forall_mem_map.mpr fun x hx => (h x hx).depth))
  reads := readList_reading fun x hx => (h x hx).reads

theorem entries {key : Reading → Except ReadError κ} (name : κ → String)
    (hkey : ∀ k, ReadsAs key (.string (name k)) k 0) {es : List (κ × α)}
    (h : ∀ e ∈ es, ReadsAs decoder (encode e.2) e.2 n) :
    ReadsAs (Decoding.readEntries key decoder)
      (.object (es.map fun e => (name e.1, encode e.2))) es (n + 1) where
  exact := membersExact_iff.mpr (List.forall_mem_map.mpr fun e he => (h e he).exact)
  depth := Nat.succ_le_succ
    (membersDepth_le_iff.mpr (List.forall_mem_map.mpr fun e he => (h e he).depth))
  reads := readEntries_reading name (fun k => (hkey k).reads) fun e he => (h e he).reads

variable [Ord κ] [Std.TransOrd κ] [Std.LawfulEqOrd κ]

theorem set {decoder : Reading → Except ReadError κ} {encode : κ → Json}
    (h : ∀ k, ReadsAs decoder (encode k) k n) (s : SortedSet κ) :
    ReadsAs (fun r => SortedSet.ofList <$> Decoding.readList decoder r)
      (.array (s.toList.map encode)) s (n + 1) := by
  have hmembers := (list fun k (_ : k ∈ s.toList) => h k).map SortedSet.ofList
  rwa [SortedSet.ofList_toList] at hmembers

theorem sortedMap {key : Reading → Except ReadError κ} (name : κ → String)
    (hkey : ∀ k, ReadsAs key (.string (name k)) k 0)
    (h : ∀ x, ReadsAs decoder (encode x) x n) (m : SortedMap κ α) :
    ReadsAs (fun r => SortedMap.ofList <$> Decoding.readEntries key decoder r)
      (.object (m.entries.map fun e => (name e.1, encode e.2))) m (n + 1) := by
  have hentries := (entries name hkey fun e (_ : e ∈ m.entries) => h e.2).map SortedMap.ofList
  rwa [SortedMap.ofList_entries] at hentries

end ReadsAs

/-! ## Records -/

/-- The members of a record fill a draft, and each of them reads back. -/
inductive Fills (step : δ → String → Reading → Except ReadError δ) (n : Nat) :
    δ → List (String × Json) → δ → Prop where
  | nil (d : δ) : Fills step n d [] d
  | cons {d d' d'' : δ} {name : String} {j : Json} {members : List (String × Json)}
      (hexact : isExact j = true) (hdepth : depth j ≤ n)
      (hstep : step d name (reading j) = .ok d') (hrest : Fills step n d' members d'') :
      Fills step n d ((name, j) :: members) d''

/-- The step for a name reads one field of a draft in which nothing is there yet; `put` is the draft
by what is there. -/
def ReadsField (step : δ → String → Reading → Except ReadError δ) (name : String)
    (decoder : Reading → Except ReadError α) (put : Option α → δ) : Prop :=
  ∀ r, step (put none) name r = do return put (← Decoding.Slot.fill decoder none r)

theorem ReadsField.step_eq {step : δ → String → Reading → Except ReadError δ} {name : String}
    {decoder : Reading → Except ReadError α} {put : Option α → δ}
    (hput : ReadsField step name decoder put) {r : Reading} {x : α} (h : decoder r = .ok x) :
    step (put none) name r = .ok (put (some x)) := by
  have hfill : Decoding.Slot.fill decoder none r = .ok (some x) := by
    show some <$> decoder r = _
    rw [h]
    rfl
  rw [hput, hfill]
  rfl

namespace Fills

variable {step : δ → String → Reading → Except ReadError δ} {d d' d'' : δ}
  {members more : List (String × Json)} {decoder : Reading → Except ReadError α} {j : Json} {x : α}

/-- A member that reads back, in a field of the draft. -/
theorem field {name : String} (put : Option α → δ) (h : ReadsAs decoder j x n)
    (hput : ReadsField step name decoder put) (hrest : Fills step n (put (some x)) members d) :
    Fills step n (put none) ((name, j) :: members) d :=
  .cons h.exact h.depth (hput.step_eq h.reads) hrest

/-- A member that is left out under some condition. -/
theorem omittable (omitted : Bool) (name : String) (put : Option α → δ)
    (h : ReadsAs decoder j x n) (hput : ReadsField step name decoder put) :
    Fills step n (put none) (if omitted then [] else [(name, j)])
      (put (if omitted then none else some x)) := by
  cases omitted with
  | true => exact .nil _
  | false => exact .field put h hput (.nil _)

/-- A member that is left out where nothing is there. -/
theorem optional (o : Option α) (name : String) (put : Option (Option α) → δ) {encode : α → Json}
    (h : ∀ x, encode x ≠ .null ∧ ReadsAs decoder (encode x) x n)
    (hput : ReadsField step name (Decoding.readOptional decoder) put) :
    Fills step n (put none) (o.elim [] fun x => [(name, encode x)]) (put (o.map some)) := by
  cases o with
  | none => exact .nil _
  | some x => exact .field put ((h x).2.optional (h x).1) hput (.nil _)

theorem append (h : Fills step n d members d') (h' : Fills step n d' more d'') :
    Fills step n d (members ++ more) d'' := by
  induction h with
  | nil => exact h'
  | cons hexact hdepth hstep _ ih => exact .cons hexact hdepth hstep (ih h')

theorem foldlM (h : Fills step n d members d') :
    members.foldlM (fun d m => step d m.1 (reading m.2)) d = .ok d' := by
  induction h with
  | nil => rfl
  | cons _ _ hstep _ ih =>
    rw [List.foldlM_cons, hstep]
    exact ih

theorem sound (h : Fills step n d members d') :
    ∀ m ∈ members, isExact m.2 = true ∧ depth m.2 ≤ n := by
  induction h with
  | nil => simp
  | cons hexact hdepth _ _ ih => exact List.forall_mem_cons.mpr ⟨⟨hexact, hdepth⟩, ih⟩

end Fills

/-- A record reads back if its members fill a draft that makes up the record. -/
theorem ReadsAs.record {names : List String} {step : δ → String → Reading → Except ReadError δ}
    {start d : δ} {members : List (String × Json)} (h : Fills step n start members d)
    {finish : δ → Except ReadError α} {x : α} (hfinish : finish d = .ok x) :
    ReadsAs (fun s => Decoding.readRecord names step start s >>= finish) (.object members) x
      (n + 1) where
  exact := membersExact_iff.mpr fun m hm => (h.sound m hm).1
  depth := Nat.succ_le_succ (membersDepth_le_iff.mpr fun m hm => (h.sound m hm).2)
  reads := by
    rw [readRecord_reading, h.foldlM]
    exact hfinish

end Json

end LifecycleGuard
