import LifecycleGuard.Json.Source
import LifecycleGuard.Proofs.Collections.SortedMap
import LifecycleGuard.Proofs.Json.Step

/-!
# Values read back

The tree that is read from the written form of a value is `reading`, the tree of that value, for
every value without doubles (`isExact`) whose containers do not enclose each other more often than
the reader allows (`depth`).

`readValue_chars` carries the proof.  It is an induction on the value, with whatever follows the
written form left open, since items and members are followed by commas and brackets.  What follows
must end a number; the bound of the recursion must be the length of the written form, which is
what each call uses up at most.

`isCanonical` is the order of members that a held value has; the value of its tree is the value
itself, without any of its members being moved or dropped.
-/

namespace LifecycleGuard.Json

open Text (isDigit)

/-! ## What is read back -/

mutual

/-- Whether a value contains no double. -/
def isExact : Json → Bool
  | .number (.double _) => false
  | .array items => areExact items
  | .object members => membersExact members
  | _ => true

/-- Whether items contain no double. -/
def areExact : List Json → Bool
  | [] => true
  | j :: rest => isExact j && areExact rest

/-- Whether members contain no double. -/
def membersExact : List (String × Json) → Bool
  | [] => true
  | (_, j) :: rest => isExact j && membersExact rest

end

mutual

/-- How many containers of a value enclose each other. -/
def depth : Json → Nat
  | .array items => itemsDepth items + 1
  | .object members => membersDepth members + 1
  | _ => 0

/-- The depth of the deepest item. -/
def itemsDepth : List Json → Nat
  | [] => 0
  | j :: rest => max (depth j) (itemsDepth rest)

/-- The depth of the deepest member. -/
def membersDepth : List (String × Json) → Nat
  | [] => 0
  | (_, j) :: rest => max (depth j) (membersDepth rest)

end

mutual

/-- Whether the members of every object are in strictly ascending order of their names. -/
def isCanonical : Json → Bool
  | .array items => areCanonical items
  | .object members =>
    decide (members.Pairwise fun a b => compare a.1 b.1 = .lt) && membersCanonical members
  | _ => true

/-- Whether all items are canonical. -/
def areCanonical : List Json → Bool
  | [] => true
  | j :: rest => isCanonical j && areCanonical rest

/-- Whether the values of all members are canonical. -/
def membersCanonical : List (String × Json) → Bool
  | [] => true
  | (_, j) :: rest => isCanonical j && membersCanonical rest

end

theorem membersExact_iff {members : List (String × Json)} :
    membersExact members = true ↔ ∀ m ∈ members, isExact m.2 = true := by
  induction members with
  | nil => simp [membersExact]
  | cons m members ih => simp [membersExact, ih]

theorem membersDepth_le_iff {members : List (String × Json)} {n : Nat} :
    membersDepth members ≤ n ↔ ∀ m ∈ members, depth m.2 ≤ n := by
  induction members with
  | nil => simp [membersDepth]
  | cons m members ih => rw [membersDepth, Nat.max_le, ih, List.forall_mem_cons]

theorem areExact_iff {items : List Json} :
    areExact items = true ↔ ∀ j ∈ items, isExact j = true := by
  induction items with
  | nil => simp [areExact]
  | cons j items ih => simp [areExact, ih]

theorem itemsDepth_le_iff {items : List Json} {n : Nat} :
    itemsDepth items ≤ n ↔ ∀ j ∈ items, depth j ≤ n := by
  induction items with
  | nil => simp [itemsDepth]
  | cons j items ih => rw [itemsDepth, Nat.max_le, ih, List.forall_mem_cons]

/-! ## One value of each kind -/

theorem skipSpace_of_not_space {c : Char} {s : List Char} (h : isSpace c = false) :
    skipSpace (c :: s) = c :: s := by
  simp [skipSpace, h]

theorem endsNumber_of_bracket {c : Char} {s : List Char}
    (h : c = ',' ∨ c = ']' ∨ c.toNat = 0x7D) : EndsNumber (c :: s) := by
  intro d hd
  obtain rfl : c = d := by simpa using hd
  rcases h with rfl | rfl | h
  · decide
  · decide
  · obtain rfl := eq_ofNat h
    decide

theorem isSpace_of_numeral {c : Char} (h : c = '-' ∨ isDigit c = true) : isSpace c = false := by
  simp only [isSpace, Bool.or_eq_false_iff, decide_eq_false_iff_not]
  refine ⟨⟨⟨?_, ?_⟩, ?_⟩, ?_⟩ <;> rintro rfl <;> revert h <;> decide

theorem intChars_cons (n : Int) : ∃ c s, intChars n = c :: s ∧ (c = '-' ∨ isDigit c = true) := by
  unfold intChars
  split
  · exact ⟨_, _, rfl, .inl rfl⟩
  · have hne : Nat.toDigits 10 n.natAbs ≠ [] := Nat.toDigits_ne_nil
    obtain ⟨d, ds, hds⟩ := List.exists_cons_of_ne_nil hne
    exact ⟨d, ds, hds, .inr (Text.isDigit_of_mem_toDigits (hds ▸ List.mem_cons_self))⟩

/-- The written form begins neither with a space nor with what closes a list. -/
theorem chars_cons (j : Json) (h : isExact j = true) :
    ∃ c s, chars j = c :: s ∧ isSpace c = false ∧ c ≠ ']' := by
  rcases j with _ | b | ⟨n, fits⟩ | _ | items | members
  case number.whole =>
    obtain ⟨c, s, hc, hnumeral⟩ := intChars_cons n
    refine ⟨c, s, hc, isSpace_of_numeral hnumeral, ?_⟩
    rintro rfl
    revert hnumeral
    decide
  case bool => cases b <;> exact ⟨_, _, rfl, by decide, by decide⟩
  case number.double => cases h
  all_goals exact ⟨_, _, rfl, by decide, by decide⟩

section Readers

variable {fuel room : Nat} {s : List Char} {close : Option ReadError} {rest : Option (List Char)}

theorem readValue_numeral {c : Char} (h : c = '-' ∨ isDigit c = true) :
    readValue (fuel + 1) room (c :: s) =
      (.number (readNumber (c :: s)).1,
        afterScalar (readNumber (c :: s)).1 (readNumber (c :: s)).2) :=
  (ValueStep.number (skipSpace_of_not_space (isSpace_of_numeral h)) h).eq

theorem readValue_quote :
    readValue (fuel + 1) room (quote :: s) =
      (.string (readString s).1, afterScalar (readString s).1 (readString s).2) :=
  (ValueStep.string (skipSpace_of_not_space (by decide)) rfl).eq

theorem readValue_bracket {c : Char} (hspace : isSpace c = false) (hclose : c ≠ ']')
    {items : List Reading} (h : readItems fuel (room - 1) (c :: s) = (items, close, rest)) :
    readValue (fuel + 1) room ('[' :: c :: s) = (guardDepth room (.array items close), rest) :=
  (ValueStep.array (skipSpace_of_not_space (by decide)) (skipSpace_of_not_space hspace) hclose
    h).eq

theorem readValue_brace {c : Char} (hspace : isSpace c = false) (hclose : c.toNat ≠ 0x7D)
    {members : List (Reading × Reading)}
    (h : readMembers fuel (room - 1) (c :: s) = (members, close, rest)) :
    readValue (fuel + 1) room (Char.ofNat 0x7B :: c :: s) =
      (guardDepth room (.object members close), rest) :=
  (ValueStep.object (skipSpace_of_not_space (by decide)) rfl (skipSpace_of_not_space hspace) hclose
    h).eq

theorem readName_stringChars (k : String) (rest : List Char) :
    readName (stringChars k ++ rest) = (.string ⟨.ok k, .ok ()⟩, some rest) := by
  have hread : readString (k.toList.flatMap escapeChar ++ quote :: rest) =
      (⟨.ok k, .ok ()⟩, rest) := readString_escapes k rest
  simp only [stringChars, List.cons_append, List.append_assoc, List.nil_append]
  rw [readName, skipSpace_of_not_space (by decide)]
  simp only [hread]
  rfl

end Readers

theorem itemsChars_cons (j : Json) (items : List Json) (h : isExact j = true) :
    ∃ c s, itemsChars (j :: items) = c :: s ∧ isSpace c = false ∧ c ≠ ']' := by
  obtain ⟨c, s, hc, hspace, hclose⟩ := chars_cons j h
  cases items with
  | nil => exact ⟨c, s, by rw [itemsChars, hc], hspace, hclose⟩
  | cons k items =>
    exact ⟨c, s ++ ',' :: itemsChars (k :: items), by simp [itemsChars, hc], hspace, hclose⟩

theorem membersChars_cons (m : String × Json) (members : List (String × Json)) :
    ∃ s, membersChars (m :: members) = quote :: s := by
  cases members with
  | nil => exact ⟨_, rfl⟩
  | cons n members => exact ⟨_, rfl⟩

/-! ## Values -/

mutual

/-- The tree that is read from a written value. -/
theorem readValue_chars : ∀ (j : Json) (fuel room : Nat) (rest : List Char),
    isExact j = true → depth j ≤ room → (chars j).length ≤ fuel → EndsNumber rest →
    readValue fuel room (chars j ++ rest) = (reading j, some rest)
  | .null, fuel + 1, _, _, _, _, _, _ => by rfl
  | .bool true, fuel + 1, _, _, _, _, _, _ => by rfl
  | .bool false, fuel + 1, _, _, _, _, _, _ => by rfl
  | .number (.whole n fits), 0, _, _, _, _, hfuel, _ => by
    obtain ⟨c, s, hc, -⟩ := intChars_cons n
    simp [chars, numberChars, hc] at hfuel
  | .number (.whole n fits), fuel + 1, room, rest, _, _, _, hrest => by
    obtain ⟨c, s, hc, hnumeral⟩ := intChars_cons n
    have hread := readNumber_intChars n fits hrest
    rw [hc] at hread
    simp only [chars, numberChars, hc, List.cons_append] at *
    rw [readValue_numeral hnumeral, hread]
    rfl
  | .string k, fuel + 1, room, rest, _, _, _, _ => by
    have hread := readString_escapes k rest
    simp only [chars, stringChars, List.cons_append, List.append_assoc, List.nil_append]
    rw [readValue_quote, hread]
    rfl
  | .array [], fuel + 1, room + 1, _, _, _, _, _ => by rfl
  | .array (j :: items), fuel + 1, room + 1, rest, hexact, hdepth, hfuel, _ => by
    have hexact : areExact (j :: items) = true := hexact
    have hdepth : itemsDepth (j :: items) ≤ room := Nat.le_of_succ_le_succ hdepth
    have hfuel : (itemsChars (j :: items)).length < fuel := by
      simp only [chars, List.length_cons, List.length_append, List.length_nil] at hfuel
      omega
    have hitems := readItems_itemsChars (j :: items) fuel room rest (by simp) hexact hdepth hfuel
    obtain ⟨c, s, hc, hspace, hclose⟩ := itemsChars_cons j items (by simp_all [areExact])
    rw [hc] at hitems
    simp only [chars, hc, List.cons_append, List.append_assoc, List.nil_append] at *
    exact readValue_bracket hspace hclose hitems
  | .object [], fuel + 1, room + 1, _, _, _, _, _ => by rfl
  | .object (m :: members), fuel + 1, room + 1, rest, hexact, hdepth, hfuel, _ => by
    have hexact : membersExact (m :: members) = true := hexact
    have hdepth : membersDepth (m :: members) ≤ room := Nat.le_of_succ_le_succ hdepth
    have hfuel : (membersChars (m :: members)).length < fuel := by
      simp only [chars, List.length_cons, List.length_append, List.length_nil] at hfuel
      omega
    have hmembers :=
      readMembers_membersChars (m :: members) fuel room rest (by simp) hexact hdepth hfuel
    obtain ⟨s, hc⟩ := membersChars_cons m members
    rw [hc] at hmembers
    simp only [chars, hc, List.cons_append, List.append_assoc, List.nil_append] at *
    exact readValue_brace (by decide) (by decide) hmembers
  | .array items, fuel, 0, _, _, _, _, _ => by
    contradiction
  | .object members, fuel, 0, _, _, _, _, _ => by
    contradiction

/-- The trees that are read from written items, up to the bracket behind them. -/
theorem readItems_itemsChars : ∀ (items : List Json) (fuel room : Nat) (rest : List Char),
    items ≠ [] → areExact items = true → itemsDepth items ≤ room →
    (itemsChars items).length < fuel →
    readItems fuel room (itemsChars items ++ ']' :: rest) = (itemReadings items, none, some rest)
  | [], _, _, _, hne, _, _, _ => absurd rfl hne
  | [j], fuel + 1, room, rest, _, hexact, hdepth, hfuel => by
    have hread := readValue_chars j fuel room (']' :: rest)
      (by simp_all [areExact]) (by simp_all [itemsDepth])
      (by simpa [itemsChars] using Nat.le_of_lt_succ hfuel)
      (endsNumber_of_bracket (.inr (.inl rfl)))
    exact (ItemsStep.last hread (skipSpace_of_not_space (by decide))).eq
  | j :: k :: items, fuel + 1, room, rest, _, hexact, hdepth, hfuel => by
    rw [areExact, Bool.and_eq_true] at hexact
    rw [itemsDepth, Nat.max_le] at hdepth
    simp only [itemsChars, List.length_append, List.length_cons] at hfuel
    have hread := readValue_chars j fuel room
      (',' :: (itemsChars (k :: items) ++ ']' :: rest)) hexact.1 hdepth.1 (by omega)
      (endsNumber_of_bracket (.inl rfl))
    have hmore := readItems_itemsChars (k :: items) fuel room rest
      (by simp) hexact.2 hdepth.2 (by omega)
    simp only [itemsChars, List.append_assoc, List.cons_append]
    exact (ItemsStep.more hread (skipSpace_of_not_space (by decide)) hmore).eq

/-- The trees that are read from written members, up to the bracket behind them. -/
theorem readMembers_membersChars : ∀ (members : List (String × Json)) (fuel room : Nat)
    (rest : List Char), members ≠ [] → membersExact members = true →
    membersDepth members ≤ room → (membersChars members).length < fuel →
    readMembers fuel room (membersChars members ++ Char.ofNat 0x7D :: rest) =
      (memberReadings members, none, some rest)
  | [], _, _, _, hne, _, _, _ => absurd rfl hne
  | [(k, j)], fuel + 1, room, rest, _, hexact, hdepth, hfuel => by
    simp only [membersChars, List.length_append, List.length_cons] at hfuel
    have hread := readValue_chars j fuel room (Char.ofNat 0x7D :: rest)
      (by simp_all [membersExact]) (by simp_all [membersDepth]) (by omega)
      (endsNumber_of_bracket (.inr (.inr rfl)))
    simp only [membersChars, List.append_assoc, List.cons_append]
    exact (MembersStep.last (readName_stringChars k _) (skipSpace_of_not_space (by decide)) hread
      (skipSpace_of_not_space (by decide)) rfl).eq
  | (k, j) :: m :: members, fuel + 1, room, rest, _, hexact, hdepth, hfuel => by
    rw [membersExact, Bool.and_eq_true] at hexact
    rw [membersDepth, Nat.max_le] at hdepth
    simp only [membersChars, List.length_append, List.length_cons] at hfuel
    have hread := readValue_chars j fuel room
      (',' :: (membersChars (m :: members) ++ Char.ofNat 0x7D :: rest)) hexact.1 hdepth.1
      (by omega) (endsNumber_of_bracket (.inl rfl))
    have hmore := readMembers_membersChars (m :: members) fuel room rest
      (by simp) hexact.2 hdepth.2 (by omega)
    simp only [membersChars, List.append_assoc, List.cons_append]
    exact (MembersStep.more (readName_stringChars k _) (skipSpace_of_not_space (by decide)) hread
      (skipSpace_of_not_space (by decide)) hmore).eq

end

/-- The written form of a value is read back whole. -/
theorem ofChars_chars {j : Json} (hexact : isExact j = true) (hdepth : depth j ≤ nestingLimit) :
    Reading.ofChars (chars j) = (reading j, true) := by
  have hend : EndsNumber [] := by simp [EndsNumber]
  have hread := readValue_chars j (2 * (chars j).length + 2) nestingLimit [] hexact hdepth
    (by omega) hend
  rw [List.append_nil] at hread
  rw [Reading.ofChars, hread]
  rfl

/-- A decoder that takes the tree of a value reads its written form as the same. -/
theorem decode_render {α : Type} {decoder : Reading → Except ReadError α} {j : Json} {x : α}
    (hexact : isExact j = true) (hdepth : depth j ≤ nestingLimit)
    (h : decoder (reading j) = .ok x) : decode decoder (render j) = .ok x := by
  simp only [decode, render, String.toList_ofList, ofChars_chars hexact hdepth, h]
  rfl

theorem ofMembers_of_ascending {members : List (String × Json)}
    (h : members.Pairwise fun a b => compare a.1 b.1 = .lt) :
    ofMembers members = .object members := by
  rw [ofMembers, SortedMap.entries_ofList h]

mutual

/-- The value of the tree of a value. -/
theorem value_reading : ∀ j : Json, isCanonical j = true → (reading j).value = .ok j
  | .null, _ | .bool _, _ | .number _, _ | .string _, _ => rfl
  | .array items, h => by
    simp only [reading, Reading.value, itemValues_itemReadings items h]
    rfl
  | .object members, h => by
    rw [isCanonical, Bool.and_eq_true, decide_eq_true_iff] at h
    simp only [reading, Reading.value, memberValues_memberReadings members h.2]
    exact congrArg Except.ok (ofMembers_of_ascending h.1)

theorem itemValues_itemReadings : ∀ items : List Json, areCanonical items = true →
    itemValues (itemReadings items) = .ok items
  | [], _ => rfl
  | j :: rest, h => by
    rw [areCanonical, Bool.and_eq_true] at h
    simp only [itemReadings, itemValues, value_reading j h.1, itemValues_itemReadings rest h.2]
    rfl

theorem memberValues_memberReadings : ∀ members : List (String × Json),
    membersCanonical members = true → memberValues (memberReadings members) = .ok members
  | [], _ => rfl
  | (k, j) :: rest, h => by
    rw [membersCanonical, Bool.and_eq_true] at h
    simp only [memberReadings, memberValues, value_reading j h.1,
      memberValues_memberReadings rest h.2]
    rfl

end

end LifecycleGuard.Json
