import LifecycleGuard.Proofs.Text.Case
import LifecycleGuard.Symbol

/-!
# The names that tokens leave

`Symbol.bare` trims, takes the leading colons away and trims again.  What is left is described
without these steps, by the token it is left of.

**Parts.**  `Leaves` cuts a token into blanks, colons, blanks, the name and blanks.  Every token can
be cut so, and its name is the name of every such cut (`exists_leaves`, `Leaves.bareChars_eq`).

**Two tokens that go wrong.**  A `Void` token is made of colons and blanks and leaves nothing.  A
`Broken` one has blanks among its colons, and leaves a name with a colon in front.  `reads_bare`
sums up what a token leaves, and `canonical_iff` which names are left as they are.

**Case.**  Lower-casing brings no blank and no colon to the ends of a name, so that normalizing
twice is normalizing once for all tokens but the broken ones (`normalize_normalize_iff`).
-/

namespace LifecycleGuard.Symbol

open Text (Blanks Unpadded trimmed isBlank)

/-- A text of colons only. -/
def Colons (s : List Char) : Prop := ∀ c ∈ s, c = ':'

/-- A token is cut into blanks, colons, blanks, the name and blanks.  A colon in front of the name
is behind other colons and blanks, or else it would have been cut off with these. -/
structure Leaves (s name pad colons gap behind : List Char) : Prop where
  split : s = pad ++ colons ++ gap ++ name ++ behind
  blanks : Blanks pad ∧ Blanks gap ∧ Blanks behind
  allColons : Colons colons
  unpadded : Unpadded name
  colon : name.head? = some ':' → colons ≠ [] ∧ gap ≠ []

/-! ## What is left of a token -/

theorem not_blanks_colon (s : List Char) : ¬ Blanks (':' :: s) := fun h => by
  have hcolon := h ':' List.mem_cons_self
  rw [show isBlank ':' = false by decide] at hcolon
  cases hcolon

/-- Blanks in front of a text are not the colon that would be in front without them. -/
theorem head?_ne_colon {gap s : List Char} (hgap : Blanks gap)
    (hs : s.head? = some ':' → gap ≠ []) : (gap ++ s).head? ≠ some ':' := by
  intro h
  cases gap with
  | nil => exact hs h rfl
  | cons c gap =>
      obtain rfl : c = ':' := by simpa using h
      exact not_blanks_colon gap hgap

theorem dropWhile_colons {colons s : List Char} (hcolons : Colons colons)
    (hs : s.head? ≠ some ':') : (colons ++ s).dropWhile (· = ':') = s := by
  rw [List.dropWhile_append_of_pos fun c hc => decide_eq_true (hcolons c hc)]
  cases s with
  | nil => rfl
  | cons c s => exact List.dropWhile_cons_of_neg (by simpa using hs)

theorem head?_dropWhile_colons (s : List Char) : (s.dropWhile (· = ':')).head? ≠ some ':' := by
  intro h
  have hhead := List.head?_dropWhile_not (· = ':') s
  rw [h] at hhead
  simp at hhead

/-- Every token leaves its name. -/
theorem exists_leaves (s : List Char) :
    ∃ pad colons gap behind, Leaves s (bareChars s) pad colons gap behind := by
  obtain ⟨htrimmed, pad, after, hpad, hafter, hs⟩ := Text.trimmed_spec s
  obtain ⟨hname, gap, behind, hgap, hbehind, hrest⟩ :=
    Text.trimmed_spec ((trimmed s).dropWhile (· = ':'))
  have hcut : trimmed s = (trimmed s).takeWhile (· = ':') ++ (gap ++ bareChars s ++ behind) := by
    rw [bareChars, ← hrest, List.takeWhile_append_dropWhile]
  generalize hcolons : (trimmed s).takeWhile (· = ':') = colons at hcut
  refine ⟨pad, colons, gap, behind ++ after, ?_, ⟨hpad, hgap, ?_⟩, fun c hc => ?_, hname,
    fun hcolon => ?_⟩
  · calc s = pad ++ trimmed s ++ after := hs
      _ = pad ++ (colons ++ (gap ++ bareChars s ++ behind)) ++ after := by rw [← hcut]
      _ = pad ++ colons ++ gap ++ bareChars s ++ (behind ++ after) := by simp
  · exact hbehind.append hafter
  · rw [← hcolons] at hc
    exact of_decide_eq_true (List.mem_takeWhile_imp (p := fun q => decide (q = ':')) hc)
  · have hgap_ne : gap ≠ [] := by
      rintro rfl
      refine head?_dropWhile_colons (trimmed s) ?_
      rw [hrest, List.nil_append, List.head?_append, ← bareChars, hcolon]
      rfl
    refine ⟨?_, hgap_ne⟩
    rintro rfl
    -- Without a colon the gap would be padding of the trimmed text.
    obtain ⟨c, gap, rfl⟩ := List.exists_cons_of_ne_nil hgap_ne
    have hnot := htrimmed.head c (by rw [hcut]; rfl)
    rw [hgap c List.mem_cons_self] at hnot
    cases hnot

/-- Colons with a text behind that does not end in a blank are unpadded. -/
theorem unpadded_colons {colons s : List Char} (hcolons : Colons colons) (hne : colons ≠ [])
    (hlast : ∀ c, s.getLast? = some c → isBlank c = false) : Unpadded (colons ++ s) := by
  have hcolon : ∀ c ∈ colons, isBlank c = false := fun c hc => by
    rw [hcolons c hc]
    decide
  constructor
  · intro c hc
    obtain ⟨d, colons, rfl⟩ := List.exists_cons_of_ne_nil hne
    obtain rfl : d = c := by simpa using hc
    exact hcolon d List.mem_cons_self
  · intro c hc
    rw [List.getLast?_append] at hc
    cases hs : s.getLast? with
    | none =>
        rw [hs] at hc
        exact hcolon c (List.mem_of_getLast? hc)
    | some d =>
        rw [hs] at hc
        obtain rfl : d = c := by simpa using hc
        exact hlast d hs

/-- What a token leaves is its name. -/
theorem Leaves.bareChars_eq {s name pad colons gap behind : List Char}
    (h : Leaves s name pad colons gap behind) : bareChars s = name := by
  obtain ⟨hs, ⟨hpad, hgap, hbehind⟩, hcolons, hname, hcolon⟩ := h
  -- The core is what is left of the token between the blanks at its ends.
  have hbare : ∀ {core before after}, Unpadded core → Blanks before → Blanks after →
      s = before ++ core ++ after → bareChars s = trimmed (core.dropWhile (· = ':')) := by
    intro core before after hcore hbefore hafter hsplit
    rw [bareChars, Text.trimmed_eq_iff.mpr ⟨hcore, before, after, hbefore, hafter, hsplit⟩]
  by_cases hnone : colons = []
  · have hdrop : name.dropWhile (· = ':') = name :=
      dropWhile_colons (show Colons [] from List.forall_mem_nil _) fun hhead =>
        (hcolon hhead).1 hnone
    rw [hbare hname (hpad.append hgap) hbehind (by rw [hs, hnone]; simp),
      hdrop, Text.trimmed_of_unpadded hname]
  by_cases hvoid : name = []
  · have hcore := unpadded_colons (s := []) hcolons hnone (by simp)
    rw [hbare hcore hpad (hgap.append hbehind) (by rw [hs, hvoid]; simp),
      dropWhile_colons (s := []) hcolons nofun, hvoid]
    rfl
  · have hlast : (gap ++ name).getLast? = name.getLast? := by
      rw [List.getLast?_append, List.getLast?_eq_some_getLast hvoid, Option.some_or]
    have hcore := unpadded_colons (s := gap ++ name) hcolons hnone (hlast ▸ hname.last)
    have hhead : (gap ++ name).head? ≠ some ':' :=
      head?_ne_colon hgap fun hhead => (hcolon hhead).2
    rw [hbare hcore hpad hbehind (by rw [hs]; simp), dropWhile_colons hcolons hhead]
    exact Text.trimmed_eq_iff.mpr ⟨hname, gap, [], hgap, Text.blanks_nil, by simp⟩

/-! ## Tokens that leave nothing, and tokens that leave a colon -/

/-- A token of colons with blanks around them. -/
def Void (s : List Char) : Prop :=
  ∃ pad colons behind, Blanks pad ∧ Colons colons ∧ Blanks behind ∧ s = pad ++ colons ++ behind

/-- A token with blanks among the colons in front of its name: after a colon and blanks there
stands a colon again. -/
def Broken (s : List Char) : Prop :=
  ∃ pad colons gap rest, Blanks pad ∧ (Colons colons ∧ colons ≠ []) ∧ (Blanks gap ∧ gap ≠ []) ∧
    s = pad ++ colons ++ gap ++ ':' :: rest

theorem bareChars_eq_nil_iff {s : List Char} : bareChars s = [] ↔ Void s := by
  constructor
  · intro h
    obtain ⟨pad, colons, gap, behind, hsplit, ⟨hpad, hgap, hbehind⟩, hcolons, -, -⟩ :=
      exists_leaves s
    exact ⟨pad, colons, gap ++ behind, hpad, hcolons, hgap.append hbehind,
      hsplit.trans (by simp [h])⟩
  · rintro ⟨pad, colons, behind, hpad, hcolons, hbehind, rfl⟩
    exact Leaves.bareChars_eq
      { split := by simp
        blanks := ⟨hpad, Text.blanks_nil, hbehind⟩
        allColons := hcolons
        unpadded := Text.unpadded_nil
        colon := nofun }

theorem head?_bareChars_iff {s : List Char} : (bareChars s).head? = some ':' ↔ Broken s := by
  constructor
  · intro h
    obtain ⟨pad, colons, gap, behind, hsplit, ⟨hpad, hgap, -⟩, hcolons, -, hcolon⟩ :=
      exists_leaves s
    obtain ⟨rest, hname⟩ : ∃ rest, bareChars s = ':' :: rest := List.head?_eq_some_iff.mp h
    exact ⟨pad, colons, gap, rest ++ behind, hpad, ⟨hcolons, (hcolon h).1⟩, ⟨hgap, (hcolon h).2⟩,
      hsplit.trans (by simp [hname])⟩
  · rintro ⟨pad, colons, gap, rest, hpad, ⟨hcolons, hcolons_ne⟩, ⟨hgap, hgap_ne⟩, rfl⟩
    obtain ⟨hname, before, behind, hbefore, hbehind, hrest⟩ := Text.trimmed_spec (':' :: rest)
    -- The second colon stands in front of the name, no blank does.
    have hnone : before = [] := by
      cases before with
      | nil => rfl
      | cons c before =>
          obtain rfl : c = ':' := by simpa using (congrArg List.head? hrest).symm
          exact absurd hbefore (not_blanks_colon before)
    subst hnone
    have hleaves : Leaves (pad ++ colons ++ gap ++ ':' :: rest) (trimmed (':' :: rest))
        pad colons gap behind :=
      { split := by simpa using hrest
        blanks := ⟨hpad, hgap, hbehind⟩
        allColons := hcolons
        unpadded := hname
        colon := fun _ => ⟨hcolons_ne, hgap_ne⟩ }
    rw [hleaves.bareChars_eq]
    cases hcut : trimmed (':' :: rest) with
    | nil =>
        rw [hcut] at hrest
        exact absurd (hrest ▸ hbehind) (not_blanks_colon rest)
    | cons c name =>
        rw [hcut] at hrest
        exact (congrArg List.head? hrest).symm

/-! ## Names that are left as they are -/

theorem unpadded_bareChars (s : List Char) : Unpadded (bareChars s) :=
  (Text.trimmed_spec _).1

/-- A name is left as it is, or it gets shorter. -/
theorem bareChars_eq_or_length_lt (s : List Char) :
    bareChars s = s ∨ (bareChars s).length < s.length := by
  obtain ⟨pad, colons, gap, behind, hleaves⟩ := exists_leaves s
  have hlength := congrArg List.length hleaves.split
  simp only [List.length_append] at hlength
  by_cases hlt : (bareChars s).length < s.length
  · exact .inr hlt
  · obtain ⟨rfl, rfl, rfl, rfl⟩ : pad = [] ∧ colons = [] ∧ gap = [] ∧ behind = [] := by
      simp only [← List.length_eq_zero_iff]
      omega
    exact .inl (hleaves.split.trans (by simp)).symm

theorem mem_of_mem_bareChars {s : List Char} {c : Char} (h : c ∈ bareChars s) : c ∈ s := by
  obtain ⟨pad, colons, gap, behind, hleaves⟩ := exists_leaves s
  rw [hleaves.split]
  simp [h]

theorem bareChars_eq_self_iff {s : List Char} :
    bareChars s = s ↔ Unpadded s ∧ s.head? ≠ some ':' := by
  constructor
  · intro h
    refine ⟨h ▸ unpadded_bareChars s, fun hcolon => ?_⟩
    obtain ⟨pad, colons, gap, behind, hleaves⟩ := exists_leaves s
    have hne := (hleaves.colon (by rw [h, hcolon])).1
    have hlength := congrArg List.length hleaves.split
    have hpos := List.length_pos_iff.mpr hne
    simp only [List.length_append, h] at hlength
    omega
  · rintro ⟨hs, hcolon⟩
    have hleaves : Leaves s s [] [] [] [] :=
      { split := by simp
        blanks := ⟨Text.blanks_nil, Text.blanks_nil, Text.blanks_nil⟩
        allColons := List.forall_mem_nil _
        unpadded := hs
        colon := fun h => absurd h hcolon }
    exact hleaves.bareChars_eq

/-! ## Names as strings -/

/-- A name that can be written as it is: it says something, and has neither padding nor a colon in
front. -/
structure Canonical (name : String) : Prop where
  something : name ≠ ""
  unpadded : Unpadded name.toList
  noColon : name.toList.head? ≠ some ':'

@[simp] theorem toList_bare (token : String) : (bare token).toList = bareChars token.toList :=
  String.toList_ofList

@[simp] theorem toList_normalize (token : String) :
    (normalize token).toList = Text.lowered (bareChars token.toList) :=
  String.toList_ofList

theorem bare_eq_self_iff {name : String} :
    bare name = name ↔ Unpadded name.toList ∧ name.toList.head? ≠ some ':' := by
  rw [← String.toList_inj, toList_bare, bareChars_eq_self_iff]

/-- A canonical name is one that is left as it is, and not empty. -/
theorem canonical_iff {name : String} : Canonical name ↔ name ≠ "" ∧ bare name = name := by
  rw [bare_eq_self_iff]
  exact ⟨fun h => ⟨h.something, h.unpadded, h.noColon⟩, fun ⟨h, hpad, hcolon⟩ => ⟨h, hpad, hcolon⟩⟩

instance (name : String) : Decidable (Canonical name) := decidable_of_iff _ canonical_iff.symm

/-- What is to be known of the name of a token. -/
structure Reads (token name : String) : Prop where
  unpadded : Unpadded name.toList
  empty : name = "" ↔ Void token.toList
  colon : name.toList.head? = some ':' ↔ Broken token.toList
  twice : bare name = name ↔ ¬ Broken token.toList

/-- **The name of a token** has no padding.  It is empty if the token is void, and begins with a
colon, which would go in a second time, if the token is broken. -/
theorem reads_bare (token : String) : Reads token (bare token) := by
  have hunpadded : Unpadded (bare token).toList := by
    rw [toList_bare]
    exact unpadded_bareChars _
  have hcolon : (bare token).toList.head? = some ':' ↔ Broken token.toList := by
    rw [toList_bare, head?_bareChars_iff]
  refine ⟨hunpadded, ?_, hcolon, ?_⟩
  · rw [← bareChars_eq_nil_iff, ← String.toList_inj, toList_bare]
    rfl
  · rw [bare_eq_self_iff, ← hcolon]
    exact and_iff_right hunpadded

theorem Reads.canonical_iff {token name : String} (h : Reads token name) :
    Canonical name ↔ ¬ Void token.toList ∧ ¬ Broken token.toList := by
  rw [Symbol.canonical_iff, h.twice, ← h.empty]

/-- **A word is normalized once**, unless a colon is left in front. -/
theorem normalize_normalize_iff {token : String} :
    normalize (normalize token) = normalize token ↔ ¬ Broken token.toList := by
  rw [← String.toList_inj, toList_normalize, toList_normalize, ← head?_bareChars_iff,
    ← Text.head?_lowered_eq_colon_iff]
  have hunpadded := Text.unpadded_lowered (unpadded_bareChars token.toList)
  -- Whatever is cut off a text in lower case, the rest is in lower case.
  have hrest : Text.lowered (bareChars (Text.lowered (bareChars token.toList))) =
      bareChars (Text.lowered (bareChars token.toList)) :=
    Text.lowerAfter_of_settled fun c hc =>
      Text.settled_of_mem_lowered c (mem_of_mem_bareChars hc)
  rw [hrest, bareChars_eq_self_iff]
  exact and_iff_right hunpadded

end LifecycleGuard.Symbol
