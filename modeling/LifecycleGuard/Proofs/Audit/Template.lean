import LifecycleGuard.Audit.Template
import Mathlib.Data.List.TakeWhile

/-!
# What rendering a template changes

A template is looked through once, from left to right, and what is put in for a placeholder is not
looked at again.  So what rendering gives is determined by how the template is cut, and the cut does
not depend on what is put in.

**Names.**  `name?` finds a name behind an opening brace.  `name?_eq_some_iff` says when it does,
and `name?_append_of_some` that more text does not change what was found.

**The cut.**  `Cuts` says of a list of pieces that it is a cut: it spells the template, no name
contains a brace, and nothing that is taken for literal text spells a placeholder.  There is exactly
one such list, and `pieces` finds it (`cuts_iff`).

**Text put together.**  `pieces_append` says when two texts are cut side by side as each is alone,
and so are rendered alone: wherever no opening brace that is left open in the first is closed by the
second.
-/

namespace LifecycleGuard.Template

/-! ## Names -/

/-- There is no brace in a text. -/
def NoBrace (s : List Char) : Prop := ∀ c ∈ s, isBrace c = false

theorem isBrace_opening : isBrace opening = true := by decide

theorem isBrace_closing : isBrace closing = true := by decide

theorem closing_ne_opening : closing ≠ opening := by decide

/-- The first brace of a text, if there is one. -/
theorem noBrace_or_first (s : List Char) :
    NoBrace s ∨ ∃ name c rest, s = name ++ c :: rest ∧ NoBrace name ∧ isBrace c = true := by
  induction s with
  | nil => exact .inl (List.forall_mem_nil _)
  | cons c s ih =>
      cases hc : isBrace c with
      | true => exact .inr ⟨[], c, s, rfl, List.forall_mem_nil _, hc⟩
      | false =>
          rcases ih with hs | ⟨name, d, rest, rfl, hname, hd⟩
          · exact .inl (List.forall_mem_cons.mpr ⟨hc, hs⟩)
          · exact .inr ⟨c :: name, d, rest, rfl, List.forall_mem_cons.mpr ⟨hc, hname⟩, hd⟩

theorem name?_noBrace {s : List Char} (h : NoBrace s) : name? s = none := by
  have hdrop : s.dropWhile (fun c => !isBrace c) = [] :=
    List.dropWhile_eq_nil_iff.mpr fun c hc => by simp [h c hc]
  rw [name?, hdrop]

/-- What stands up to the first brace is a name if that brace is the closing one. -/
theorem name?_first {name rest : List Char} {c : Char} (hname : NoBrace name)
    (hc : isBrace c = true) :
    name? (name ++ c :: rest) = if c = closing then some (name, rest) else none := by
  have hpos : ∀ d ∈ name, (!isBrace d) = true := fun d hd => by simp [hname d hd]
  have hdrop : (name ++ c :: rest).dropWhile (fun c => !isBrace c) = c :: rest := by
    rw [List.dropWhile_append_of_pos hpos, List.dropWhile_cons_of_neg (by simp [hc])]
  have htake : (name ++ c :: rest).takeWhile (fun c => !isBrace c) = name := by
    rw [List.takeWhile_append_of_pos hpos, List.takeWhile_cons_of_neg (by simp [hc]),
      List.append_nil]
  simp only [name?, hdrop, htake]

theorem name?_eq_some_iff {s name rest : List Char} :
    name? s = some (name, rest) ↔ s = name ++ closing :: rest ∧ NoBrace name := by
  constructor
  · intro h
    rcases noBrace_or_first s with hs | ⟨name', c, rest', rfl, hname, hc⟩
    · rw [name?_noBrace hs] at h
      cases h
    · rw [name?_first hname hc] at h
      split at h
      · rename_i hclosing
        cases h
        exact ⟨by rw [hclosing], hname⟩
      · cases h
  · rintro ⟨rfl, hname⟩
    rw [name?_first hname isBrace_closing, if_pos rfl]

/-- A text that begins with an opening brace has no name in front. -/
theorem name?_opening (s : List Char) : name? (opening :: s) = none := by
  show name? ([] ++ opening :: s) = none
  rw [name?_first (List.forall_mem_nil _) isBrace_opening, if_neg closing_ne_opening.symm]

/-- More text does not change a name that was found. -/
theorem name?_append_of_some {s name rest : List Char} (h : name? s = some (name, rest))
    (t : List Char) : name? (s ++ t) = some (name, rest ++ t) := by
  obtain ⟨rfl, hname⟩ := name?_eq_some_iff.mp h
  exact name?_eq_some_iff.mpr ⟨by simp, hname⟩

/-- Where no name was found more text gives one only behind a text without braces, and only if it
closes the brace. -/
theorem name?_append_of_none {s t : List Char} (h : name? s = none)
    (ht : NoBrace s → name? t = none) : name? (s ++ t) = none := by
  rcases noBrace_or_first s with hs | ⟨name, c, rest, rfl, hname, hc⟩
  · rcases noBrace_or_first t with htn | ⟨name, c, rest, rfl, hname, hc⟩
    · exact name?_noBrace (List.forall_mem_append.mpr ⟨hs, htn⟩)
    · have hclosing := ht hs
      rw [name?_first hname hc] at hclosing
      rw [← List.append_assoc, name?_first (List.forall_mem_append.mpr ⟨hs, hname⟩) hc]
      split at hclosing
      · cases hclosing
      · rename_i hne
        rw [if_neg hne]
  · rw [name?_first hname hc] at h
    rw [List.append_assoc, List.cons_append, name?_first hname hc]
    split at h
    · cases h
    · rename_i hne
      rw [if_neg hne]

/-! ## The cut -/

section

variable {c : Char} {s name rest : List Char}

@[simp] theorem pieces_nil : pieces [] = [] := by
  rw [pieces]

theorem pieces_cons (h : c = opening → name? s = none) :
    pieces (c :: s) = .literal c :: pieces s := by
  rw [pieces]
  split
  · rename_i hc
    split
    · rename_i hsome
      rw [h hc] at hsome
      cases hsome
    · rfl
  · rfl

theorem pieces_opening (h : name? s = some (name, rest)) :
    pieces (opening :: s) = .placeholder name :: pieces rest := by
  rw [pieces, if_pos rfl]
  split
  · rename_i hsome
    rw [h] at hsome
    cases hsome
    rfl
  · rename_i hnone
    rw [h] at hnone
    cases hnone

end

/-- How a piece is written. -/
def Piece.text : Piece → List Char
  | .literal c => [c]
  | .placeholder name => opening :: name ++ [closing]

/-- The pieces of text that is taken as it is. -/
def literals (s : List Char) : List Piece := s.map .literal

/-- A cut of a text: nothing is lost, names are names, and every placeholder is one. -/
structure Cuts (s : List Char) (ps : List Piece) : Prop where
  spells : ps.flatMap Piece.text = s
  names : ∀ name, .placeholder name ∈ ps → NoBrace name
  /-- Nothing that is taken for literal text spells a placeholder. -/
  complete : ∀ before name after, NoBrace name →
    ps ≠ before ++ literals (opening :: name ++ [closing]) ++ after

theorem Cuts.of_cons {s : List Char} {p : Piece} {ps : List Piece} (h : Cuts s (p :: ps)) :
    Cuts (ps.flatMap Piece.text) ps where
  spells := rfl
  names name hmem := h.names name (List.mem_cons_of_mem _ hmem)
  complete before name after hname heq :=
    h.complete (p :: before) name after hname (by rw [heq]; simp)

/-- Text without an opening brace in it is cut character by character. -/
theorem literals_of_spells {t rest : List Char} (ht : opening ∉ t) {ps : List Piece}
    (h : ps.flatMap Piece.text = t ++ rest) :
    ∃ qs, ps = literals t ++ qs ∧ qs.flatMap Piece.text = rest := by
  induction t generalizing ps with
  | nil => exact ⟨ps, rfl, h⟩
  | cons c t ih =>
      rw [List.mem_cons, not_or] at ht
      obtain ⟨hc, ht⟩ := ht
      cases ps with
      | nil => cases h
      | cons p ps =>
          cases p with
          | literal d =>
              simp only [List.flatMap_cons, Piece.text, List.cons_append, List.nil_append,
                List.cons.injEq] at h
              obtain ⟨rfl, h⟩ := h
              obtain ⟨qs, rfl, hqs⟩ := ih ht h
              exact ⟨qs, rfl, hqs⟩
          | placeholder name =>
              simp only [List.flatMap_cons, Piece.text, List.cons_append, List.cons.injEq] at h
              exact absurd h.1 hc

theorem opening_not_mem_name {name : List Char} (h : NoBrace name) :
    opening ∉ name ++ [closing] := by
  intro hmem
  rcases List.mem_append.mp hmem with hname | hclosing
  · have hbrace := h opening hname
    rw [isBrace_opening] at hbrace
    cases hbrace
  · exact closing_ne_opening (List.mem_singleton.mp hclosing).symm

/-- A cut is the one that is found. -/
theorem Cuts.eq_pieces {s : List Char} {ps : List Piece} (h : Cuts s ps) : ps = pieces s := by
  induction ps generalizing s with
  | nil =>
      obtain rfl : [] = s := h.spells
      exact pieces_nil.symm
  | cons p ps ih =>
      have hrest := ih h.of_cons
      obtain rfl := h.spells
      cases p with
      | literal c =>
          show _ = pieces (c :: ps.flatMap Piece.text)
          rw [pieces_cons, ← hrest]
          rintro rfl
          -- A name behind the brace would be literal text up to its closing brace.
          rw [Option.eq_none_iff_forall_not_mem]
          rintro ⟨name, rest⟩ hsome
          obtain ⟨hspells, hname⟩ := name?_eq_some_iff.mp hsome
          have hliteral : ps.flatMap Piece.text = (name ++ [closing]) ++ rest := by
            rw [hspells]
            simp
          obtain ⟨qs, rfl, -⟩ := literals_of_spells (opening_not_mem_name hname) hliteral
          exact h.complete [] name qs hname (by simp [literals])
      | placeholder name =>
          have hname : name? (name ++ [closing] ++ ps.flatMap Piece.text)
              = some (name, ps.flatMap Piece.text) :=
            name?_eq_some_iff.mpr ⟨by simp, h.names name List.mem_cons_self⟩
          show _ = pieces (opening :: (name ++ [closing] ++ ps.flatMap Piece.text))
          rw [pieces_opening hname, ← hrest]

/-- What is found spells the text. -/
theorem spells_pieces (s : List Char) : (pieces s).flatMap Piece.text = s := by
  fun_induction pieces s with
  | case1 => rfl
  | case2 rest name after h _ ih =>
      obtain ⟨rfl, -⟩ := name?_eq_some_iff.mp h
      simp [Piece.text, ih]
  | case3 rest h ih => simp [Piece.text, ih]
  | case4 c rest h ih => simp [Piece.text, ih]

theorem names_pieces (s : List Char) (name : List Char) (h : .placeholder name ∈ pieces s) :
    NoBrace name := by
  fun_induction pieces s with
  | case1 => cases h
  | case2 rest found after hfound _ ih =>
      rcases List.mem_cons.mp h with heq | hmem
      · cases heq
        exact (name?_eq_some_iff.mp hfound).2
      · exact ih hmem
  | case3 rest _ ih => exact ih ((List.mem_cons.mp h).resolve_left nofun)
  | case4 c rest _ ih => exact ih ((List.mem_cons.mp h).resolve_left nofun)

/-- From any of its pieces on, the cut of a text is the cut of what is left. -/
theorem pieces_of_append {s : List Char} {before after : List Piece}
    (h : pieces s = before ++ after) : pieces (after.flatMap Piece.text) = after := by
  induction before generalizing s with
  | nil => rw [← List.nil_append after, ← h, spells_pieces]
  | cons p before ih =>
      cases s with
      | nil =>
          rw [pieces_nil] at h
          cases h
      | cons c s =>
          by_cases hname : c = opening → name? s = none
          · rw [pieces_cons hname] at h
            exact ih (List.cons.inj h).2
          · obtain ⟨rfl, hne⟩ := Classical.not_imp.mp hname
            obtain ⟨⟨name, rest⟩, hsome⟩ := Option.ne_none_iff_exists'.mp hne
            rw [pieces_opening hsome] at h
            exact ih (List.cons.inj h).2

theorem cuts_pieces (s : List Char) : Cuts s (pieces s) where
  spells := spells_pieces s
  names := names_pieces s
  complete before name after hname h := by
    rw [List.append_assoc] at h
    have hrest := pieces_of_append h
    have hsome : name? (name ++ closing :: after.flatMap Piece.text)
        = some (name, after.flatMap Piece.text) := name?_eq_some_iff.mpr ⟨rfl, hname⟩
    have htext : (literals (opening :: name ++ [closing]) ++ after).flatMap Piece.text
        = opening :: (name ++ closing :: after.flatMap Piece.text) := by
      simp [literals, List.flatMap_map, Piece.text]
    rw [htext, pieces_opening hsome] at hrest
    cases hrest

/-- **A text has one cut.** -/
theorem cuts_iff {s : List Char} {ps : List Piece} : Cuts s ps ↔ ps = pieces s := by
  constructor
  · exact Cuts.eq_pieces
  · rintro rfl
    exact cuts_pieces s

/-! ## Text put together -/

/-- A text without an opening brace, or whose last one is closed. -/
def Closed (s : List Char) : Prop :=
  ∀ before behind, s = before ++ opening :: behind → opening ∉ behind → closing ∈ behind

/-- An opening brace of a closed text is not the last brace. -/
theorem Closed.not_noBrace {s before behind : List Char} (h : Closed s)
    (hs : s = before ++ opening :: behind) : ¬ NoBrace behind := by
  intro hnone
  have hopening : opening ∉ behind := fun hmem => by
    have hbrace := hnone opening hmem
    rw [isBrace_opening] at hbrace
    cases hbrace
  have hbrace := hnone closing (h before behind hs hopening)
  rw [isBrace_closing] at hbrace
  cases hbrace

/-- Two texts are cut side by side as each is alone, unless a brace that the first leaves open is
closed by the second. -/
theorem pieces_append {a b : List Char}
    (h : ∀ before behind, a = before ++ opening :: behind → NoBrace behind → name? b = none) :
    pieces (a ++ b) = pieces a ++ pieces b := by
  fun_induction pieces a with
  | case1 => rfl
  | case2 rest name after hsome _ ih =>
      obtain ⟨rfl, -⟩ := name?_eq_some_iff.mp hsome
      have hafter := ih fun before behind hsplit =>
        h (opening :: name ++ closing :: before) behind (by simp [hsplit])
      rw [List.cons_append, pieces_opening (name?_append_of_some hsome b), hafter,
        List.cons_append]
  | case3 rest hnone ih =>
      have hrest := ih fun before behind hsplit =>
        h (opening :: before) behind (by rw [hsplit, List.cons_append])
      have hname := name?_append_of_none hnone (h [] rest rfl)
      rw [List.cons_append, pieces_cons fun _ => hname, hrest, List.cons_append]
  | case4 c rest hc ih =>
      have hrest := ih fun before behind hsplit =>
        h (c :: before) behind (by rw [hsplit, List.cons_append])
      rw [List.cons_append, pieces_cons fun heq => absurd heq hc, hrest, List.cons_append]

/-- A placeholder is one wherever it stands, and the text around it is cut as it is alone. -/
theorem pieces_around {name : List Char} (hname : NoBrace name) (a b : List Char) :
    pieces (a ++ (opening :: name ++ [closing]) ++ b)
      = pieces a ++ .placeholder name :: pieces b := by
  have hsome : name? (name ++ [closing] ++ b) = some (name, b) :=
    name?_eq_some_iff.mpr ⟨by simp, hname⟩
  have hb : pieces ((opening :: name ++ [closing]) ++ b) = .placeholder name :: pieces b :=
    pieces_opening hsome
  rw [List.append_assoc, pieces_append, hb]
  -- Whatever is open in front stays literal, since an opening brace follows.
  intro _ _ _ _
  exact name?_opening _

/-! ## Rendering -/

section

variable {lookup : String → Option String}

/-- A name that is not known is left as it is written. -/
theorem render_of_unknown {ps : List Piece}
    (h : ∀ name, .placeholder name ∈ ps → lookup (String.ofList name) = none) :
    ps.flatMap (Piece.render lookup) = ps.flatMap Piece.text := by
  rw [List.flatMap_def, List.flatMap_def, List.map_congr_left fun p hp => ?_]
  cases p with
  | literal c => rfl
  | placeholder name => rw [Piece.render, h name hp, Piece.text]

theorem ofList_render_placeholder (name : List Char) :
    String.ofList (Piece.render lookup (.placeholder name))
      = (lookup (String.ofList name)).getD (String.ofList (opening :: name ++ [closing])) := by
  cases hvalue : lookup (String.ofList name) with
  | none => rw [Piece.render, hvalue, Option.getD_none]
  | some value => rw [Piece.render, hvalue, Option.getD_some, String.ofList_toList]

theorem render_around {name : List Char} (hname : NoBrace name) (a b : String) :
    render lookup (a ++ String.ofList (opening :: name ++ [closing]) ++ b)
      = render lookup a
        ++ (lookup (String.ofList name)).getD (String.ofList (opening :: name ++ [closing]))
        ++ render lookup b := by
  have hpieces : pieces (a ++ String.ofList (opening :: name ++ [closing]) ++ b).toList
      = pieces a.toList ++ .placeholder name :: pieces b.toList := by
    simp only [String.toList_append, String.toList_ofList]
    exact pieces_around hname a.toList b.toList
  rw [render, hpieces, List.flatMap_append, List.flatMap_cons, String.ofList_append,
    String.ofList_append, ofList_render_placeholder, ← String.append_assoc]
  rfl

theorem render_append {a b : String} (h : Closed a.toList) :
    render lookup (a ++ b) = render lookup a ++ render lookup b := by
  have hpieces : pieces (a.toList ++ b.toList) = pieces a.toList ++ pieces b.toList :=
    pieces_append fun _ _ hsplit hnone => absurd hnone (h.not_noBrace hsplit)
  rw [render, String.toList_append, hpieces, List.flatMap_append, String.ofList_append]
  rfl

end

/-- **Rendering replaces the placeholders and nothing else.**  A template has one cut, whatever is
looked up, and what is rendered are its pieces with each placeholder replaced.  A template none of
whose names is known is left as it is.  What a placeholder is replaced by is not looked at again,
and neither does it change what is made of the text around it.  Behind a text that is closed
anything is rendered as it is alone. -/
theorem render_substitutes (lookup : String → Option String) :
    (∀ template : String, ∃ ps, (∀ qs, Cuts template.toList qs ↔ qs = ps) ∧
      render lookup template = String.ofList (ps.flatMap (Piece.render lookup)) ∧
      ((∀ name, .placeholder name ∈ ps → lookup (String.ofList name) = none) →
        render lookup template = template)) ∧
    (∀ (a : String) (name : List Char) (b : String), NoBrace name →
      render lookup (a ++ String.ofList (opening :: name ++ [closing]) ++ b)
        = render lookup a
          ++ (lookup (String.ofList name)).getD (String.ofList (opening :: name ++ [closing]))
          ++ render lookup b) ∧
    ∀ a b : String, Closed a.toList →
      render lookup (a ++ b) = render lookup a ++ render lookup b := by
  refine ⟨fun template => ⟨pieces template.toList, fun qs => cuts_iff, rfl, fun h => ?_⟩,
    fun a name b hname => render_around hname a b, fun a b h => render_append h⟩
  rw [render, render_of_unknown h, spells_pieces, String.ofList_toList]

/-- What is put in may look like a placeholder, and braces around one stay. -/
example :
    render
      (fun name => if name = "a" then some "\x7bb\x7d" else if name = "b" then some "x" else none)
      "\x7b\x7ba\x7d\x7b\x7d\x7d \x7bb\x7d \x7bb" = "\x7b\x7bb\x7d\x7b\x7d\x7d x \x7bb" := by
  cbv

end LifecycleGuard.Template
