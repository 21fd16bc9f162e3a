import LifecycleGuard.Text.Blank
import Mathlib.Data.List.TakeWhile

/-!
# Trimming

What is left of a text when it is trimmed is the one text without blanks at its ends from which it
can be had by putting blanks around it (`trimmed_eq_iff`).  That a text trimmed twice is the text
trimmed once, and that trimming never makes a text longer, are read off from this.
-/

namespace LifecycleGuard.Text

/-- A text of blanks only. -/
def Blanks (s : List Char) : Prop := ∀ c ∈ s, isBlank c = true

/-- A text without a blank at either end. -/
structure Unpadded (s : List Char) : Prop where
  head : ∀ c, s.head? = some c → isBlank c = false
  last : ∀ c, s.getLast? = some c → isBlank c = false

theorem blanks_nil : Blanks [] := List.forall_mem_nil _

theorem Blanks.append {s t : List Char} (hs : Blanks s) (ht : Blanks t) : Blanks (s ++ t) :=
  List.forall_mem_append.mpr ⟨hs, ht⟩

theorem unpadded_nil : Unpadded [] := ⟨nofun, nofun⟩

/-- Leading blanks are what `dropBlanks` takes away. -/
theorem blanks_append_dropBlanks (s : List Char) :
    ∃ before, Blanks before ∧ s = before ++ dropBlanks s :=
  ⟨s.takeWhile isBlank, fun _ => List.mem_takeWhile_imp,
    (List.takeWhile_append_dropWhile ..).symm⟩

theorem dropBlanks_append {before : List Char} (h : Blanks before) (s : List Char) :
    dropBlanks (before ++ s) = dropBlanks s :=
  List.dropWhile_append_of_pos h

theorem dropBlanks_of_head {s : List Char} (h : ∀ c, s.head? = some c → isBlank c = false) :
    dropBlanks s = s := by
  cases s with
  | nil => rfl
  | cons c s => exact List.dropWhile_cons_of_neg (by simp [h c rfl])

theorem blanks_reverse {s : List Char} : Blanks s.reverse ↔ Blanks s := by
  simp [Blanks]

/-- Blanks around a text go when it is trimmed. -/
theorem trimmed_around {before s after : List Char} (hbefore : Blanks before)
    (hafter : Blanks after) (hs : Unpadded s) : trimmed (before ++ s ++ after) = s := by
  have hdrop : dropBlanks (before ++ s ++ after) = dropBlanks (s ++ after) := by
    rw [List.append_assoc, dropBlanks_append hbefore]
  rw [trimmed, hdrop]
  cases s with
  | nil =>
      have hnone : dropBlanks ([] ++ after) = [] := List.dropWhile_eq_nil_iff.mpr hafter
      rw [hnone]
      rfl
  | cons c s =>
      have hhead : dropBlanks (c :: s ++ after) = c :: s ++ after :=
        dropBlanks_of_head fun d hd => hs.head d (by simpa using hd)
      have hlast : dropBlanks (c :: s).reverse = (c :: s).reverse :=
        dropBlanks_of_head fun d hd => hs.last d (by rwa [List.head?_reverse] at hd)
      rw [hhead, List.reverse_append, dropBlanks_append (blanks_reverse.mpr hafter), hlast,
        List.reverse_reverse]

/-- Trimming takes away blanks at the ends, and all of them. -/
theorem trimmed_spec (s : List Char) : Unpadded (trimmed s) ∧
    ∃ before after, Blanks before ∧ Blanks after ∧ s = before ++ trimmed s ++ after := by
  obtain ⟨before, hbefore, hs⟩ := blanks_append_dropBlanks s
  obtain ⟨after, hafter, hrest⟩ := blanks_append_dropBlanks (dropBlanks s).reverse
  have hsplit : dropBlanks s = trimmed s ++ after.reverse := by
    rw [trimmed, ← List.reverse_append, ← hrest, List.reverse_reverse]
  refine ⟨⟨fun c hc => ?_, fun c hc => ?_⟩, before, after.reverse, hbefore,
    blanks_reverse.mpr hafter, ?_⟩
  · refine head?_dropBlanks (s := s) ?_
    rw [hsplit, List.head?_append, hc]
    rfl
  · rw [trimmed, List.getLast?_reverse] at hc
    exact head?_dropBlanks hc
  · rw [List.append_assoc, ← hsplit]
    exact hs

/-- **What is left is the text without blanks at its ends** from which the text can be had. -/
theorem trimmed_eq_iff {s t : List Char} : trimmed s = t ↔
    Unpadded t ∧ ∃ before after, Blanks before ∧ Blanks after ∧ s = before ++ t ++ after := by
  constructor
  · rintro rfl
    exact trimmed_spec s
  · rintro ⟨ht, before, after, hbefore, hafter, rfl⟩
    exact trimmed_around hbefore hafter ht

theorem trimmed_of_unpadded {s : List Char} (h : Unpadded s) : trimmed s = s :=
  trimmed_eq_iff.mpr ⟨h, [], [], blanks_nil, blanks_nil, by simp⟩

end LifecycleGuard.Text
