import LifecycleGuard.Json.Printer
import LifecycleGuard.Proofs.Text.Digit

/-!
# The written form is one line

Every character that is written for a value is a space or comes after it (`Visible`), doubles
included, because the characters before the space are escaped where they stand in a string and
nothing else contains any.  A written value therefore has no line feed and no carriage return in
it, whatever its strings contain.
-/

namespace LifecycleGuard.Json

/-- Whether no character of a text comes before the space. -/
def Visible (s : List Char) : Prop := ∀ c ∈ s, 0x20 ≤ c.toNat

theorem visible_nil : Visible [] := by simp [Visible]

theorem visible_cons {c : Char} {s : List Char} :
    Visible (c :: s) ↔ 0x20 ≤ c.toNat ∧ Visible s := by
  simp [Visible]

theorem visible_append {s t : List Char} : Visible (s ++ t) ↔ Visible s ∧ Visible t := by
  simp [Visible, or_imp, forall_and]

theorem Visible.of_subset {s t : List Char} (ht : Visible t) (h : ∀ c ∈ s, c ∈ t) : Visible s :=
  fun c hc => ht c (h c hc)

theorem visible_digits {ds : List Char} (h : ∀ c ∈ ds, Text.isDigit c = true) : Visible ds := by
  intro c hc
  have hdigit := h c hc
  simp only [Text.isDigit, Bool.and_eq_true, decide_eq_true_eq] at hdigit
  have hzero : ('0' : Char).toNat ≤ c.toNat := hdigit.1
  exact Nat.le_trans (by decide) hzero

theorem visible_toDigits (n : Nat) : Visible (Nat.toDigits 10 n) :=
  visible_digits fun _ => Text.isDigit_of_mem_toDigits

theorem visible_intChars (n : Int) : Visible (intChars n) := by
  unfold intChars
  split
  · exact visible_cons.mpr ⟨by decide, visible_toDigits _⟩
  · exact visible_toDigits _

/-! ## Doubles -/

theorem visible_zeros (n : Nat) : Visible (Scientific.zeros n) := by
  intro c hc
  rw [List.eq_of_mem_replicate hc]
  decide

theorem visible_positional {ds : List Char} (h : Visible ds) (exponent : Int) :
    Visible (Scientific.positional ds exponent) := by
  unfold Scientific.positional
  have hpoint : Visible ['.'] := by simp [Visible]
  have hzero : Visible ['.', '0'] := by simp [Visible]
  have hlead : Visible ['0', '.'] := by simp [Visible]
  split
  · exact visible_append.mpr ⟨visible_append.mpr ⟨h, visible_zeros _⟩, hzero⟩
  dsimp only
  split
  · have htake : Visible (ds.take (ds.length - (-exponent).toNat)) :=
      h.of_subset fun _ hc => List.mem_of_mem_take hc
    have hdrop : Visible (ds.drop (ds.length - (-exponent).toNat)) :=
      h.of_subset fun _ hc => List.mem_of_mem_drop hc
    exact visible_append.mpr ⟨visible_append.mpr ⟨htake, hpoint⟩, hdrop⟩
  · exact visible_append.mpr ⟨visible_append.mpr ⟨hlead, visible_zeros _⟩, h⟩

theorem visible_withExponent {ds : List Char} (h : Visible ds) (lead : Int) :
    Visible (Scientific.withExponent ds lead) := by
  unfold Scientific.withExponent
  refine visible_append.mpr ⟨visible_append.mpr ⟨?_, ?_⟩, visible_toDigits _⟩
  · split
    · exact visible_nil
    · exact h
    · obtain ⟨hd, hrest⟩ := visible_cons.mp h
      exact visible_cons.mpr ⟨hd, visible_cons.mpr ⟨by decide, hrest⟩⟩
  · split <;> simp [Visible]

theorem visible_write (style : Scientific.Style) (d : Double) :
    Visible (Scientific.write style d) := by
  have hsign : Visible (if d.isNegative then ['-'] else []) := by
    split <;> simp [Visible]
  unfold Scientific.write
  dsimp only
  split
  · exact visible_append.mpr ⟨hsign, by simp [Visible]⟩
  · split
    · exact visible_append.mpr ⟨hsign, visible_positional (visible_toDigits _) _⟩
    · exact visible_append.mpr ⟨hsign, visible_withExponent (visible_toDigits _) _⟩

/-! ## Strings and values -/

theorem visible_escapeChar (c : Char) : Visible (escapeChar c) := by
  have hhex : ∀ n < 16, 0x20 ≤ (hexDigit n).toNat := by decide
  unfold escapeChar
  split
  next h => simp [Visible, h]
  next =>
  split
  next => simp [Visible]
  next =>
  split
  next hlow =>
    repeat' split
    all_goals simp [Visible]
    exact ⟨hhex _ (by omega), hhex _ (by omega)⟩
  next hlow => simpa [Visible] using hlow

theorem visible_stringChars (s : String) : Visible (stringChars s) := by
  have hmark : 0x20 ≤ quote.toNat := by decide
  refine visible_append.mpr ⟨visible_cons.mpr ⟨hmark, ?_⟩, visible_cons.mpr ⟨hmark, visible_nil⟩⟩
  intro d hd
  obtain ⟨c, -, hc⟩ := List.mem_flatMap.mp hd
  exact visible_escapeChar c d hc

mutual

/-- No character of a written value comes before the space. -/
theorem visible_chars : ∀ j : Json, Visible (chars j)
  | .null => by simp [chars, Visible]
  | .bool true => by simp [chars, Visible]
  | .bool false => by simp [chars, Visible]
  | .number (.whole n _) => visible_intChars n
  | .number (.double d) => by
    rw [chars, numberChars]
    split
    · exact visible_write _ d
    · simp [Visible]
  | .string s => visible_stringChars s
  | .array items => by
    rw [chars, visible_append, visible_cons]
    exact ⟨⟨by decide, visible_itemsChars items⟩, by simp [Visible]⟩
  | .object members => by
    rw [chars, visible_append, visible_cons]
    exact ⟨⟨by decide, visible_membersChars members⟩, by simp [Visible]⟩

theorem visible_itemsChars : ∀ items : List Json, Visible (itemsChars items)
  | [] => visible_nil
  | [j] => visible_chars j
  | j :: k :: items => by
    have hmore := visible_itemsChars (k :: items)
    rw [itemsChars, visible_append, visible_cons]
    · exact ⟨visible_chars j, by decide, hmore⟩
    · simp

theorem visible_membersChars : ∀ members : List (String × Json), Visible (membersChars members)
  | [] => visible_nil
  | [(k, j)] => by
    rw [membersChars, visible_append, visible_cons]
    exact ⟨visible_stringChars k, by decide, visible_chars j⟩
  | (k, j) :: m :: members => by
    have hmore := visible_membersChars (m :: members)
    rw [membersChars]
    · rw [visible_append, visible_append, visible_cons, visible_cons]
      exact ⟨⟨visible_stringChars k, by decide, visible_chars j⟩, by decide, hmore⟩
    · simp

end

end LifecycleGuard.Json
