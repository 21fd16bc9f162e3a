import LifecycleGuard.Json.Printer
import LifecycleGuard.Json.Reading
import LifecycleGuard.Proofs.Text.Digit

/-!
# Strings and whole numbers read back

**Strings.**  `Escaped c w` says in which ways a character may stand inside a string: as itself,
behind a backslash, or by its number.  The writer uses one of them for every character
(`escaped_escapeChar`), and both readings of a string, the one for its value and the one that
passes over it, take each of them as that one character.

**Numbers.**  A whole number is read back if it fits into sixty-four bits and what stands behind
it does not go on with it (`EndsNumber`).  The writer never puts a zero in front, which the reader
would refuse, and the digits never exceed what the reader gathers.
-/

namespace LifecycleGuard.Json

/-! ## Strings -/

/-- The ways to write a character inside a string. -/
inductive Escaped (c : Char) : List Char → Prop where
  | plain (slash : c ≠ '\\') (mark : c.toNat ≠ 0x22) (low : 0x20 ≤ c.toNat) : Escaped c [c]
  | letter {e : Char} (means : letterEscape? e = some c) : Escaped c ['\\', e]
  | unit {w x y z : Char} (means : hexUnit? w x y z = some c.toNat) (low : c.toNat < 0xD800) :
      Escaped c ['\\', 'u', w, x, y, z]

theorem hexUnit?_hexDigit : ∀ n < 0x20,
    hexUnit? '0' '0' (hexDigit (n / 16)) (hexDigit (n % 16)) = some n := by decide

theorem eq_ofNat {c : Char} {n : Nat} (h : c.toNat = n) : c = Char.ofNat n := by
  rw [← h, Char.ofNat_toNat]

theorem escaped_escapeChar (c : Char) : Escaped c (escapeChar c) := by
  unfold escapeChar
  by_cases hmark : c.toNat = 0x22
  · obtain rfl := eq_ofNat hmark
    exact .letter rfl
  rw [if_neg hmark]
  by_cases hslash : c = '\\'
  · subst hslash
    exact .letter rfl
  rw [if_neg hslash]
  by_cases hlow : c.toNat < 0x20
  · rw [if_pos hlow]
    split
    next h => obtain rfl := eq_ofNat h; exact .letter rfl
    next =>
    split
    next h => obtain rfl := eq_ofNat h; exact .letter rfl
    next =>
    split
    next h => obtain rfl := eq_ofNat h; exact .letter rfl
    next =>
    split
    next h => obtain rfl := eq_ofNat h; exact .letter rfl
    next =>
    split
    next h => obtain rfl := eq_ofNat h; exact .letter rfl
    next => exact .unit (hexUnit?_hexDigit _ hlow) (by omega)
  · rw [if_neg hlow]
    exact .plain hslash hmark (by omega)

theorem ne_u_of_letterEscape? {e c : Char} (h : letterEscape? e = some c) : e ≠ 'u' := by
  rintro rfl
  have : letterEscape? 'u' = none := by decide
  simp [this] at h

theorem stringValue_escaped {c : Char} {w : List Char} (h : Escaped c w) (t : List Char) :
    stringValue none (w ++ t) = (stringValue none t).map fun r => (c :: r.1, r.2) := by
  cases h with
  | plain slash mark low =>
    rw [List.singleton_append, stringValue]
    · simp only [Option.isSome_none, Bool.false_eq_true, if_false, mark, Nat.not_lt.mpr low]
      cases stringValue none t <;> rfl
    · simpa using slash
  | @letter e means =>
    have hu := ne_u_of_letterEscape? means
    simp only [List.cons_append, List.nil_append]
    rw [stringValue]
    · simp only [Option.isSome_none, Bool.false_eq_true, if_false, means]
      cases stringValue none t <;> rfl
    · simp [hu]
    · simp [hu]
  | unit means low =>
    simp only [List.cons_append, List.nil_append]
    rw [stringValue]
    have hlow : ¬ (0xDC00 ≤ c.toNat ∧ c.toNat ≤ 0xDFFF) := by omega
    have hhigh : ¬ (0xD800 ≤ c.toNat ∧ c.toNat ≤ 0xDBFF) := by omega
    simp only [means, hlow, hhigh, if_false, Char.ofNat_toNat]
    cases stringValue none t <;> rfl

theorem skipString_escaped {c : Char} {w : List Char} (h : Escaped c w) (t : List Char) :
    skipString (w ++ t) = skipString t := by
  cases h with
  | plain slash mark low =>
    rw [List.singleton_append, skipString]
    · simp only [mark, Nat.not_lt.mpr low, if_false]
    · simpa using slash
  | @letter e means =>
    have hu := ne_u_of_letterEscape? means
    simp only [List.cons_append, List.nil_append]
    rw [skipString]
    · simp [means]
    · simp [hu]
    · simp [hu]
  | unit means low =>
    simp only [List.cons_append, List.nil_append]
    rw [skipString]
    simp [means]

theorem stringValue_escapes (cs rest : List Char) :
    stringValue none (cs.flatMap escapeChar ++ quote :: rest) = .ok (cs, rest) := by
  induction cs with
  | nil => rfl
  | cons c cs ih =>
    rw [List.flatMap_cons, List.append_assoc, stringValue_escaped (escaped_escapeChar c), ih]
    rfl

theorem skipString_escapes (cs rest : List Char) :
    skipString (cs.flatMap escapeChar ++ quote :: rest) = .ok rest := by
  induction cs with
  | nil => rfl
  | cons c cs ih =>
    rw [List.flatMap_cons, List.append_assoc, skipString_escaped (escaped_escapeChar c), ih]

theorem readString_escapes (s : String) (rest : List Char) :
    readString (s.toList.flatMap escapeChar ++ quote :: rest) = (⟨.ok s, .ok ()⟩, rest) := by
  simp [readString, stringValue_escapes, skipString_escapes, Except.map]
/-! ## Whole numbers -/

/-- Whether a number ends where a text begins. -/
def EndsNumber (s : List Char) : Prop :=
  ∀ c, s.head? = some c → Text.isDigit c = false ∧ c ≠ '.' ∧ c ≠ 'e' ∧ c ≠ 'E'

theorem gather_of_fits {ds : List Char} {start : Nat}
    (h : ds.foldl (fun n c => n * 10 + Text.digitValue c) start < 18446744073709551616) :
    gather start ds = (ds.foldl (fun n c => n * 10 + Text.digitValue c) start, []) := by
  induction ds generalizing start with
  | nil => rfl
  | cons c ds ih =>
    have hgrow : ∀ (l : List Char) (n : Nat),
        n ≤ l.foldl (fun n c => n * 10 + Text.digitValue c) n := by
      intro l
      induction l with
      | nil => exact fun n => Nat.le_refl n
      | cons c l ih =>
        intro n
        have hstep : n ≤ n * 10 + Text.digitValue c := by omega
        exact Nat.le_trans hstep (ih _)
    have hnext := Nat.lt_of_le_of_lt (hgrow ds _) h
    simp only [gather, if_pos hnext, List.foldl_cons]
    exact ih h

theorem gather_toDigits {n : Nat} (h : n < 18446744073709551616) :
    gather 0 (Nat.toDigits 10 n) = (n, []) := by
  have hvalue : (Nat.toDigits 10 n).foldl (fun n c => n * 10 + Text.digitValue c) 0 = n :=
    Text.value_toDigits n
  rw [gather_of_fits (by rw [hvalue]; exact h), hvalue]

theorem readMagnitude_toDigits {n : Nat} (hn : n < 18446744073709551616) (negative : Bool)
    {rest : List Char} (hrest : EndsNumber rest) :
    readMagnitude negative (Nat.toDigits 10 n ++ rest) =
      (⟨.ok (wholeNumber negative n), .ok ()⟩, rest) := by
  have hdigits : ∀ c ∈ Nat.toDigits 10 n, Text.isDigit c = true :=
    fun c => Text.isDigit_of_mem_toDigits
  have hstop : Text.NoDigitFirst rest := fun c hc => (hrest c hc).1
  have hgather := gather_toDigits hn
  unfold readMagnitude
  rw [Text.takeWhile_digits hdigits hstop, Text.dropWhile_digits hdigits hstop]
  dsimp only
  split
  next h => exact absurd h Nat.toDigits_ne_nil
  next h =>
    have hzero : n = 0 := Text.head?_toDigits (by rw [h]; rfl)
    rw [hzero] at h
    cases h
  next =>
    rw [hgather]
    cases rest with
    | nil => rfl
    | cons c rest =>
      obtain ⟨-, hpoint, he, hE⟩ := hrest c rfl
      simp [hpoint, he, hE]

theorem wholeNumber_natAbs {n : Int} (fits : -9223372036854775808 ≤ n ∧ n < 18446744073709551616) :
    wholeNumber (decide (n < 0)) n.natAbs = .whole n fits := by
  unfold wholeNumber
  by_cases hneg : n < 0
  · have habs : n.natAbs ≠ 0 ∧ n.natAbs ≤ 9223372036854775808 := by omega
    have hback : -(n.natAbs : Int) = n := by omega
    rw [dif_neg (by simp [hneg]), dif_pos habs]
    simp only [hback]
  · have habs : decide (n < 0) = false ∧ n.natAbs < 18446744073709551616 :=
      ⟨decide_eq_false hneg, by omega⟩
    have hback : (n.natAbs : Int) = n := by omega
    rw [dif_pos habs]
    simp only [hback]

theorem readNumber_intChars (n : Int) (fits : -9223372036854775808 ≤ n ∧ n < 18446744073709551616)
    {rest : List Char} (hrest : EndsNumber rest) :
    readNumber (intChars n ++ rest) = (⟨.ok (.whole n fits), .ok ()⟩, rest) := by
  have hread := readMagnitude_toDigits (n := n.natAbs) (by omega) (decide (n < 0)) hrest
  rw [wholeNumber_natAbs fits] at hread
  rw [← hread]
  unfold intChars
  by_cases hneg : n < 0
  · rw [if_pos hneg, decide_eq_true hneg, List.cons_append, readNumber]
  · rw [if_neg hneg, decide_eq_false hneg, readNumber]
    intro s hs
    have hne : Nat.toDigits 10 n.natAbs ≠ [] := Nat.toDigits_ne_nil
    obtain ⟨d, ds, hds⟩ := List.exists_cons_of_ne_nil hne
    have hd : Text.isDigit d = true := Text.isDigit_of_mem_toDigits (hds ▸ List.mem_cons_self)
    rw [hds] at hs
    cases hs
    cases hd

end LifecycleGuard.Json
