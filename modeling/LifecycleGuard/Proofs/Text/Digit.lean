import LifecycleGuard.Text.Blank
import LifecycleGuard.Text.Digit

/-!
# Digits in front of other text

A reader of numbers takes digits for as long as there are any, so it finds a number that was
written exactly if what is written behind the number does not begin with a digit.

* `takeWhile_digits`, `dropWhile_digits` cut such a text where the number ends.
* `value_toDigits` gives the number back that `Nat.toDigits` wrote, and `head?_toDigits` says that
  it was written without a leading zero.
-/

namespace LifecycleGuard.Text

variable {ds rest : List Char}

/-- Whether a text does not begin with a digit. -/
def NoDigitFirst (s : List Char) : Prop := ∀ c, s.head? = some c → isDigit c = false

theorem isBlank_of_isDigit {c : Char} (h : isDigit c = true) : isBlank c = false := by
  simp only [isDigit, Bool.and_eq_true, decide_eq_true_eq] at h
  have hlow : 48 ≤ c.toNat := h.1
  have hhigh : c.toNat ≤ 57 := h.2
  simp only [isBlank, Bool.or_eq_false_iff, Bool.and_eq_false_iff, decide_eq_false_iff_not,
    beq_eq_false_iff_ne]
  omega

theorem noDigitFirst_nil : NoDigitFirst [] := by simp [NoDigitFirst]

theorem noDigitFirst_cons {c : Char} {s : List Char} :
    NoDigitFirst (c :: s) ↔ isDigit c = false := by
  simp [NoDigitFirst]

theorem takeWhile_digits (hds : ∀ c ∈ ds, isDigit c = true) (hrest : NoDigitFirst rest) :
    (ds ++ rest).takeWhile isDigit = ds := by
  rw [List.takeWhile_append_of_pos hds]
  cases rest with
  | nil => simp
  | cons c rest => simp [noDigitFirst_cons.mp hrest]

theorem dropWhile_digits (hds : ∀ c ∈ ds, isDigit c = true) (hrest : NoDigitFirst rest) :
    (ds ++ rest).dropWhile isDigit = rest := by
  rw [List.dropWhile_append_of_pos hds]
  cases rest with
  | nil => rfl
  | cons c rest => simp [noDigitFirst_cons.mp hrest]

theorem isDigit_of_mem_toDigits {n : Nat} {c : Char} (h : c ∈ Nat.toDigits 10 n) :
    isDigit c = true :=
  Nat.isDigit_of_mem_toDigits (by decide) (by decide) h

theorem value_eq_ofDigitChars (ds : List Char) : value ds = Nat.ofDigitChars 10 ds 0 := by
  rw [Nat.ofDigitChars_eq_foldl]
  unfold value digitValue
  congr 1
  funext n c
  rw [Nat.mul_comm]
  rfl

/-- A number reads back from its digits. -/
theorem value_toDigits (n : Nat) : value (Nat.toDigits 10 n) = n := by
  rw [value_eq_ofDigitChars, Nat.ofDigitChars_ten_toDigits]

/-- No number but zero is written with a zero in front. -/
theorem head?_toDigits {n : Nat} (h : (Nat.toDigits 10 n).head? = some '0') : n = 0 := by
  induction n using Nat.strongRecOn with
  | ind n ih =>
    rw [Nat.toDigits_eq_if (by decide)] at h
    by_cases hlt : n < 10
    · simp only [hlt, if_true, List.head?_cons, Option.some.injEq] at h
      have := digitValue_digitChar hlt
      rw [h] at this
      exact this.symm
    · have hne : Nat.toDigits 10 (n / 10) ≠ [] := Nat.toDigits_ne_nil
      obtain ⟨c, cs, hcons⟩ := List.exists_cons_of_ne_nil hne
      rw [if_neg hlt, hcons] at h
      have hzero : n / 10 = 0 := ih (n / 10) (by omega) (by rw [hcons]; exact h)
      omega

end LifecycleGuard.Text
