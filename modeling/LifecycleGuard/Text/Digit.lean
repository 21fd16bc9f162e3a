/-!
# Decimal digits

Reading and writing unsigned decimal numbers as lists of characters.  `padded` writes a fixed
number of digits; `value` is its inverse on numbers that have room (`value_padded`).
-/

namespace LifecycleGuard.Text

/-- Whether a character is a decimal digit. -/
def isDigit (c : Char) : Bool := '0' ≤ c && c ≤ '9'

/-- The value of a decimal digit. -/
def digitValue (c : Char) : Nat := c.toNat - 48

/-- The number that a list of digits writes. -/
def value (ds : List Char) : Nat := ds.foldl (fun n c => n * 10 + digitValue c) 0

/-- The last `k` decimal digits of a number. -/
def padded : Nat → Nat → List Char
  | 0, _ => []
  | k + 1, n => padded k (n / 10) ++ [Nat.digitChar (n % 10)]

/-- The digits of one number below ten. -/
theorem digitValue_digitChar {d : Nat} (h : d < 10) : digitValue (Nat.digitChar d) = d := by
  match d, h with
  | 0, _ | 1, _ | 2, _ | 3, _ | 4, _ | 5, _ | 6, _ | 7, _ | 8, _ | 9, _ => rfl

theorem isDigit_digitChar {d : Nat} (h : d < 10) : isDigit (Nat.digitChar d) = true := by
  match d, h with
  | 0, _ | 1, _ | 2, _ | 3, _ | 4, _ | 5, _ | 6, _ | 7, _ | 8, _ | 9, _ => rfl

/-- What `padded` writes are digits. -/
theorem isDigit_of_mem_padded {k n : Nat} {c : Char} (h : c ∈ padded k n) : isDigit c = true := by
  induction k generalizing n with
  | zero => simp [padded] at h
  | succ k ih =>
    rcases List.mem_append.1 h with h | h
    · exact ih h
    · rw [List.mem_singleton.1 h]
      exact isDigit_digitChar (Nat.mod_lt _ (by decide))

@[simp] theorem length_padded (k n : Nat) : (padded k n).length = k := by
  induction k generalizing n with
  | zero => rfl
  | succ k ih => simp [padded, ih]

/-- A number reads back from its digits if there is room for all of them. -/
theorem value_padded {k n : Nat} (h : n < Nat.pow 10 k) : value (padded k n) = n := by
  induction k generalizing n with
  | zero => simp at h; simp [padded, value, h]
  | succ k ih =>
    have : n / 10 < Nat.pow 10 k :=
      Nat.div_lt_of_lt_mul (Nat.lt_of_lt_of_eq h (Nat.mul_comm (Nat.pow 10 k) 10))
    have hv := ih this
    unfold value at hv ⊢
    rw [padded, List.foldl_append, hv]
    simp only [List.foldl_cons, List.foldl_nil, digitValue_digitChar (Nat.mod_lt n (by decide))]
    omega

end LifecycleGuard.Text
