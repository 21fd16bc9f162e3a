/-!
# Blanks

Which characters count as white space, and removing them from the ends of a text.  The class is
the property *White_Space*, so a no-break space or a line separator is trimmed like a plain
space, while a zero-width space, which lacks the property, is not.

The functions work on lists of characters; `trim` lifts the last of them to strings.  The main
statement is `head?_dropBlanks`: after `dropBlanks` a text does not begin with a blank.
-/

namespace LifecycleGuard.Text

/-- The property *White_Space*. -/
def isBlank (c : Char) : Bool :=
  let n := c.toNat
  (9 ≤ n && n ≤ 13) || n == 0x20 || n == 0x85 || n == 0xA0 || n == 0x1680 ||
    (0x2000 ≤ n && n ≤ 0x200A) || n == 0x2028 || n == 0x2029 || n == 0x202F || n == 0x205F ||
    n == 0x3000

/-- The text without its leading blanks. -/
def dropBlanks (s : List Char) : List Char := s.dropWhile isBlank

/-- The text without the blanks at either end. -/
def trimmed (s : List Char) : List Char := (dropBlanks (dropBlanks s).reverse).reverse

/-- The text without the blanks at either end. -/
def trim (s : String) : String := String.ofList (trimmed s.toList)

/-- Whether a text consists of blanks only. -/
def isBlankText (s : String) : Bool := s.toList.all isBlank

/-- What `dropBlanks` leaves does not begin with a blank. -/
theorem head?_dropBlanks {s : List Char} {c : Char} (h : (dropBlanks s).head? = some c) :
    isBlank c = false := by
  induction s with
  | nil => simp [dropBlanks] at h
  | cons a s ih =>
    unfold dropBlanks at h ih
    cases ha : isBlank a with
    | true => rw [List.dropWhile_cons_of_pos (by simpa using ha)] at h; exact ih h
    | false =>
      rw [List.dropWhile_cons_of_neg (by simp [ha])] at h
      simp only [List.head?_cons, Option.some.injEq] at h
      exact h ▸ ha

end LifecycleGuard.Text
