import LifecycleGuard.Uuid
import Mathlib.Algebra.Group.Nat.Defs

/-!
# Identifiers read back

An identifier is read from its written form, the one with hyphens: of the forms that are accepted
it is the only one with thirty-six characters.

Identifiers with different serial numbers are different as long as the numbers fit into the digits
that there are for them (`ofSerial_inj`).
-/

namespace LifecycleGuard.Uuid

theorem digit?_digitChar (d : Fin 16) : digit? (digitChar d) = some d := by
  revert d
  decide

theorem mapM_digit? (ds : List (Fin 16)) : (ds.map digitChar).mapM digit? = some ds := by
  induction ds with
  | nil => rfl
  | cons d ds ih => simp [digit?_digitChar, ih]

theorem simple?_digits (u : Uuid) : simple? (u.digits.map digitChar) = some u := by
  rw [simple?, mapM_digit?]
  simp [ofDigits?, u.length_digits]

/-- Five groups with hyphens between them, as long as those of an identifier. -/
theorem grouped?_groups {a b c d e : List Char} (ha : a.length = 8) (hb : b.length = 4)
    (hc : c.length = 4) (hd : d.length = 4) (he : e.length = 12) :
    grouped? (a ++ '-' :: b ++ '-' :: c ++ '-' :: d ++ '-' :: e) =
      simple? (a ++ b ++ c ++ d ++ e) := by
  unfold grouped?
  rw [if_pos]
  · simp [List.drop_append, ha, hb, hc, hd, List.drop_of_length_le]
  · simp [ha, hb, hc, hd, he]

/-- The digits in groups are all the digits. -/
theorem groups_digits (ds : List Char) :
    ds.take 8 ++ (ds.drop 8).take 4 ++ (ds.drop 12).take 4 ++ (ds.drop 16).take 4 ++ ds.drop 20 =
      ds := by
  have hcut : ∀ n k, (ds.drop n).take k ++ ds.drop (n + k) = ds.drop n := fun n k => by
    rw [← List.drop_drop, List.take_append_drop]
  simp only [List.append_assoc, hcut 16 4, hcut 12 4, hcut 8 4]
  exact List.take_append_drop 8 ds

/-- **An identifier reads back from its written form.** -/
theorem parse?_render (u : Uuid) : parse? u.render = some u := by
  have hchars : u.chars.length = 36 := by simp [chars, u.length_digits]
  rw [parse?, render, String.toList_ofList, ofChars?, hchars]
  rw [if_neg (by decide), if_pos rfl]
  rw [chars, grouped?_groups (by simp [u.length_digits]) (by simp [u.length_digits])
    (by simp [u.length_digits]) (by simp [u.length_digits]) (by simp [u.length_digits]),
    groups_digits, simple?_digits]

/-! ## Supply -/

/-- How many serial numbers there are digits for. -/
def supply : Nat := 16 ^ 12

theorem hexPadded_inj {k m n : Nat} (hm : m < 16 ^ k) (hn : n < 16 ^ k)
    (h : hexPadded k m = hexPadded k n) : m = n := by
  induction k generalizing m n with
  | zero => omega
  | succ k ih =>
    obtain ⟨hfront, hlast⟩ := List.append_inj' h rfl
    have hdigit : m % 16 = n % 16 := congrArg Fin.val (List.head_eq_of_cons_eq hlast)
    have hrest : m / 16 = n / 16 := ih (by omega) (by omega) hfront
    omega

/-- **Serial numbers within the supply give different identifiers.** -/
theorem ofSerial_inj {m n : Nat} (hm : m < supply) (hn : n < supply)
    (h : ofSerial m = ofSerial n) : m = n :=
  hexPadded_inj hm hn (List.append_cancel_left (congrArg digits h))

end LifecycleGuard.Uuid
