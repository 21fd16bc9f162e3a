import LifecycleGuard.Proofs.Text.Utf8
import Mathlib.Data.String.Basic

/-!
# The order of names is the order of their bytes

Maps keep their names in the order of strings, which is by characters.  Written names are compared
byte by byte.  The encoding is made so that the two agree: of two characters the one with the
smaller number has the smaller first byte, or the same first byte and the smaller second one, and
so on.

* `utf8EncodeChar_append_lt` — one character against another, whatever follows.
* `utf8_lt_of_lt` — the bytes of two texts are in the order of the texts, and
  `utf8_lt_of_compare_lt` says so of names as maps compare them.
-/

namespace LifecycleGuard.Text

/-- Of two lists of bytes the first comes first if it begins with a smaller number, or with the
same number before a rest that comes first. -/
theorem cons_ofNat_lt {m n : Nat} {s t : List UInt8} (hn : n < 256) (hle : m ≤ n)
    (hrest : m = n → s < t) : UInt8.ofNat m :: s < UInt8.ofNat n :: t := by
  rw [List.cons_lt_cons_iff]
  rcases Nat.lt_or_eq_of_le hle with hlt | heq
  · left
    rw [UInt8.lt_iff_toNat_lt, UInt8.toNat_ofNat', UInt8.toNat_ofNat', Nat.mod_eq_of_lt hn,
      Nat.mod_eq_of_lt (Nat.lt_trans hlt hn)]
    exact hlt
  · exact .inr ⟨congrArg UInt8.ofNat heq, hrest heq⟩

/-- The bytes of the smaller character come first, whatever follows. -/
theorem utf8EncodeChar_append_lt {c d : Char} (h : c < d) (s t : List UInt8) :
    String.utf8EncodeChar c ++ s < String.utf8EncodeChar d ++ t := by
  have hlt : c.val.toNat < d.val.toNat := h
  have hmax : d.val.toNat < 0x110000 := by
    rcases d.valid with hd | hd
    · exact Nat.lt_trans hd (by decide)
    · exact hd.2
  unfold String.utf8EncodeChar
  generalize c.val.toNat = m at hlt
  generalize d.val.toNat = n at hlt hmax
  dsimp only
  -- Where the lengths differ, the first bytes do.  Where they agree, each byte is at most the
  -- other's, and if all of them were equal the characters would be.
  split_ifs <;> simp only [List.cons_append, List.nil_append] <;>
    repeat first
      | omega
      | refine cons_ofNat_lt (by omega) (by omega) fun _ => ?_

/-- The bytes of two texts are in the order of the texts. -/
theorem utf8_lt_of_lt {s t : List Char} (h : s < t) : utf8 s < utf8 t := by
  induction h with
  | @nil d t =>
      obtain ⟨b, bs, hb⟩ : ∃ b bs, String.utf8EncodeChar d = b :: bs := by
        unfold String.utf8EncodeChar
        dsimp only
        split_ifs <;> exact ⟨_, _, rfl⟩
      rw [utf8, utf8, List.flatMap_nil, List.flatMap_cons, hb]
      exact List.Lex.nil
  | @rel c s d t hcd => exact utf8EncodeChar_append_lt hcd (utf8 s) (utf8 t)
  | @cons c s t _ ih => exact List.append_left_lt ih

/-- Names in the order of a map have their bytes in order. -/
theorem utf8_lt_of_compare_lt {a b : String} (h : compare a b = .lt) :
    utf8 a.toList < utf8 b.toList :=
  utf8_lt_of_lt (String.lt_iff_toList_lt.mp (compareOfLessAndEq_eq_lt.mp h))

end LifecycleGuard.Text
