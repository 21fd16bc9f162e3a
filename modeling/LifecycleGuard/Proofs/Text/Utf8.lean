import LifecycleGuard.Text.Utf8

/-!
# Bytes of texts

Two facts about encoded text that files of lines rest on: bytes that decode are the bytes of what
they decode to (`utf8_of_ofUtf8?`), so a text may be cut and put together on either side; and the
byte of a line feed encodes a line feed and is part of no other character (`mem_of_mem_utf8`).
-/

namespace LifecycleGuard.Text

theorem utf8_append (s t : List Char) : utf8 (s ++ t) = utf8 s ++ utf8 t := List.flatMap_append

theorem toByteArray_injective {a b : List UInt8} (h : a.toByteArray = b.toByteArray) : a = b := by
  have := congrArg (fun x => x.data.toList) h
  simpa using this

/-- Bytes that decode are the bytes of what they decode to. -/
theorem utf8_of_ofUtf8? {bytes : List UInt8} {s : List Char} (h : ofUtf8? bytes = some s) :
    bytes = utf8 s := by
  obtain ⟨found, hfound, hs⟩ := Option.map_eq_some_iff.mp h
  obtain ⟨m, hm⟩ := ByteArray.isSome_utf8Decode?_iff.mp (Option.isSome_of_eq_some hfound)
  have hbytes : bytes = utf8 m := toByteArray_injective hm
  have hback := ofUtf8?_utf8 m
  rw [← hbytes, h] at hback
  rw [hbytes, Option.some.inj hback]

/-- A byte below the marked ones stands for the character with its number. -/
theorem toNat_of_mem_utf8EncodeChar {c : Char} {b : UInt8} (h : b ∈ String.utf8EncodeChar c)
    (hlow : b.toNat < 128) : c.toNat = b.toNat := by
  have hmarked : ∀ k, 128 ≤ k → k < 256 → b ≠ UInt8.ofNat k := by
    rintro k hk hk' rfl
    rw [UInt8.toNat_ofNat', Nat.mod_eq_of_lt hk'] at hlow
    omega
  unfold String.utf8EncodeChar at h
  dsimp only at h
  split at h
  next hascii =>
    rw [List.mem_singleton.mp h, UInt8.toNat_ofNat']
    show c.val.toNat = c.val.toNat % 256
    omega
  next =>
  exfalso
  split at h
  next =>
    simp only [List.mem_cons, List.not_mem_nil, or_false] at h
    rcases h with h | h <;> exact hmarked _ (by omega) (by omega) h
  next =>
  split at h
  next =>
    simp only [List.mem_cons, List.not_mem_nil, or_false] at h
    rcases h with h | h | h <;> exact hmarked _ (by omega) (by omega) h
  next =>
    simp only [List.mem_cons, List.not_mem_nil, or_false] at h
    rcases h with h | h | h | h <;> exact hmarked _ (by omega) (by omega) h

theorem mem_of_mem_utf8 {s : List Char} {b : UInt8} (h : b ∈ utf8 s) (hlow : b.toNat < 128) :
    ∃ c ∈ s, c.toNat = b.toNat := by
  obtain ⟨c, hc, hb⟩ := List.mem_flatMap.mp h
  exact ⟨c, hc, toNat_of_mem_utf8EncodeChar hb hlow⟩

end LifecycleGuard.Text
