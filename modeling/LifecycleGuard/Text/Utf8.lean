/-!
# Text as bytes

The encoding of text in files.  Decoding accepts exactly what encoding produces: no overlong
forms, no surrogates, nothing beyond the last character.
-/

namespace LifecycleGuard.Text

/-- The bytes of a text. -/
def utf8 (s : List Char) : List UInt8 := s.flatMap String.utf8EncodeChar

/-- The text that some bytes encode, if they encode one. -/
def ofUtf8? (bytes : List UInt8) : Option (List Char) :=
  bytes.toByteArray.utf8Decode?.map Array.toList

/-- A text reads back from its bytes. -/
theorem ofUtf8?_utf8 (s : List Char) : ofUtf8? (utf8 s) = some s := by
  have h : (utf8 s).toByteArray = s.utf8Encode := rfl
  rw [ofUtf8?, h, List.utf8Decode?_utf8Encode]
  simp

end LifecycleGuard.Text
