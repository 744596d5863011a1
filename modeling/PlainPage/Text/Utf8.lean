import PlainPage.Text.Basic

/-!
# Texts as bytes

Files and streams hold bytes; a text is written and read as UTF-8.

Main results:

- Theorem `Text.ofUtf8?_utf8` says that a text is read back from its bytes.
-/

namespace PlainPage

/-- The content of a file or a stream. -/
abbrev Bytes := List UInt8

namespace Text

/-- The bytes of a text. -/
def utf8 (t : Text) : Bytes :=
  t.flatMap String.utf8EncodeChar

/-- The text that well-formed bytes stand for. -/
def ofUtf8? (bytes : Bytes) : Option Text :=
  bytes.toByteArray.utf8Decode?.map Array.toList

/-- A text is read back from its bytes. -/
theorem ofUtf8?_utf8 (t : Text) : ofUtf8? (utf8 t) = some t := by
  have h : (utf8 t).toByteArray = t.utf8Encode := by
    simp [utf8, List.utf8Encode]
  simp [ofUtf8?, h, List.utf8Decode?_utf8Encode]

@[simp] theorem utf8_append (s t : Text) : utf8 (s ++ t) = utf8 s ++ utf8 t := by
  simp [utf8]

end Text

end PlainPage
