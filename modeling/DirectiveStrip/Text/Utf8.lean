import DirectiveStrip.Text.Basic

/-!
# Text in files

Files hold bytes, and text is stored in them as UTF-8. Bytes that are not UTF-8 have no text.

## Main definitions

* `encodeText`: The bytes of a text.
* `decodeText?`: The text that bytes spell.

## Theorems

* `decodeText?_encodeText`: A text is read back as it was written.
* `size_encodeText`: A text takes as many bytes as its size says.
-/

namespace DirectiveStrip

/-- The UTF-8 form of a text. -/
def encodeText (text : Text) : ByteArray :=
  (String.ofList text).toByteArray

/-- The text with this UTF-8 form. -/
def decodeText? (bytes : ByteArray) : Option Text :=
  bytes.utf8Decode?.map Array.toList

@[simp] theorem decodeText?_encodeText (text : Text) :
    decodeText? (encodeText text) = some text := by
  simp [decodeText?, encodeText, String.toByteArray_ofList]

theorem size_encodeText (text : Text) : (encodeText text).size = byteSize text := by
  rw [encodeText, String.toByteArray_ofList]
  induction text with
  | nil => rfl
  | cons c rest ih =>
    rw [List.utf8Encode_cons, ByteArray.size_append, ih, byteSize_cons]
    simp [List.utf8Encode_singleton]

end DirectiveStrip
