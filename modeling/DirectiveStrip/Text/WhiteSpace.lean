import DirectiveStrip.Text.Basic
import DirectiveStrip.Text.Ranges

/-!
# White space

The characters with the `White_Space` property, and what they are needed for: text around a
directive is trimmed, and text that is nothing but white space counts as missing. Invisible
characters without the property, such as the zero width space and the byte order mark, are ordinary
text.

## Main definitions

* `isWhiteSpace`: Whether a character has the property.
* `trimStart`, `trim`: A text without the white space at its front, or at both ends.
* `isBlank`: Whether a text is white space throughout.

## Theorems

* `trimStart_eq_nil_iff`: Trimming the front leaves nothing exactly when the text is blank.
* `trim_eq_nil_iff`: Trimming leaves nothing exactly when the text is blank.
-/

namespace DirectiveStrip

/-- The `White_Space` property as closed ranges of code points, in increasing order. -/
def whiteSpaceRanges : List (Nat × Nat) :=
  [(0x9, 0xD), (0x20, 0x20), (0x85, 0x85), (0xA0, 0xA0), (0x1680, 0x1680), (0x2000, 0x200A),
   (0x2028, 0x2029), (0x202F, 0x202F), (0x205F, 0x205F), (0x3000, 0x3000)]

/-- A blank of any script, line breaks included. -/
def isWhiteSpace (c : Char) : Bool :=
  inRanges whiteSpaceRanges c

/-- The text from its first character that is not white space. -/
def trimStart (text : Text) : Text :=
  text.dropWhile isWhiteSpace

/-- The text without the white space at its end. -/
def trimEnd (text : Text) : Text :=
  (text.reverse.dropWhile isWhiteSpace).reverse

/-- The text without the white space at either end. -/
def trim (text : Text) : Text :=
  trimEnd (trimStart text)

/-- Nothing but white space, or nothing at all. -/
def isBlank (text : Text) : Bool :=
  text.all isWhiteSpace

theorem trimStart_eq_nil_iff (text : Text) : trimStart text = [] ↔ isBlank text = true := by
  induction text with
  | nil => simp [isBlank, trimStart]
  | cons c rest ih =>
    by_cases hc : isWhiteSpace c
    · simp only [isBlank, trimStart] at ih
      simp [isBlank, trimStart, hc, ih]
    · simp [isBlank, trimStart, hc]

/-- Only white space is lost at the front. -/
theorem isBlank_of_isBlank_trimStart (text : Text) (h : isBlank (trimStart text) = true) :
    isBlank text = true := by
  induction text with
  | nil => rfl
  | cons c rest ih =>
    by_cases hc : isWhiteSpace c
    · simpa [isBlank, hc] using ih (by simpa [trimStart, hc] using h)
    · simp [trimStart, isBlank, hc] at h

theorem trim_eq_nil_iff (text : Text) : trim text = [] ↔ isBlank text = true := by
  have hend : trimEnd (trimStart text) = [] ↔ isBlank (trimStart text) = true := by
    have h := trimStart_eq_nil_iff (trimStart text).reverse
    rw [isBlank, List.all_reverse] at h
    rw [trimEnd, List.reverse_eq_nil_iff]
    exact h
  rw [trim, hend]
  constructor
  · exact isBlank_of_isBlank_trimStart text
  · intro h
    rw [(trimStart_eq_nil_iff text).2 h]
    rfl

end DirectiveStrip
