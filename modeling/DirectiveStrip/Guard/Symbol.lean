import DirectiveStrip.Text.Alphabetic
import DirectiveStrip.Text.Numeric
import DirectiveStrip.Text.WhiteSpace

/-!
# Symbol names

A guard mentions symbols by bare name. A name begins with a letter or an underscore and goes on with
letters, digits and underscores, where letters and digits are those of every script. Directive
keywords are cut out of a line by the same continuation class.

A name ends where the text does, at white space, or at a character that can stand right after an
operand: the first character of `&&` or `||`, or a closing bracket. Any other character directly
after a name is a mistake, which is why the terminators form a class of their own.

## Main definitions

* `isAlphanumeric`: A letter or a number character.
* `isSymbolStart`, `isSymbolContinue`: The characters that begin and continue a name.
* `isSymbolTerminator`: The characters that may follow a name without a blank.
* `isIdentifier`: Whether a text is a name.
-/

namespace DirectiveStrip

/-- A letter or a number character of any script. -/
def isAlphanumeric (c : Char) : Bool :=
  isAlphabetic c || isNumeric c

/-- A character that can begin a symbol name. -/
def isSymbolStart (c : Char) : Bool :=
  isAlphabetic c || c == '_'

/-- A character that can continue a symbol name. -/
def isSymbolContinue (c : Char) : Bool :=
  isAlphanumeric c || c == '_'

/-- A character that ends a symbol name without being part of it. -/
def isSymbolTerminator (c : Char) : Bool :=
  isWhiteSpace c || c == '&' || c == '|' || c == ')'

/-- A non-empty text that begins like a name and goes on like one. -/
def isIdentifier : Text → Bool
  | [] => false
  | c :: rest => isSymbolStart c && rest.all isSymbolContinue

/-- Whatever begins a name also continues one. -/
theorem isSymbolContinue_of_isSymbolStart {c : Char} (h : isSymbolStart c = true) :
    isSymbolContinue c = true := by
  simp only [isSymbolStart, isSymbolContinue, isAlphanumeric, Bool.or_eq_true] at h ⊢
  exact h.imp_left Or.inl

end DirectiveStrip
