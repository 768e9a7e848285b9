import DirectiveStrip.Text.Basic
import DirectiveStrip.Text.Printable

/-!
# Quoted text

Text shown between double quotes so that every character of it can be told. Quotes and backslashes
are escaped, the usual control characters have their short names, and whatever cannot be shown by
itself is written as a code point in hexadecimal.

## Main definitions

* `quoteCharacter`: One character as it stands between quotes.
* `quote`: A text between quotes.
-/

namespace DirectiveStrip

/-- A character as it stands between double quotes. -/
def quoteCharacter (c : Char) : Text :=
  if c = '\x00' then ['\\', '0']
  else if c = '\t' then ['\\', 't']
  else if c = '\r' then ['\\', 'r']
  else if c = '\n' then ['\\', 'n']
  else if c = '\\' then ['\\', '\\']
  else if c = '"' then ['\\', '"']
  else if isUnprintable c then
    ['\\', 'u', '\x7b'] ++ Nat.toDigits 16 c.toNat ++ ['\x7d']
  else [c]

/-- A text between double quotes. -/
def quote (text : Text) : Text :=
  '"' :: text.flatMap quoteCharacter ++ ['"']

end DirectiveStrip
