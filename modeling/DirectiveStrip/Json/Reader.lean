import DirectiveStrip.Json.Value

/-!
# Reading JSON

A reader for the standard grammar: no comments, no trailing commas, no byte order mark, and nothing
but blanks around the one value. Every part of the reader takes the text that remains and returns
what it read together with what remains after it. Nesting is not limited here.

## Main definitions

* `readLiteral?`: A string literal after its opening quote.
* `readNumeral?`: A number.
* `readValue?`: A value, up to a bound on how much text there is.
* `JsonValue.parse?`: The value that a whole text spells.
-/

namespace DirectiveStrip

/-- The blanks that may stand between JSON tokens. -/
def isJsonBlank (c : Char) : Bool :=
  c == ' ' || c == '\t' || c == '\n' || c == '\r'

/-- The text from its first token. -/
def skipBlanks (text : Text) : Text :=
  text.dropWhile isJsonBlank

/-- The character that an escape of one letter stands for. -/
def simpleEscape? : Char → Option Char
  | '"' => some '"'
  | '\\' => some '\\'
  | '/' => some '/'
  | 'b' => some '\x08'
  | 'f' => some '\x0c'
  | 'n' => some '\n'
  | 'r' => some '\r'
  | 't' => some '\t'
  | _ => none

/-- Four hexadecimal digits. -/
def hexUnit? (a b c d : Char) : Option Nat :=
  if [a, b, c, d].all (fun digit => (digitValue? digit).isSome) then
    some (natOfDigits 16 [a, b, c, d])
  else none

/-- The code units of a string literal after its opening quote: code points of the characters in it
    and sixteen bit units of its escapes. -/
def readUnits? : Text → Option (List Nat × Text)
  | [] => none
  | '"' :: rest => some ([], rest)
  | '\\' :: 'u' :: a :: b :: c :: d :: rest => do
    let unit ← hexUnit? a b c d
    let (units, rest) ← readUnits? rest
    return (unit :: units, rest)
  | '\\' :: letter :: rest => do
    let c ← simpleEscape? letter
    let (units, rest) ← readUnits? rest
    return (c.toNat :: units, rest)
  | c :: rest =>
    -- control characters must be escaped, and a last backslash escapes nothing
    if c.toNat < 0x20 || c == '\\' then none
    else do
      let (units, rest) ← readUnits? rest
      return (c.toNat :: units, rest)

/-- The text of code units. The two halves of a surrogate pair in a row are one character; a half by
    itself is none. -/
def textOfUnits? : List Nat → Option Text
  | [] => some []
  | unit :: units =>
    if 0xD800 ≤ unit ∧ unit < 0xDC00 then
      match units with
      | low :: units =>
        if 0xDC00 ≤ low ∧ low < 0xE000 then
          (textOfUnits? units).map
            (Char.ofNat (0x10000 + (unit - 0xD800) * 0x400 + (low - 0xDC00)) :: ·)
        else none
      | [] => none
    else if 0xDC00 ≤ unit ∧ unit < 0xE000 then none
    else (textOfUnits? units).map (Char.ofNat unit :: ·)

/-- A string literal after its opening quote. -/
def readLiteral? (text : Text) : Option (Option Text × Text) :=
  (readUnits? text).map fun (units, rest) => (textOfUnits? units, rest)

/-- The digits after a decimal point, if there is one. -/
def readFraction? : Text → Option (Text × Text)
  | '.' :: rest =>
    let digits := rest.takeWhile isDigit
    if digits.isEmpty then none else some (digits, rest.dropWhile isDigit)
  | text => some ([], text)

/-- The power of ten after an exponent mark, if there is one. -/
def readExponent? (text : Text) : Option (Option Int × Text) :=
  match text with
  | c :: rest =>
    if c == 'e' || c == 'E' then
      let (negative, rest) := match rest with
        | '-' :: rest => (true, rest)
        | '+' :: rest => (false, rest)
        | _ => (false, rest)
      let digits := rest.takeWhile isDigit
      if digits.isEmpty then none
      else
        let power : Int := natOfDigits 10 digits
        some (some (if negative then -power else power), rest.dropWhile isDigit)
    else some (none, text)
  | [] => some (none, text)

/-- A number. A zero in front of other digits is not allowed. -/
def readNumeral? (text : Text) : Option (Numeral × Text) := do
  let (negative, text) := match text with
    | '-' :: rest => (true, rest)
    | _ => (false, text)
  let whole := text.takeWhile isDigit
  if whole.isEmpty || (whole.head? == some '0' && 1 < whole.length) then none
  let (fraction, text) ← readFraction? (text.dropWhile isDigit)
  let (exponent?, text) ← readExponent? text
  return ({ negative, whole, fraction, exponent? }, text)

mutual

/-- A value. The bound is spent on every step into the text, so the length of the text is enough. -/
def readValue? (bound : Nat) (text : Text) : Option (JsonValue × Text) :=
  match bound with
  | 0 => none
  | bound + 1 =>
    match skipBlanks text with
    | '"' :: rest => (readLiteral? rest).map fun (text?, rest) => (.string text?, rest)
    | '[' :: rest =>
      match skipBlanks rest with
      | ']' :: rest => some (.array [], rest)
      | rest => (readItems? bound rest).map fun (items, rest) => (.array items, rest)
    | '\x7b' :: rest =>
      match skipBlanks rest with
      | '\x7d' :: rest => some (.object [], rest)
      | rest => (readMembers? bound rest).map fun (members, rest) => (.object members, rest)
    | 'n' :: 'u' :: 'l' :: 'l' :: rest => some (.null, rest)
    | 't' :: 'r' :: 'u' :: 'e' :: rest => some (.bool true, rest)
    | 'f' :: 'a' :: 'l' :: 's' :: 'e' :: rest => some (.bool false, rest)
    | rest => (readNumeral? rest).map fun (numeral, rest) => (.number numeral, rest)

/-- The items of an array that has some, and its closing bracket. -/
def readItems? (bound : Nat) (text : Text) : Option (List JsonValue × Text) :=
  match bound with
  | 0 => none
  | bound + 1 => do
    let (item, rest) ← readValue? bound text
    match skipBlanks rest with
    | ',' :: rest =>
      let (items, rest) ← readItems? bound rest
      return (item :: items, rest)
    | ']' :: rest => return ([item], rest)
    | _ => none

/-- The members of an object that has some, and its closing brace. -/
def readMembers? (bound : Nat) (text : Text) :
    Option (List (Option Text × JsonValue) × Text) :=
  match bound with
  | 0 => none
  | bound + 1 =>
    match skipBlanks text with
    | '"' :: rest => do
      let (key?, rest) ← readLiteral? rest
      match skipBlanks rest with
      | ':' :: rest =>
        let (value, rest) ← readValue? bound rest
        match skipBlanks rest with
        | ',' :: rest =>
          let (members, rest) ← readMembers? bound rest
          return ((key?, value) :: members, rest)
        | '\x7d' :: rest => return ([(key?, value)], rest)
        | _ => none
      | _ => none
    | _ => none

end

/-- The value that a text spells, with nothing but blanks around it. Every level of nesting and
    every item takes at least one character, which bounds the reading by the length of the text. -/
def JsonValue.parse? (text : Text) : Option JsonValue := do
  let (value, rest) ← readValue? (2 * text.length + 1) text
  if (skipBlanks rest).isEmpty then return value
  none

end DirectiveStrip
