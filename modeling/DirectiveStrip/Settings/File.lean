import DirectiveStrip.Json.Reader
import DirectiveStrip.Settings

/-!
# Settings in JSON

Settings are written as a JSON object with one member per choice. Members that are left out keep
their defaults, members of other names are passed over, and a choice must not be made twice.

A settings file also lists symbols. It is held to a stricter standard than bare settings: even what
is passed over has to be representable and must not nest too deeply, since the whole file is taken
in before its members are sorted out. In return, a choice written as an object may also name its
option with an empty object.

## Main definitions

* `Settings.ofMembers?`: The settings that the members of an object describe.
* `Settings.parse?`: Settings as a JSON text.
* `SettingsFile`: The contents of a settings file.
* `SettingsFile.parse?`: The contents of a settings file as a JSON text.
-/

namespace DirectiveStrip

/-- Members whose keys all have a text. -/
abbrev Members := List (Text × JsonValue)

/-- The members of an object whose keys all have a text. -/
def membersOf? : JsonValue → Option Members
  | .object members => members.mapM fun (key?, value) => key?.map fun key => (key, value)
  | _ => none

/-- The value of the member of this name, if it is read; the default if there is no such member. A
    member given more than once is refused. -/
def readMember? {α : Type} (members : Members) (key : String) (read? : JsonValue → Option α)
    (default : α) : Option α :=
  match members.filter (·.1 = key.toList) with
  | [] => some default
  | [(_, value)] => read? value
  | _ => none

/-- An option given by its name, or by an object with the name as its only key and a value that
    stands for nothing. -/
def readOption? {α : Type} (ofName? : String → Option α) (standsForNothing : JsonValue → Bool) :
    JsonValue → Option α
  | .string (some name) => ofName? (String.ofList name)
  | .object [(some name, value)] =>
    if standsForNothing value then ofName? (String.ofList name) else none
  | _ => none

/-- A number that a setting can have, written in digits only. -/
def readCount? : JsonValue → Option Nat
  | .number numeral => numeral.nat?.filter (· ≤ largestWord)
  | _ => none

/-- The null value stands for nothing. -/
def isNull : JsonValue → Bool
  | .null => true
  | _ => false

/-- The null value and the empty object stand for nothing. -/
def isNullOrEmpty : JsonValue → Bool
  | .null => true
  | .object [] => true
  | _ => false

/-- The settings that the members of an object describe. -/
def Settings.ofMembers? (standsForNothing : JsonValue → Bool) (members : Members) :
    Option Settings := do
  let defaults : Settings := {}
  let lineEnding ← readMember? members "line_ending"
    (readOption? LineEnding.ofName? standsForNothing) defaults.lineEnding
  let trailingText ← readMember? members "trailing_text"
    (readOption? TrailingText.ofName? standsForNothing) defaults.trailingText
  let unknownDirectives ← readMember? members "unknown_directives"
    (readOption? UnknownDirectives.ofName? standsForNothing) defaults.unknownDirectives
  let nestingLimit ← readMember? members "nesting_limit" readCount? defaults.nestingLimit
  let tokenCapacity ← readMember? members "token_capacity" readCount? defaults.tokenCapacity
  return { lineEnding, trailingText, unknownDirectives, nestingLimit, tokenCapacity }

/-- Settings as a JSON text. -/
def Settings.parse? (text : Text) : Option Settings := do
  let members ← membersOf? (← JsonValue.parse? text)
  Settings.ofMembers? isNull members

/-- A list of texts. -/
def readTexts? : JsonValue → Option (List Text)
  | .array items => items.mapM fun
    | .string text? => text?
    | _ => none
  | _ => none

/-- The contents of a settings file. -/
structure SettingsFile where
  /-- Symbols to define, as listed. They need not be proper names. -/
  symbols : List Text
  settings : Settings
deriving DecidableEq, Repr

/-- How deep a settings file may nest. -/
def settingsFileDepth : Nat := 127

/-- The contents of a settings file as a JSON text. -/
def SettingsFile.parse? (text : Text) : Option SettingsFile := do
  let value ← JsonValue.parse? text
  if settingsFileDepth < value.depth || !value.isRepresentable then none
  let members ← membersOf? value
  let symbols ← readMember? members "symbols" readTexts? []
  let settings ← Settings.ofMembers? isNullOrEmpty members
  return { symbols, settings }

end DirectiveStrip
