import DirectiveStrip.Json.Numeral

/-!
# JSON values

A JSON text as a tree, close to how it is written: numbers keep their digits and objects keep their
members in order, repeated keys included. What a program makes of that is its own business.

A string literal can spell half of a surrogate pair, which is no character. Such a literal is a
well-formed piece of JSON but has no text, so strings and keys carry an optional text.

## Main definitions

* `JsonValue`: The tree.
* `JsonValue.depth`: How deep arrays and objects nest.
* `JsonValue.isRepresentable`: Whether all strings have a text and all numbers are finite.
-/

namespace DirectiveStrip

/-- A JSON value. -/
inductive JsonValue where
  | null
  | bool (value : Bool)
  | number (numeral : Numeral)
  | string (text? : Option Text)
  | array (items : List JsonValue)
  | object (members : List (Option Text × JsonValue))
deriving Repr

namespace JsonValue

mutual

/-- How many arrays and objects lie inside one another. -/
def depth : JsonValue → Nat
  | array items => depthOfItems items + 1
  | object members => depthOfMembers members + 1
  | null | bool _ | number _ | string _ => 0

/-- The greatest depth among items. -/
def depthOfItems : List JsonValue → Nat
  | [] => 0
  | item :: items => max item.depth (depthOfItems items)

/-- The greatest depth among the values of members. -/
def depthOfMembers : List (Option Text × JsonValue) → Nat
  | [] => 0
  | (_, value) :: members => max value.depth (depthOfMembers members)

end

mutual

/-- Every string and key has a text, and every number is finite. -/
def isRepresentable : JsonValue → Bool
  | null | bool _ => true
  | number numeral => numeral.isFinite
  | string text? => text?.isSome
  | array items => areRepresentable items
  | object members => membersRepresentable members

/-- All items are representable. -/
def areRepresentable : List JsonValue → Bool
  | [] => true
  | item :: items => item.isRepresentable && areRepresentable items

/-- All keys and values of members are representable. -/
def membersRepresentable : List (Option Text × JsonValue) → Bool
  | [] => true
  | (key?, value) :: members =>
    key?.isSome && value.isRepresentable && membersRepresentable members

end

end JsonValue

end DirectiveStrip
