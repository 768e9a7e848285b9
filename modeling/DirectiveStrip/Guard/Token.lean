import DirectiveStrip.Text.Basic

/-!
# Tokens of guard expressions

A guard such as `DEBUG && !(TRACE || TEST)` is made of symbol names, three operators and two
brackets. Diagnostics speak about the kind of a token and not about the token itself, so kinds have
a type of their own.

## Main definitions

* `TokenKind`: The six kinds, with their description, spelling and binding rank.
* `Token`: A token, which is its kind and, for a symbol, its name.
* `renderTokens`: A token list written with single spaces.
-/

namespace DirectiveStrip

/-- What sort of token something is. -/
inductive TokenKind where
  | symbol
  | not
  | and
  | or
  | openBracket
  | closeBracket
deriving DecidableEq, Repr

namespace TokenKind

/-- The kind in words, as diagnostics name it. -/
def description : TokenKind → String
  | symbol => "symbol"
  | not => "not operator"
  | and => "and operator"
  | or => "or operator"
  | openBracket => "open bracket"
  | closeBracket => "close bracket"

/-- The fixed spelling of an operator or bracket; symbols have none. -/
def spelling? : TokenKind → Option Text
  | symbol => none
  | not => some ['!']
  | and => some ['&', '&']
  | or => some ['|', '|']
  | openBracket => some ['(']
  | closeBracket => some [')']

/-- How loosely an operator binds: the higher rank splits an expression first. Symbols and brackets
    are not operators and have no rank. -/
def rank? : TokenKind → Option Nat
  | not => some 1
  | and => some 2
  | or => some 3
  | symbol | openBracket | closeBracket => none

end TokenKind

/-- A token of a guard expression. -/
inductive Token where
  | symbol (name : Text)
  | not
  | and
  | or
  | openBracket
  | closeBracket
deriving DecidableEq, Repr

namespace Token

/-- The kind of a token. -/
def kind : Token → TokenKind
  | symbol _ => .symbol
  | not => .not
  | and => .and
  | or => .or
  | openBracket => .openBracket
  | closeBracket => .closeBracket

/-- The name, for a symbol. -/
def name? : Token → Option Text
  | symbol name => some name
  | not | and | or | openBracket | closeBracket => none

/-- The token as it is written in an expression. -/
def spelling : Token → Text
  | symbol name => name
  | not => ['!']
  | and => ['&', '&']
  | or => ['|', '|']
  | openBracket => ['(']
  | closeBracket => [')']

/-- The token in words: its kind, then its spelling in quotes. -/
def description (token : Token) : String :=
  token.kind.description ++ " \"" ++ String.ofList token.spelling ++ "\""

/-- An operator or bracket is written as its kind prescribes. -/
theorem spelling?_kind (token : Token) :
    token.kind.spelling? = if token.name?.isSome then none else some token.spelling := by
  cases token <;> rfl

end Token

/-- The tokens in order, with one space between each two. -/
def renderTokens (tokens : List Token) : Text :=
  joinWith [' '] (tokens.map Token.spelling)

end DirectiveStrip
