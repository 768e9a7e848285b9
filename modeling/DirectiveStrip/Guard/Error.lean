import DirectiveStrip.Guard.Token

/-!
# Why a guard expression is refused

A guard fails for one of three reasons: its characters do not form tokens, its tokens do not form an
expression, or its brackets nest too deeply. Every error carries the whole expression beside the
reason. Positions count characters of the expression, from zero.

## Main definitions

* `Connective`: The two operators that are spelled with a doubled character.
* `LexicalFault`: A place where the characters form no token.
* `GrammarViolation`: A token sequence that is no expression.
* `ParseFault`: Any reason to refuse an expression.
* `ParseError`: An expression with the reason it was refused, and its `message`.
-/

namespace DirectiveStrip

/-- An operator between two operands. -/
inductive Connective where
  | and
  | or
deriving DecidableEq, Repr

namespace Connective

/-- The character that is doubled in the operator's spelling. -/
def character : Connective → Char
  | and => '&'
  | or => '|'

/-- The token of the operator. -/
def token : Connective → Token
  | and => .and
  | or => .or

/-- The operator as it is written. -/
def spelling (connective : Connective) : String :=
  String.ofList [connective.character, connective.character]

end Connective

/-- A place where the characters of an expression form no token. -/
inductive LexicalFault where
  /-- A character inside or right after a symbol name that does not belong there. -/
  | invalidSymbolCharacter (position : Nat) (character : Char)
  /-- A character that begins no token. -/
  | unexpectedCharacter (position : Nat) (character : Char)
  /-- The first half of an operator, followed at `position` by something else. -/
  | malformedOperator (operator : Connective) (position : Nat)
  /-- The first half of an operator, at `position`, as the last character. -/
  | unterminatedOperator (operator : Connective) (position : Nat)
deriving DecidableEq, Repr

/-- A token sequence that breaks the expression grammar. -/
inductive GrammarViolation where
  /-- A token that may not follow the previous one; none stands for the start. -/
  | unexpectedToken (previous : Option TokenKind) (found : TokenKind) (expected : String)
  /-- A closing bracket that was never opened. -/
  | unexpectedCloseBracket
  /-- So many more opening than closing brackets at the end. -/
  | unclosedBrackets (count : Nat)
  /-- No token at all. -/
  | empty
  /-- An operator or an opening bracket as the last token. -/
  | unfinished
  /-- A lone token that is not a symbol. -/
  | singleTokenNotSymbol
deriving DecidableEq, Repr

namespace GrammarViolation

/-- The previous token in words, or the start of the expression. -/
def describePrevious : Option TokenKind → String
  | none => "the start of the expression"
  | some kind => kind.description

/-- The violation in words. -/
def message : GrammarViolation → String
  | unexpectedToken previous found expected =>
    "expected " ++ expected ++ " after " ++ describePrevious previous ++ ", but got "
      ++ found.description
  | unexpectedCloseBracket => "unexpected close bracket"
  | unclosedBrackets count =>
    "there are " ++ toString count ++ " more open than close brackets"
  | empty => "the expression is empty"
  | unfinished => "the expression is not finished"
  | singleTokenNotSymbol => "an expression with a single token must be a symbol"

end GrammarViolation

/-- Any reason to refuse an expression. -/
inductive ParseFault where
  | lexical (fault : LexicalFault)
  | grammar (violation : GrammarViolation)
  /-- Neither an operator nor brackets to split at. -/
  | unparsable
  /-- Brackets nest deeper than `limit`. -/
  | nestingTooDeep (limit : Nat)
deriving DecidableEq, Repr

/-- A refused expression with the reason. -/
structure ParseError where
  expression : Text
  fault : ParseFault
deriving DecidableEq, Repr

/-- The broad class of a parse error. -/
inductive ErrorCategory where
  | lexical
  | grammar
deriving DecidableEq, Repr

namespace ParseError

/-- Errors on characters are lexical, all others concern the grammar. -/
def category (error : ParseError) : ErrorCategory :=
  match error.fault with
  | .lexical _ => .lexical
  | .grammar _ | .unparsable | .nestingTooDeep _ => .grammar

/-- The error in words. The expression is shown as it stands, without any escaping. -/
def message (error : ParseError) : String :=
  let quoted := "\"" ++ String.ofList error.expression ++ "\""
  match error.fault with
  | .lexical (.invalidSymbolCharacter position character) =>
    "the expression " ++ quoted ++ " contains an invalid symbol character '"
      ++ String.ofList [character] ++ "' at position " ++ toString position
  | .lexical (.unexpectedCharacter position character) =>
    "the expression " ++ quoted ++ " contains an unexpected character '"
      ++ String.ofList [character] ++ "' at position " ++ toString position
  | .lexical (.malformedOperator operator position) =>
    "the expression " ++ quoted ++ " contains no second character for " ++ operator.spelling
      ++ " at position " ++ toString position
  | .lexical (.unterminatedOperator operator position) =>
    "the expression " ++ quoted ++ " ends with an incomplete " ++ operator.spelling
      ++ " at position " ++ toString position
  | .grammar violation => "the expression " ++ quoted ++ " is erroneous: " ++ violation.message
  | .unparsable => quoted ++ " cannot be parsed to a valid preprocessor expression"
  | .nestingTooDeep limit =>
    "the expression " ++ quoted ++ " nests deeper than the limit of " ++ toString limit

end ParseError

end DirectiveStrip
