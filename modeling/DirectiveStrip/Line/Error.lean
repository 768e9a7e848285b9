import DirectiveStrip.Line.Basic

/-!
# Why a source is refused

Every refusal names one line of the source: the line at fault, or the `#if` line that a missing
`#endif` or too deep a nesting goes back to.

## Main definitions

* `DirectiveFault`: What is wrong.
* `DirectiveError`: What is wrong with which line, and its `message`.
* `Line.error`: A fault of a line.
-/

namespace DirectiveStrip

/-- What is wrong with a line. -/
inductive DirectiveFault where
  /-- A `#` line that is none of `#if`, `#elif`, `#else` and `#endif`. -/
  | unknownDirective
  /-- `#if` or `#elif` without an expression. -/
  | missingExpression
  /-- `#if` or `#elif` with an expression that is none. -/
  | invalidExpression (source : ParseError)
  /-- `#elif`, `#else` or `#endif` without an open `#if`, or a further branch after `#else`. -/
  | unexpectedDirective
  /-- An `#if` that is still open at the end. -/
  | missingEndIf
  /-- Text after `#else` or `#endif` where that is not allowed. -/
  | trailingText
  /-- Chains nested deeper than `limit`. -/
  | nestingTooDeep (limit : Nat)
deriving DecidableEq, Repr

/-- A fault together with the number and the content of the line it is reported for. -/
structure DirectiveError where
  line : Nat
  text : Text
  fault : DirectiveFault
deriving DecidableEq, Repr

namespace DirectiveError

/-- The error in words. The line is shown as it stands, without any escaping. -/
def message (error : DirectiveError) : String :=
  let quoted := "\"" ++ String.ofList error.text ++ "\""
  let place := " on line " ++ toString error.line
  match error.fault with
  | .unknownDirective =>
    quoted ++ place ++ " cannot be parsed to a valid preprocessor directive"
  | .missingExpression => quoted ++ place ++ " has no expression"
  | .invalidExpression _ => "invalid expression in " ++ quoted ++ place
  | .unexpectedDirective => "unexpected preprocessor directive " ++ quoted ++ place
  | .missingEndIf => "could not find #endif directive for " ++ quoted ++ place
  | .trailingText => "unexpected text after directive " ++ quoted ++ place
  | .nestingTooDeep limit =>
    quoted ++ place ++ " nests deeper than the limit of " ++ toString limit

/-- The expression error behind the error, if there is one. -/
def source? (error : DirectiveError) : Option ParseError :=
  match error.fault with
  | .invalidExpression source => some source
  | _ => none

end DirectiveError

/-- A fault reported for this line. -/
def Line.error (line : Line) (fault : DirectiveFault) : DirectiveError :=
  { line := line.number, text := line.content, fault }

end DirectiveStrip
