import DirectiveStrip.Guard.Symbol
import DirectiveStrip.Guard.TokenBuffer

/-!
# From characters to tokens

Lexing a guard is independent of its grammar: the characters determine a list of tokens and
possibly a place where they stop making sense. `tokenize` then feeds those tokens to a
`TokenBuffer`. A token out of place is reported before any fault of the characters behind it, since
the tokens up to a fault are checked first.

White space separates tokens but is never needed between them. A name ends only at white space, at
the first character of `&&` or `||`, or at a closing bracket, so `A(` and `A!` are faults of the
characters and not of the tokens.

Places are counted in characters from the start. Reading by offsets in bytes, and counting only when
there is a fault, comes to the same (`TokenBuffer.tokenizeBytes?_eq`).

## Main definitions

* `Lexemes`: The tokens of a text, up to the first fault if there is one.
* `lex`: The lexemes of an expression.
* `TokenBuffer.takeIn`: Take the lexemes of an expression into a buffer.
* `TokenBuffer.tokenize`: Lex an expression into a buffer and finish it.
* `tokenize`: The validated tokens of an expression.
* `BufferOperation`, `TokenBuffer.perform`: What can be done with a buffer, as values.
-/

namespace DirectiveStrip

/-- The tokens that a text spells, up to its first fault if it has one. -/
structure Lexemes where
  tokens : List Token
  fault : Option LexicalFault
deriving DecidableEq, Repr

namespace Lexemes

/-- Nothing more to read. -/
def done : Lexemes := ⟨[], none⟩

/-- Reading ends at a fault. -/
def stop (fault : LexicalFault) : Lexemes := ⟨[], some fault⟩

/-- One more token in front. -/
def cons (token : Token) (rest : Lexemes) : Lexemes := ⟨token :: rest.tokens, rest.fault⟩

end Lexemes

theorem length_dropWhile_le (p : Char → Bool) (text : Text) :
    (text.dropWhile p).length ≤ text.length :=
  (List.dropWhile_sublist p).length_le

/-- The lexemes of `text`, whose first character is at `position` in the expression. -/
def lexFrom (position : Nat) (text : Text) : Lexemes :=
  match text with
  | [] => .done
  | c :: rest =>
    if isWhiteSpace c then lexFrom (position + 1) rest
    else if c = '&' then
      match rest with
      | [] => .stop (.unterminatedOperator .and position)
      | d :: rest' =>
        if d = '&' then .cons .and (lexFrom (position + 2) rest')
        else .stop (.malformedOperator .and (position + 1))
    else if c = '|' then
      match rest with
      | [] => .stop (.unterminatedOperator .or position)
      | d :: rest' =>
        if d = '|' then .cons .or (lexFrom (position + 2) rest')
        else .stop (.malformedOperator .or (position + 1))
    else if c = '!' then .cons .not (lexFrom (position + 1) rest)
    else if c = '(' then .cons .openBracket (lexFrom (position + 1) rest)
    else if c = ')' then .cons .closeBracket (lexFrom (position + 1) rest)
    else if isSymbolStart c then
      let name := c :: rest.takeWhile isSymbolContinue
      let after := rest.dropWhile isSymbolContinue
      -- the character right after a name, unless it may stand there
      match after.head?.filter (fun d => !isSymbolTerminator d) with
      | some d => .stop (.invalidSymbolCharacter (position + name.length) d)
      | none => .cons (.symbol name) (lexFrom (position + name.length) after)
    else .stop (.unexpectedCharacter position c)
termination_by text.length
decreasing_by
  all_goals simp_all only [List.length_cons]
  all_goals try omega
  exact Nat.lt_succ_of_le (length_dropWhile_le isSymbolContinue rest)

/-- The lexemes of an expression. -/
def lex (expression : Text) : Lexemes :=
  lexFrom 0 expression

namespace TokenBuffer

/-- Admit the lexemes of an expression and finish the list of tokens, unless a token or a fault of
    the characters is in the way. The buffer keeps the tokens that were admitted. -/
def takeIn (buffer : TokenBuffer) (expression : Text) (lexemes : Lexemes) :
    TokenBuffer × Except ParseError (List Token) :=
  let refuse (fault : ParseFault) : Except ParseError (List Token) := .error { expression, fault }
  match buffer.addAll lexemes.tokens with
  | (filled, .error violation) => (filled, refuse (.grammar violation))
  | (filled, .ok ()) =>
    match lexemes.fault with
    | some fault => (filled, refuse (.lexical fault))
    | none =>
      match filled.build with
      | .error violation => (filled, refuse (.grammar violation))
      | .ok tokens => (filled, .ok tokens)

/-- Read an expression into a buffer, forgetting what the buffer held before. The buffer keeps the
    tokens that were admitted, also when the expression is refused. -/
def tokenize (buffer : TokenBuffer) (expression : Text) :
    TokenBuffer × Except ParseError (List Token) :=
  buffer.reset.takeIn expression (lex expression)

end TokenBuffer

/-- The validated tokens of an expression. -/
def tokenize (expression : Text) : Except ParseError (List Token) :=
  (({} : TokenBuffer).tokenize expression).2

/-- Something to do with a token buffer. -/
inductive BufferOperation where
  | add (token : Token)
  | reset
  | build
  | tokenize (expression : Text)
deriving DecidableEq, Repr

/-- What a buffer answers to an operation. -/
inductive BufferReply where
  /-- The operation went through and gives nothing to look at. -/
  | done
  /-- A finished token list. -/
  | finished (tokens : List Token)
  /-- The tokens break the grammar. -/
  | violated (violation : GrammarViolation)
  /-- The expression was refused. -/
  | refused (error : ParseError)
deriving DecidableEq, Repr

/-- The buffer after an operation, and its reply. -/
def TokenBuffer.perform (buffer : TokenBuffer) : BufferOperation → TokenBuffer × BufferReply
  | .add token =>
    match buffer.add token with
    | .ok grown => (grown, .done)
    | .error violation => (buffer, .violated violation)
  | .reset => (buffer.reset, .done)
  | .build =>
    match buffer.build with
    | .ok tokens => (buffer, .finished tokens)
    | .error violation => (buffer, .violated violation)
  | .tokenize expression =>
    match buffer.tokenize expression with
    | (filled, .ok tokens) => (filled, .finished tokens)
    | (filled, .error error) => (filled, .refused error)

end DirectiveStrip
