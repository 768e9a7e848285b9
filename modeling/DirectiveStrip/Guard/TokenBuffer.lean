import DirectiveStrip.Guard.Error

/-!
# Checking tokens as they arrive

A guard is validated while it is read: each token is admitted only if some expression continues
that way, so that the first token to go wrong is the one that gets reported. Which tokens may come
next depends on the token before and, for a closing bracket, on whether a bracket is open. The
buffer therefore carries both beside the tokens admitted so far.

A refused token leaves the buffer as it was, and so does asking for the finished list. Only `reset`
forgets tokens; a buffer that has served one expression can be reset and used for the next.

## Main definitions

* `TokenBuffer`: The tokens admitted so far, the kind of the last one, and the open brackets.
* `successors`: What may follow a token, and how a diagnostic lists it.
* `TokenBuffer.add`: Admit one more token.
* `TokenBuffer.addAll`: Admit tokens until one is refused.
* `TokenBuffer.build`: The finished expression, if the tokens form one.

## Theorems

* `TokenBuffer.toList_add`: An admitted token becomes the last one.
-/

namespace DirectiveStrip

/-- Tokens admitted so far, with what decides about the next one. -/
structure TokenBuffer where
  /-- The tokens, oldest first. -/
  tokens : Array Token := #[]
  /-- The kind of the last token, none before the first. -/
  previous : Option TokenKind := none
  /-- How many brackets are open. -/
  openBrackets : Nat := 0
deriving DecidableEq, Repr

/-- The kinds that may follow a token of kind `previous` (none for the start of the expression), and
    the words in which a diagnostic lists them. -/
def successors : (previous : Option TokenKind) → List TokenKind × String
  | none => ([.symbol, .not, .openBracket], "symbol, open bracket, or not operator")
  | some .symbol => ([.closeBracket, .and, .or], "close bracket, and operator, or or operator")
  | some .not => ([.symbol, .openBracket], "symbol or open bracket")
  | some .openBracket =>
    ([.symbol, .not, .openBracket], "symbol, not operator, or open bracket")
  | some .closeBracket =>
    ([.and, .or, .closeBracket], "and operator, or operator, or close bracket")
  | some .and | some .or =>
    ([.symbol, .openBracket, .not], "symbol, open bracket, or not operator")

namespace TokenBuffer

/-- Forget all tokens, so that another expression can be assembled. -/
def reset (buffer : TokenBuffer) : TokenBuffer :=
  { buffer with tokens := #[], previous := none, openBrackets := 0 }

/-- The number of open brackets after a token of this kind; none if it would close a bracket that
    is not open. -/
def bracketsAfter (buffer : TokenBuffer) : TokenKind → Option Nat
  | .openBracket => some (buffer.openBrackets + 1)
  | .closeBracket => if buffer.openBrackets = 0 then none else some (buffer.openBrackets - 1)
  | .symbol | .not | .and | .or => some buffer.openBrackets

/-- Admit a token, or say which rule it breaks. A token out of place is reported as such even if it
    is also a bracket too many. -/
def add (buffer : TokenBuffer) (token : Token) : Except GrammarViolation TokenBuffer :=
  let (allowed, expected) := successors buffer.previous
  if token.kind ∈ allowed then
    match buffer.bracketsAfter token.kind with
    | some openBrackets =>
      .ok { tokens := buffer.tokens.push token, previous := some token.kind, openBrackets }
    | none => .error .unexpectedCloseBracket
  else
    .error (.unexpectedToken buffer.previous token.kind expected)

/-- Admit tokens in order up to the first that is refused. The buffer keeps those before it. -/
def addAll (buffer : TokenBuffer) : List Token → TokenBuffer × Except GrammarViolation Unit
  | [] => (buffer, .ok ())
  | token :: rest =>
    match buffer.add token with
    | .ok grown => grown.addAll rest
    | .error violation => (buffer, .error violation)

/-- The finished token list, or what it lacks to be an expression. -/
def build (buffer : TokenBuffer) : Except GrammarViolation (List Token) :=
  match buffer.previous with
  | none => .error .empty
  | some last =>
    if buffer.openBrackets ≠ 0 then .error (.unclosedBrackets buffer.openBrackets)
    else if last ≠ .symbol ∧ last ≠ .closeBracket then .error .unfinished
    else if buffer.tokens.size = 1 ∧ last ≠ .symbol then .error .singleTokenNotSymbol
    else .ok buffer.tokens.toList

theorem toList_add {buffer grown : TokenBuffer} {token : Token}
    (h : buffer.add token = .ok grown) :
    grown.tokens.toList = buffer.tokens.toList ++ [token] := by
  simp only [add] at h
  split at h
  · split at h
    · cases h
      simp
    · cases h
  · cases h

end TokenBuffer

/-- The tokens from index `start` up to index `stop`; none unless both lie in the list and `start`
    is not the later one. -/
def sliceTokens? (tokens : List Token) (start stop : Nat) : Option (List Token) :=
  if start ≤ stop ∧ stop ≤ tokens.length then some ((tokens.take stop).drop start) else none

end DirectiveStrip
