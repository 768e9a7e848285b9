import DirectiveStrip.Guard.Basic
import DirectiveStrip.Guard.Lexer

/-!
# From tokens to guards

Validated tokens become a tree by splitting at the operator that binds outermost. One pass over a
token list finds that operator: the one in the fewest brackets, among those the loosest (`||`
before `&&` before `!`), and among equals the leftmost. Chains of one operator therefore nest to the
right. When the first and the last token are one pair of brackets around everything, the pair is
removed instead.

Only removed brackets count as nesting. A flat chain may be as long as it likes, and a bracketed
single symbol is recognised as a whole and costs nothing.

## Main definitions

* `OperatorScan`: What one pass over a token list finds out.
* `analyzeOperators`: The outermost operator, and whether the list is one bracketed expression.
* `buildGuard`: The tree of a token list, up to a nesting limit.
* `TokenBuffer.parse`: Parse an expression, using a buffer for its tokens.
* `Guard.parse`: Parse an expression.
-/

namespace DirectiveStrip

/-- An operator that may be the outermost one: where it is, how deep, and how loosely it binds. -/
structure OperatorCandidate where
  index : Nat
  kind : TokenKind
  depth : Nat
  rank : Nat
deriving DecidableEq, Repr

/-- Whether an operator at this depth and of this rank is further out than the best so far. An equal
    one is not, so the leftmost of equals stays. -/
def OperatorCandidate.beatenBy : Option OperatorCandidate → (depth rank : Nat) → Bool
  | none, _, _ => true
  | some best, depth, rank => depth < best.depth || (depth == best.depth && rank > best.rank)

/-- What a pass over the first tokens of a list has found. -/
structure OperatorScan where
  /-- How many tokens were seen. -/
  index : Nat := 0
  /-- How many brackets are open. -/
  depth : Nat := 0
  /-- The outermost operator so far. -/
  candidate : Option OperatorCandidate := none
  /-- All brackets were closed before the last token. -/
  closedEarly : Bool := false
deriving DecidableEq, Repr

/-- See one more token of a list whose last token has index `lastIndex`. -/
def OperatorScan.next (lastIndex : Nat) (scan : OperatorScan) (token : Token) : OperatorScan :=
  let scan' := { scan with index := scan.index + 1 }
  match token.kind with
  | .openBracket => { scan' with depth := scan.depth + 1 }
  | .closeBracket =>
    let depth := scan.depth - 1
    { scan' with
      depth
      closedEarly := scan.closedEarly || (scan.index != lastIndex && depth == 0) }
  | kind =>
    match kind.rank? with
    | none => scan'
    | some rank =>
      if OperatorCandidate.beatenBy scan.candidate scan.depth rank then
        { scan' with candidate := some { index := scan.index, kind, depth := scan.depth, rank } }
      else scan'

/-- Where to split a token list. -/
structure OperatorAnalysis where
  /-- Index and kind of the outermost operator, if there is any operator. -/
  operator : Option (Nat × TokenKind)
  /-- The first and the last token are one pair of brackets around everything. -/
  wrapped : Bool
deriving DecidableEq, Repr

/-- Find the outermost operator of a token list, and whether the list is wrapped in brackets. -/
def analyzeOperators (tokens : List Token) : OperatorAnalysis :=
  let scan := tokens.foldl (OperatorScan.next (tokens.length - 1)) {}
  { operator := scan.candidate.map fun candidate => (candidate.index, candidate.kind)
    wrapped := tokens.head? = some .openBracket && tokens.getLast? = some .closeBracket
      && !scan.closedEarly }

/-- The guard of a token list that lies inside `depth` removed pairs of brackets. The shapes of up
    to three tokens are read off directly; longer lists are split. -/
def buildGuard (limit depth : Nat) (tokens : List Token) : Except ParseFault Guard :=
  if limit < depth then .error (.nestingTooDeep limit)
  else
    match tokens with
    | [.symbol name] => .ok (.symbol name)
    | [.not, .symbol name] => .ok (.not (.symbol name))
    | [.symbol left, .and, .symbol right] => .ok (.and (.symbol left) (.symbol right))
    | [.symbol left, .or, .symbol right] => .ok (.or (.symbol left) (.symbol right))
    | [.openBracket, .symbol name, .closeBracket] => .ok (.symbol name)
    | [] | [_] | [_, _] | [_, _, _] => .error .unparsable
    | first :: second :: third :: fourth :: rest =>
      let tokens := first :: second :: third :: fourth :: rest
      let analysis := analyzeOperators tokens
      if analysis.wrapped then
        buildGuard limit (depth + 1) (second :: third :: fourth :: rest).dropLast
      else
        match analysis.operator with
        | some (index, .or) =>
          if h : 0 < index ∧ index < tokens.length then do
            let left ← buildGuard limit depth (tokens.take index)
            let right ← buildGuard limit depth (tokens.drop (index + 1))
            return .or left right
          else .error .unparsable
        | some (index, .and) =>
          if h : 0 < index ∧ index < tokens.length then do
            let left ← buildGuard limit depth (tokens.take index)
            let right ← buildGuard limit depth (tokens.drop (index + 1))
            return .and left right
          else .error .unparsable
        -- a negation binds tightest, so it is outermost only in front of everything
        | some (0, .not) => do
          let operand ← buildGuard limit depth (second :: third :: fourth :: rest)
          return .not operand
        | _ => .error .unparsable
termination_by tokens.length
decreasing_by
  all_goals simp_all only [tokens, List.length_cons, List.length_take, List.length_drop,
    List.length_dropLast]
  all_goals omega

/-- How deep brackets may nest unless something else is asked for. -/
def defaultNestingLimit : Nat := 128

/-- Parse an expression, reading its tokens into a buffer. What the buffer held before does not
    matter. -/
def TokenBuffer.parse (buffer : TokenBuffer) (limit : Nat) (expression : Text) :
    TokenBuffer × Except ParseError Guard :=
  match buffer.tokenize expression with
  | (filled, .error error) => (filled, .error error)
  | (filled, .ok tokens) =>
    match buildGuard limit 0 tokens with
    | .error fault => (filled, .error { expression, fault })
    | .ok guard => (filled, .ok guard)

/-- Parse an expression in which brackets may nest up to `limit` deep. -/
def Guard.parse (limit : Nat) (expression : Text) : Except ParseError Guard :=
  (({} : TokenBuffer).parse limit expression).2

end DirectiveStrip
