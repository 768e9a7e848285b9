import DirectiveStrip.Proofs.Guard.Derivation
import Mathlib.Control.Monad.Basic

/-!
# What Parsing Returns

The parser as a whole, for every expression, limit and history of its buffer.

An expression that is accepted by its characters and tokens has one derivation,
and parsing returns the tree of it unless its brackets nest past the limit. The
limit is the only thing that can go wrong behind the tokens. In particular no
list is ever found to have nothing to split at, however the recursion got to it.

`buildGuard` cuts lists by `take` and `drop`, which are total and so hide a cut
outside the list. `buildGuard?` is the same recursion over slices that fail
there, and it never fails: a scan only points at tokens that it has seen, and
that holds of every token list and not only of sentences.

## Main definitions

* `TokenKind.connective?`: The operator between operands of a kind.
* `buildGuard?`: Building with slices that can fail.
* `TokenBuffer.parse?`: Parsing with slices that can fail.

## Theorems

* `length_of_sliceTokens?`: The length of a slice.
* `buildGuard?_eq`: No slice reaches outside the token list.
* `parse_eq_build`: Parsing in terms of the derivation.
* `parse_eq_guard_of_tokenize`: An accepted expression that nests within the
  limit is parsed to the tree of its one derivation.
* `parse_fails_for_nesting_only`: Behind the tokens only the nesting limit
  fails, and it is exact.
-/

namespace DirectiveStrip

/-! ### Slices that can fail -/

/-- The operator between two operands that a kind of token stands for. -/
def TokenKind.connective? : TokenKind → Option Connective
  | and => some .and
  | or => some .or
  | symbol | not | openBracket | closeBracket => none

theorem length_of_sliceTokens? (tokens slice : List Token) (start stop : Nat)
    (h : sliceTokens? tokens start stop = some slice) :
    slice.length = stop - start ∧ start ≤ stop ∧ stop ≤ tokens.length := by
  unfold sliceTokens? at h
  split at h
  · next hin =>
    rw [← Option.some.inj h, List.length_drop, List.length_take]
    omega
  · cases h

theorem sliceTokens?_eq (tokens : List Token) (start stop : Nat) (hle : start ≤ stop)
    (hstop : stop ≤ tokens.length) :
    sliceTokens? tokens start stop = some ((tokens.take stop).drop start) := by
  rw [sliceTokens?, if_pos ⟨hle, hstop⟩]

theorem TokenKind.kind_of_connective? (kind : TokenKind) (connective : Connective)
    (h : kind.connective? = some connective) : connective.token.kind = kind := by
  cases kind with
  | and => rw [← Option.some.inj h]; rfl
  | or => rw [← Option.some.inj h]; rfl
  | symbol => cases h
  | not => cases h
  | openBracket => cases h
  | closeBracket => cases h

/-- Building with slices that can fail: none where one reaches outside the token
    list. Both slices of a cut are taken, and both halves built, also where the
    first half alone is an error. -/
def buildGuard? (limit depth : Nat) (tokens : List Token) : Option (Except ParseFault Guard) :=
  -- No slice is taken of a short list or past the limit.
  if limit < depth ∨ tokens.length < 4 then some (buildGuard limit depth tokens)
  else if (analyzeOperators tokens).wrapped then
    match _hinner : sliceTokens? tokens 1 (tokens.length - 1) with
    | none => none
    | some inner => buildGuard? limit (depth + 1) inner
  else
    match (analyzeOperators tokens).operator with
    | none => some (.error .unparsable)
    | some (0, .not) =>
      match _hoperand : sliceTokens? tokens 1 tokens.length with
      | none => none
      | some operand => (buildGuard? limit depth operand).map fun built => return .not (← built)
    | some (0, _) => some (.error .unparsable)
    | some (index + 1, kind) =>
      match kind.connective? with
      | none => some (.error .unparsable)
      | some connective =>
        match _hleft : sliceTokens? tokens 0 (index + 1),
            _hright : sliceTokens? tokens (index + 2) tokens.length with
        | some left, some right =>
          (buildGuard? limit depth left).bind fun l =>
            (buildGuard? limit depth right).map fun r => return connective.guard (← l) (← r)
        | _, _ => none
termination_by tokens.length
decreasing_by
  · have := length_of_sliceTokens? _ _ _ _ _hinner
    omega
  · have := length_of_sliceTokens? _ _ _ _ _hoperand
    omega
  · have := length_of_sliceTokens? _ _ _ _ _hleft
    have := length_of_sliceTokens? _ _ _ _ _hright
    omega
  · have := length_of_sliceTokens? _ _ _ _ _hright
    omega

/-- Parsing with slices that can fail. -/
def TokenBuffer.parse? (buffer : TokenBuffer) (limit : Nat) (expression : Text) :
    Option (Except ParseError Guard) :=
  match (buffer.tokenize expression).2 with
  | .error error => some (.error error)
  | .ok tokens => (buildGuard? limit 0 tokens).map (·.mapError fun fault => { expression, fault })

theorem analyzeOperators_eq (tokens : List Token) (operator : Nat × TokenKind)
    (hoperator : (analyzeOperators tokens).operator = some operator)
    (hwrapped : ¬ (analyzeOperators tokens).wrapped = true) :
    analyzeOperators tokens = { operator := some operator, wrapped := false } := by
  rw [← hoperator, ← Bool.not_eq_true _ |>.mp hwrapped]

/-- A long list that is neither wrapped nor has an operator to cut it at. -/
theorem buildGuard_unparsable (limit depth : Nat) (tokens : List Token) (hlimit : depth ≤ limit)
    (hlength : 4 ≤ tokens.length) (hwrapped : (analyzeOperators tokens).wrapped = false)
    (hnone : ∀ index kind, (analyzeOperators tokens).operator = some (index, kind) →
      (index = 0 → kind ≠ .not) ∧ (0 < index → kind.connective? = none)) :
    buildGuard limit depth tokens = .error .unparsable := by
  rcases exists_four_of_length tokens hlength with ⟨first, second, third, fourth, rest, rfl⟩
  rw [buildGuard, if_neg (Nat.not_lt.mpr hlimit)]
  simp only [hwrapped, Bool.false_eq_true, if_false]
  split
  · next index hop =>
    have := (hnone index .or hop).2
    rw [dif_neg]
    intro h
    rcases h with ⟨hpos, _⟩
    cases this hpos
  · next index hop =>
    have := (hnone index .and hop).2
    rw [dif_neg]
    intro h
    rcases h with ⟨hpos, _⟩
    cases this hpos
  · next hop => exact absurd rfl ((hnone 0 .not hop).1 rfl)
  · rfl

/-- No slice reaches outside the token list, whatever the list. -/
theorem buildGuard?_eq (limit depth : Nat) (tokens : List Token) :
    buildGuard? limit depth tokens = some (buildGuard limit depth tokens) := by
  fun_induction buildGuard? limit depth tokens with
  | case1 depth tokens hshort => rfl
  | case2 depth tokens hlong hwrapped hinner =>
      rw [sliceTokens?_eq tokens 1 _ (by omega) (by omega)] at hinner
      cases hinner
  | case3 depth tokens hlong hwrapped inner hinner ih =>
      rw [sliceTokens?_eq tokens 1 _ (by omega) (by omega), ← List.dropLast_eq_take] at hinner
      rw [ih, buildGuard_wrapped limit depth tokens (by omega) (by omega) hwrapped,
        ← Option.some.inj hinner, List.drop_one, List.tail_dropLast]
  -- Here and in two cases below there is no operator to cut at.
  | case4 depth tokens hlong hwrapped hoperator =>
      rw [buildGuard_unparsable limit depth tokens (by omega) (by omega) (by simpa using hwrapped)]
      intro index kind h
      rw [hoperator] at h
      cases h
  | case5 depth tokens hlong hwrapped hoperator hoperand =>
      rw [sliceTokens?_eq tokens 1 _ (by omega) (Nat.le_refl _)] at hoperand
      cases hoperand
  | case6 depth tokens hlong hwrapped hoperator operand hoperand ih =>
      rw [sliceTokens?_eq tokens 1 _ (by omega) (Nat.le_refl _), List.take_length] at hoperand
      rw [ih, buildGuard_not limit depth tokens (by omega) (by omega)
        (analyzeOperators_eq tokens _ hoperator hwrapped), ← Option.some.inj hoperand,
        List.drop_one]
      rfl
  | case7 depth tokens hlong hwrapped kind hnot hoperator =>
      rw [buildGuard_unparsable limit depth tokens (by omega) (by omega) (by simpa using hwrapped)]
      intro index kind' h
      rw [hoperator, Option.some.injEq, Prod.mk.injEq] at h
      exact ⟨fun _ hkind => hnot (h.2.trans hkind), fun hpos => by omega⟩
  | case8 depth tokens hlong hwrapped index kind hoperator hconnective =>
      rw [buildGuard_unparsable limit depth tokens (by omega) (by omega) (by simpa using hwrapped)]
      intro index' kind' h
      rw [hoperator, Option.some.injEq, Prod.mk.injEq] at h
      exact ⟨fun hzero => by omega, fun _ => by rw [← h.2, hconnective]⟩
  | case9 depth tokens hlong hwrapped index kind hoperator connective hconnective left right hleft
      hright ihr ihl =>
      -- The scan has seen the operator, so there is a token at its index.
      have hindex := index_lt_of_analyzeOperators tokens _ _ hoperator
      rw [sliceTokens?_eq tokens 0 _ (Nat.zero_le _) (by omega), List.drop_zero] at hleft
      rw [sliceTokens?_eq tokens _ _ (by omega) (Nat.le_refl _), List.take_length] at hright
      rw [← kind.kind_of_connective? connective hconnective] at hoperator
      rw [ihl, ihr, buildGuard_binary limit depth tokens (by omega) (by omega) connective _
        (Nat.succ_pos index) hindex (analyzeOperators_eq tokens _ hoperator hwrapped),
        ← Option.some.inj hleft, ← Option.some.inj hright]
      rfl
  | case10 depth tokens hlong hwrapped index kind hoperator connective hconnective hslices =>
      have hindex := index_lt_of_analyzeOperators tokens _ _ hoperator
      exact absurd (sliceTokens?_eq tokens _ _ (by omega) (Nat.le_refl _))
        (hslices _ _ (sliceTokens?_eq tokens 0 _ (Nat.zero_le _) (by omega)))

/-! ### Whole expressions -/

theorem parse_of_tokenize_eq_error (buffer : TokenBuffer) (limit : Nat) (expression : Text)
    (error : ParseError) (h : tokenize expression = .error error) :
    (buffer.parse limit expression).2 = .error error := by
  rw [← buffer.tokenize_eq expression] at h
  unfold TokenBuffer.parse
  split
  · next filled error' hresult =>
    rw [hresult] at h
    rw [← Except.error.inj h]
  · next filled tokens hresult =>
    rw [hresult] at h
    cases h

theorem parse_of_tokenize_eq_ok (buffer : TokenBuffer) (limit : Nat) (expression : Text)
    (tokens : List Token) (h : tokenize expression = .ok tokens) :
    (buffer.parse limit expression).2
      = (buildGuard limit 0 tokens).mapError fun fault => { expression, fault } := by
  rw [← buffer.tokenize_eq expression] at h
  unfold TokenBuffer.parse
  split
  · next filled error hresult =>
    rw [hresult] at h
    cases h
  · next filled tokens' hresult =>
    rw [hresult] at h
    rw [← Except.ok.inj h]
    split
    · next fault hbuild =>
      rw [hbuild]
      rfl
    · next guard hbuild =>
      rw [hbuild]
      rfl

/-- Parsing in terms of the derivation of an accepted expression. -/
theorem parse_eq_build (buffer : TokenBuffer) (limit : Nat) (expression : Text)
    (phrase : Phrase .disjunction) (h : tokenize expression = .ok phrase.tokens) :
    (buffer.parse limit expression).2
      = if limit < bracketNesting phrase.tokens then
          .error { expression, fault := .nestingTooDeep limit }
        else .ok phrase.guard := by
  rw [parse_of_tokenize_eq_ok buffer limit expression _ h, buildGuard_tokens,
    phrase.bracketNesting_tokens, Phrase.build, Nat.zero_add]
  split <;> rfl

/-- Parsing takes no slice outside a token list. -/
theorem parse?_eq_some (buffer : TokenBuffer) (limit : Nat) (expression : Text) :
    buffer.parse? limit expression = some (buffer.parse limit expression).2 := by
  unfold TokenBuffer.parse?
  rw [buffer.tokenize_eq expression]
  cases htokens : tokenize expression with
  | error error =>
      dsimp only
      rw [parse_of_tokenize_eq_error buffer limit expression error htokens]
  | ok tokens =>
      dsimp only
      rw [parse_of_tokenize_eq_ok buffer limit expression tokens htokens, buildGuard?_eq]
      rfl

/-- An accepted expression that nests within the limit is parsed to the tree of
    its one derivation, whatever the buffer held before. -/
theorem parse_eq_guard_of_tokenize (buffer : TokenBuffer) (limit : Nat) (expression : Text)
    (tokens : List Token) (htokens : tokenize expression = .ok tokens)
    (hnesting : bracketNesting tokens ≤ limit) :
    ∃ phrase : Phrase .disjunction, phrase.tokens = tokens ∧
      (∀ other : Phrase .disjunction, other.tokens = tokens → other = phrase) ∧
      (buffer.parse limit expression).2 = .ok phrase.guard := by
  rcases exists_phrase_of_tokenize expression tokens htokens with ⟨phrase, rfl⟩
  refine ⟨phrase, rfl, fun other h => other.tokens_injective phrase h, ?_⟩
  rw [parse_eq_build buffer limit expression phrase htokens, if_neg (Nat.not_lt.mpr hnesting)]

/-- All operators, a bracketed symbol and one pair of brackets that counts. -/
theorem parse_eq_guard_of_mixed_operators :
    tokenize "!(A || B) && (C) || D".toList
        = .ok [.not, .openBracket, .symbol ['A'], .or, .symbol ['B'], .closeBracket, .and,
            .openBracket, .symbol ['C'], .closeBracket, .or, .symbol ['D']] ∧
      ∃ phrase : Phrase .disjunction,
        phrase.tokens = [.not, .openBracket, .symbol ['A'], .or, .symbol ['B'], .closeBracket, .and,
            .openBracket, .symbol ['C'], .closeBracket, .or, .symbol ['D']] ∧
        (∀ other : Phrase .disjunction,
          other.tokens = [.not, .openBracket, .symbol ['A'], .or, .symbol ['B'], .closeBracket,
            .and, .openBracket, .symbol ['C'], .closeBracket, .or, .symbol ['D']] →
              other = phrase) ∧
        (({} : TokenBuffer).parse 1 "!(A || B) && (C) || D".toList).2 = .ok phrase.guard :=
  ⟨by decide +kernel, parse_eq_guard_of_tokenize {} 1 _ _ (by decide +kernel) (by decide)⟩

/-- Parsing fails for the characters or the tokens of an expression, with the
    error of these, and behind them for the nesting limit only, which is exact.
    No list of tokens is found to have nothing to split at, and no slice reaches
    outside one. -/
theorem parse_fails_for_nesting_only (buffer : TokenBuffer) (limit : Nat) (expression : Text) :
    buffer.parse? limit expression = some (buffer.parse limit expression).2 ∧
    (∀ source, (buffer.parse limit expression).2
      ≠ .error { expression := source, fault := .unparsable }) ∧
    match tokenize expression with
    | .error error => (buffer.parse limit expression).2 = .error error
    | .ok tokens =>
        ((buffer.parse limit expression).2 = .error { expression, fault := .nestingTooDeep limit }
          ↔ limit < bracketNesting tokens) ∧
        (¬ limit < bracketNesting tokens →
          ∃ guard, (buffer.parse limit expression).2 = .ok guard) := by
  refine ⟨parse?_eq_some buffer limit expression, ?_⟩
  cases htokens : tokenize expression with
  | error error =>
      have hparse := parse_of_tokenize_eq_error buffer limit expression error htokens
      refine ⟨?_, hparse⟩
      intro source hsource
      rw [hparse, Except.error.injEq] at hsource
      rcases (fault_of_tokenize expression error htokens).2 with
        ⟨fault, hfault⟩ | ⟨violation, hfault⟩
      · rw [hsource] at hfault
        cases hfault
      · rw [hsource] at hfault
        cases hfault
  | ok tokens =>
      -- The tokens are a sentence, and on a sentence only the limit can fail.
      rcases exists_phrase_of_tokenize expression tokens htokens with ⟨phrase, rfl⟩
      have hparse := parse_eq_build buffer limit expression phrase htokens
      dsimp only
      rw [hparse]
      by_cases hdeep : limit < bracketNesting phrase.tokens
      · rw [if_pos hdeep]
        refine ⟨?_, ⟨fun _ => hdeep, fun _ => rfl⟩, fun h => absurd hdeep h⟩
        intro source hsource
        cases hsource
      · rw [if_neg hdeep]
        refine ⟨?_, ⟨?_, fun h => absurd h hdeep⟩,
          fun _ => ⟨phrase.guard, rfl⟩⟩
        · intro source hsource
          cases hsource
        · intro h
          cases h

end DirectiveStrip
