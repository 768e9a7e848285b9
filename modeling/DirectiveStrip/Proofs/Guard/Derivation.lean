import DirectiveStrip.Proofs.Guard.Outermost
import DirectiveStrip.Proofs.Guard.Sentence

/-!
# Parsing Finds the Derivation

The tree that is built for a sentence is the tree of its one derivation.

`buildGuard` does not follow the grammar. It reads the shapes of up to three
tokens off directly, and cuts longer lists at the operator that one flat scan
picks. That the cut is where the derivation has its outermost production is
what `Outermost` shows, so here an induction on the derivation is enough:
every sublist that is handed down derives a part of the phrase.

The depth counter moves only where a pair of brackets is cut off a list of more
than three tokens, and a bracketed symbol has three. So the counter follows
`Phrase.nesting`, and the limit fails exactly where the nesting exceeds it.
Nothing else fails on a sentence.

## Main definitions

* `Connective.guard`: The tree of two operands.
* `Phrase.build`: What building makes of a phrase.

## Theorems

* `buildGuard_wrapped`, `buildGuard_binary`, `buildGuard_not`: What the cut of
  a long list is.
* `buildGuard_tokens`: Building on a sentence, with the exact limit.
-/

namespace DirectiveStrip

/-! ### Cutting a long list -/

/-- The tree of two operands. -/
def Connective.guard : Connective → Guard → Guard → Guard
  | and => .and
  | or => .or

/-- What building makes of a phrase inside `depth` removed pairs of brackets: the
    tree of the phrase, unless its own brackets go past the limit. -/
def Phrase.build {level : Level} (limit depth : Nat) (phrase : Phrase level) :
    Except ParseFault Guard :=
  if limit < depth + phrase.nesting then .error (.nestingTooDeep limit) else .ok phrase.guard

theorem buildGuard_of_lt (limit depth : Nat) (tokens : List Token) (h : limit < depth) :
    buildGuard limit depth tokens = .error (.nestingTooDeep limit) := by
  rw [buildGuard.eq_def, if_pos h]

/-- A list of more than three tokens shows four of them. -/
theorem exists_four_of_length (tokens : List Token) (h : 4 ≤ tokens.length) :
    ∃ first second third fourth rest, tokens = first :: second :: third :: fourth :: rest := by
  rcases tokens with _ | ⟨first, _ | ⟨second, _ | ⟨third, _ | ⟨fourth, rest⟩⟩⟩⟩
  · exact absurd h (by decide)
  · simp only [List.length_cons, List.length_nil] at h
    omega
  · simp only [List.length_cons, List.length_nil] at h
    omega
  · simp only [List.length_cons, List.length_nil] at h
    omega
  · exact ⟨first, second, third, fourth, rest, rfl⟩

/-- A pair of brackets around everything is cut off, and counted. -/
theorem buildGuard_wrapped (limit depth : Nat) (tokens : List Token) (hlimit : depth ≤ limit)
    (hlength : 4 ≤ tokens.length) (hwrapped : (analyzeOperators tokens).wrapped = true) :
    buildGuard limit depth tokens = buildGuard limit (depth + 1) tokens.tail.dropLast := by
  rcases exists_four_of_length tokens hlength with ⟨first, second, third, fourth, rest, rfl⟩
  rw [buildGuard, if_neg (Nat.not_lt.mpr hlimit)]
  simp only [hwrapped, if_true, List.tail_cons]

/-- A binary operator cuts a list in two. -/
theorem buildGuard_binary (limit depth : Nat) (tokens : List Token) (hlimit : depth ≤ limit)
    (hlength : 4 ≤ tokens.length) (connective : Connective) (index : Nat)
    (hpos : 0 < index) (hindex : index < tokens.length)
    (h : analyzeOperators tokens
      = { operator := some (index, connective.token.kind), wrapped := false }) :
    buildGuard limit depth tokens = do
      let left ← buildGuard limit depth (tokens.take index)
      let right ← buildGuard limit depth (tokens.drop (index + 1))
      return connective.guard left right := by
  rcases exists_four_of_length tokens hlength with ⟨first, second, third, fourth, rest, rfl⟩
  rw [buildGuard, if_neg (Nat.not_lt.mpr hlimit)]
  cases connective with
  | and =>
      simp only [h, Connective.token, Token.kind, Bool.false_eq_true, if_false]
      rw [dif_pos ⟨hpos, hindex⟩]
      rfl
  | or =>
      simp only [h, Connective.token, Token.kind, Bool.false_eq_true, if_false]
      rw [dif_pos ⟨hpos, hindex⟩]
      rfl

/-- A leading negation is taken off the front. -/
theorem buildGuard_not (limit depth : Nat) (tokens : List Token) (hlimit : depth ≤ limit)
    (hlength : 4 ≤ tokens.length)
    (h : analyzeOperators tokens = { operator := some (0, .not), wrapped := false }) :
    buildGuard limit depth tokens = do
      let operand ← buildGuard limit depth tokens.tail
      return .not operand := by
  rcases exists_four_of_length tokens hlength with ⟨first, second, third, fourth, rest, rfl⟩
  rw [buildGuard, if_neg (Nat.not_lt.mpr hlimit)]
  simp only [h, Bool.false_eq_true, if_false, List.tail_cons]

/-! ### Building on a sentence -/

/-- A primary is one symbol or has a bracket at both ends. -/
theorem Phrase.length_primary (phrase : Phrase .primary) (h : phrase.tokens.length ≠ 1) :
    3 ≤ phrase.tokens.length := by
  cases phrase with
  | symbol name => exact absurd rfl h
  | bracket inner =>
      have := inner.length_tokens_pos
      simp only [tokens, List.length_cons, List.length_append, List.length_nil]
      omega

/-- Operands that are built as phrases, and the operator between them. -/
theorem buildGuard_operands {l r : Level} (limit depth : Nat) (connective : Connective)
    (left : Phrase l) (right : Phrase r) (rank : Nat)
    (hrank : connective.token.kind.rank? = some rank) (hl : l.rank < rank) (hr : r.rank ≤ rank)
    (ihl : buildGuard limit depth left.tokens = left.build limit depth)
    (ihr : buildGuard limit depth right.tokens = right.build limit depth) :
    buildGuard limit depth (left.tokens ++ connective.token :: right.tokens)
      = if limit < depth + max left.nesting right.nesting then .error (.nestingTooDeep limit)
        else .ok (connective.guard left.guard right.guard) := by
  by_cases hdepth : limit < depth
  · rw [buildGuard_of_lt limit depth _ hdepth, if_pos (by omega)]
  have hleft := left.length_tokens_pos
  have hright := right.length_tokens_pos
  by_cases hshort : (left.tokens ++ connective.token :: right.tokens).length < 4
  · -- Three tokens, so both operands are symbols.
    rw [List.length_append, List.length_cons] at hshort
    rcases left.exists_symbol_of_length_eq_one (by omega) with ⟨a, hta, hga, hna⟩
    rcases right.exists_symbol_of_length_eq_one (by omega) with ⟨b, htb, hgb, hnb⟩
    rw [hta, htb, hga, hgb, hna, hnb, if_neg (by omega), List.singleton_append]
    cases connective with
    | and =>
        rw [Connective.token, buildGuard, if_neg hdepth]
        rfl
    | or =>
        rw [Connective.token, buildGuard, if_neg hdepth]
        rfl
  · have hanalysis := analyzeOperators_binary left connective.token right rank hrank hl hr
    have hindex :
        left.tokens.length < (left.tokens ++ connective.token :: right.tokens).length := by
      rw [List.length_append, List.length_cons]
      omega
    have hdrop : (left.tokens ++ connective.token :: right.tokens).drop (left.tokens.length + 1)
        = right.tokens := by
      rw [← List.drop_drop, List.drop_left, List.drop_one, List.tail_cons]
    rw [buildGuard_binary limit depth _ (by omega) (by omega) connective _ hleft hindex hanalysis,
      List.take_left, hdrop, ihl, ihr, Phrase.build, Phrase.build]
    -- The deeper operand decides.
    by_cases hdl : limit < depth + left.nesting
    · rw [if_pos hdl, if_pos (show limit < depth + max left.nesting right.nesting by omega)]
      rfl
    · by_cases hdr : limit < depth + right.nesting
      · rw [if_neg hdl, if_pos hdr, if_pos (by omega)]
        rfl
      · rw [if_neg hdl, if_neg hdr, if_neg (by omega)]
        rfl

/-- Building on a sentence gives the tree of its derivation, unless brackets nest
    past the limit. -/
theorem buildGuard_tokens {level : Level} (limit depth : Nat) (phrase : Phrase level) :
    buildGuard limit depth phrase.tokens = phrase.build limit depth := by
  induction phrase generalizing depth with
  | symbol name =>
      rw [Phrase.tokens, buildGuard]
      rfl
  | bracket inner ih =>
      by_cases hdepth : limit < depth
      · rw [buildGuard_of_lt limit depth _ hdepth, Phrase.build, if_pos (by omega)]
      by_cases hone : inner.tokens.length = 1
      · -- A bracketed symbol is read off as a whole.
        rcases inner.exists_symbol_of_length_eq_one hone with ⟨name, htokens, hguard, _⟩
        rw [Phrase.build, Phrase.nesting, Phrase.guard, Phrase.tokens, if_pos hone, htokens, hguard,
          List.singleton_append, buildGuard]
        rfl
      · -- Otherwise the pair is cut off and counted.
        have hpos := inner.length_tokens_pos
        have hlength : 4 ≤ (Phrase.bracket inner).tokens.length := by
          simp only [Phrase.tokens, List.length_cons, List.length_append, List.length_nil]
          omega
        rw [buildGuard_wrapped limit depth _ (by omega) hlength
          (wrapped_analyzeOperators_bracket inner), Phrase.tokens, List.tail_cons,
          List.dropLast_concat, ih, Phrase.build, Phrase.build, Phrase.nesting, if_neg hone,
          Phrase.guard, Nat.add_right_comm, Nat.add_assoc]
  | ofPrimary primary ih => exact ih depth
  | not operand ih =>
      by_cases hdepth : limit < depth
      · rw [buildGuard_of_lt limit depth _ hdepth, Phrase.build, if_pos (by omega)]
      -- A negated symbol is read off as a whole; anything longer has four tokens.
      by_cases hone : operand.tokens.length = 1
      · rcases operand.exists_symbol_of_length_eq_one hone with ⟨name, htokens, hguard, hnesting⟩
        rw [Phrase.build, Phrase.nesting, Phrase.guard, Phrase.tokens, htokens, hguard, hnesting,
          buildGuard]
        rfl
      · have hlength : 4 ≤ (Phrase.not operand).tokens.length :=
          Nat.succ_le_succ (operand.length_primary hone)
        rw [buildGuard_not limit depth _ (by omega) hlength (analyzeOperators_not operand),
          Phrase.tokens, List.tail_cons, ih, Phrase.build, Phrase.build, Phrase.nesting,
          Phrase.guard]
        split <;> rfl
  | ofUnary unary ih => exact ih depth
  | and left right ihl ihr =>
      exact buildGuard_operands limit depth .and left right 2 rfl (by decide) (by decide)
        (ihl depth) (ihr depth)
  | ofConjunction conjunction ih => exact ih depth
  | or left right ihl ihr =>
      exact buildGuard_operands limit depth .or left right 3 rfl (by decide) (by decide)
        (ihl depth) (ihr depth)

end DirectiveStrip
