import DirectiveStrip.Proofs.Guard.Outermost
import DirectiveStrip.Proofs.Guard.Viable
import Mathlib.Algebra.Ring.Int.Defs

/-!
# Where a Sentence Is Cut

What the pass over a token list is after, said without a pass.

A sentence of more than one token is cut at one of four places. If the bracket
that it begins with is closed by its last token, the pair is taken off. If not,
it is cut at the first `||` outside of its brackets, or without one at the first
`&&`, or without either behind a leading negation. `ClosesAt` and `IsOutermost`
say this of the tokens alone, by counting brackets from the front. The pass does
not count that way: it keeps a best candidate over all operators, bracketed ones
included, and tells from one flag whether the brackets at both ends are a pair.

The two sides meet in the derivation. The analysis of a phrase is settled by
`analyzeOperators_binary` and its two companions. For the tokens, `BracketsMatch`
says that a phrase closes what it opens and nothing else, and `ShowsAtMost` that
outside of its brackets it has no operator looser than its level. So behind the
left operand all brackets are closed, which is why a bracket in front of it ends
before the last token, and the operator behind it is the first of its kind.

Whatever the place, the parts are phrases of the derivation. That is what lets
the parser take a part for a sentence again.

## Main definitions

* `bracketBalance`: How many brackets some tokens leave open.
* `ClosesAt`: Two brackets are a pair.
* `IsOutside`, `IsFirstOutside`: A token outside of all brackets, and the first.
* `IsOutermost`: The operator at which tokens are cut.
* `OperatorAnalysis.Cuts`: An analysis says where to cut tokens.
* `BracketsMatch`: Tokens whose brackets pair up among themselves.
* `ShowsAtMost`: Tokens with no operator outside that is looser than a rank.

## Theorems

* `BracketsMatch.balance_take_bracket`: Between two brackets around tokens that
  match, the first one is open.
* `IsOutside.operand_or`: What is outside in a list is the operator or outside
  in an operand.
* `Phrase.bracketsMatch`: The brackets of a phrase pair up.
* `Phrase.showsAtMost`: A phrase shows no operator looser than its level.
* `cuts_binary`, `cuts_not`, `cuts_bracket`: The analysis of each production.
* `analyzeOperators_cuts_sentence`: A sentence is analyzed as its tokens say.
-/

namespace DirectiveStrip

/-! ### What the tokens say -/

/-- What a token adds to the count of open brackets. -/
def Token.weight : Token → Int
  | openBracket => 1
  | closeBracket => -1
  | symbol _ | not | and | or => 0

/-- How many more brackets some tokens open than they close. -/
def bracketBalance (tokens : List Token) : Int :=
  (tokens.map Token.weight).sum

/-- The bracket opened at `start` is closed at `stop`: it is open in front of
    every token from behind `start` up to `stop`, and not behind `stop`. -/
structure ClosesAt (tokens : List Token) (start stop : Nat) : Prop where
  lt : start < stop
  opens : tokens[start]? = some .openBracket
  closes : tokens[stop]? = some .closeBracket
  inside (index : Nat) : start < index → index ≤ stop →
    bracketBalance (tokens.take start) < bracketBalance (tokens.take index)
  behind : bracketBalance (tokens.take (stop + 1)) = bracketBalance (tokens.take start)

/-- The token at `index` is this one, and no bracket is open in front of it. -/
def IsOutside (tokens : List Token) (token : Token) (index : Nat) : Prop :=
  tokens[index]? = some token ∧ bracketBalance (tokens.take index) = 0

/-- Of all places where this token stands outside of brackets, `index` is the
    leftmost. -/
def IsFirstOutside (tokens : List Token) (token : Token) (index : Nat) : Prop :=
  IsOutside tokens token index ∧ ∀ earlier < index, ¬ IsOutside tokens token earlier

/-- The operator at which tokens are cut: outside of brackets the leftmost `||`,
    or if there is none the leftmost `&&`, or if there is none either a negation
    in front of everything. -/
inductive IsOutermost (tokens : List Token) : Nat → TokenKind → Prop where
  | or (index : Nat) (hfirst : IsFirstOutside tokens .or index) : IsOutermost tokens index .or
  | and (index : Nat) (hor : ∀ other, ¬ IsOutside tokens .or other)
      (hfirst : IsFirstOutside tokens .and index) : IsOutermost tokens index .and
  | not (hor : ∀ other, ¬ IsOutside tokens .or other)
      (hand : ∀ other, ¬ IsOutside tokens .and other) (hnot : tokens[0]? = some .not) :
      IsOutermost tokens 0 .not

/-- An analysis says where to cut tokens so that sentences are left: it tells
    whether the first token is a bracket that the last one closes, and if not it
    finds the outermost operator. A negation has no part in front of it. -/
structure OperatorAnalysis.Cuts (analysis : OperatorAnalysis) (tokens : List Token) : Prop where
  wrapped_iff : analysis.wrapped = true ↔ ClosesAt tokens 0 (tokens.length - 1)
  inside : analysis.wrapped = true → IsSentence (tokens.tail.dropLast.map Token.kind)
  operator : analysis.wrapped = false → ∃ index kind,
    analysis.operator = some (index, kind) ∧ IsOutermost tokens index kind ∧
      (kind ≠ .not → IsSentence ((tokens.take index).map Token.kind)) ∧
      IsSentence ((tokens.drop (index + 1)).map Token.kind)

/-! ### Counting brackets -/

theorem bracketBalance_nil : bracketBalance [] = 0 := rfl

theorem bracketBalance_cons (token : Token) (rest : List Token) :
    bracketBalance (token :: rest) = token.weight + bracketBalance rest := by
  rw [bracketBalance, List.map_cons, List.sum_cons, bracketBalance]

theorem bracketBalance_append (first second : List Token) :
    bracketBalance (first ++ second) = bracketBalance first + bracketBalance second := by
  rw [bracketBalance, List.map_append, List.sum_append, bracketBalance, bracketBalance]

/-- Operators are no brackets. -/
theorem Token.weight_of_rank? (token : Token) (rank : Nat) (h : token.kind.rank? = some rank) :
    token.weight = 0 := by
  cases token with
  | symbol name => rfl
  | not => rfl
  | and => rfl
  | or => rfl
  | openBracket => cases h
  | closeBracket => cases h

/-! ### Brackets that pair up -/

/-- The brackets of these tokens pair up among themselves. -/
structure BracketsMatch (tokens : List Token) : Prop where
  balance_eq : bracketBalance tokens = 0
  balance_take (index : Nat) : 0 ≤ bracketBalance (tokens.take index)

namespace BracketsMatch

theorem singleton (token : Token) (h : token.weight = 0) : BracketsMatch [token] where
  balance_eq := by rw [bracketBalance_cons, h, bracketBalance_nil, Int.zero_add]
  balance_take index := by
    cases index with
    | zero => exact Int.le_refl 0
    | succ index =>
        rw [List.take_succ_cons, List.take_nil, bracketBalance_cons, h, bracketBalance_nil]
        exact Int.le_refl 0

theorem append {first second : List Token} (h : BracketsMatch first) (h' : BracketsMatch second) :
    BracketsMatch (first ++ second) where
  balance_eq := by rw [bracketBalance_append, h.balance_eq, h'.balance_eq, Int.zero_add]
  balance_take index := by
    rw [List.take_append, bracketBalance_append]
    exact Int.add_nonneg (h.balance_take index) (h'.balance_take _)

theorem append_operator {left right : List Token} (operator : Token) (rank : Nat)
    (hrank : operator.kind.rank? = some rank) (hl : BracketsMatch left)
    (hr : BracketsMatch right) : BracketsMatch (left ++ operator :: right) :=
  hl.append ((singleton operator (operator.weight_of_rank? rank hrank)).append hr)

/-- Up to the bracket at the end, the bracket in front is open. -/
theorem balance_take_bracket {inner : List Token} (h : BracketsMatch inner) (index : Nat)
    (hpos : 0 < index) (hle : index ≤ inner.length + 1) :
    0 < bracketBalance ((Token.openBracket :: (inner ++ [.closeBracket])).take index) := by
  cases index with
  | zero => omega
  | succ index =>
      have hinner := h.balance_take index
      rw [List.take_succ_cons, List.take_append_of_le_length (by omega), bracketBalance_cons,
        Token.weight]
      omega

theorem bracket {inner : List Token} (h : BracketsMatch inner) :
    BracketsMatch (.openBracket :: (inner ++ [.closeBracket])) := by
  have hbalance : bracketBalance (.openBracket :: (inner ++ [.closeBracket])) = 0 := by
    rw [bracketBalance_cons, bracketBalance_append, h.balance_eq]
    rfl
  refine ⟨hbalance, fun index => ?_⟩
  rcases Nat.eq_zero_or_pos index with rfl | hpos
  · exact Int.le_refl 0
  -- Positive up to the last bracket, and the whole list behind it.
  by_cases hle : index ≤ inner.length + 1
  · exact Int.le_of_lt (h.balance_take_bracket index hpos hle)
  · have hlength : (Token.openBracket :: (inner ++ [.closeBracket])).length ≤ index := by
      simp only [List.length_cons, List.length_append, List.length_nil]
      omega
    rw [List.take_of_length_le hlength]
    exact Int.le_of_eq hbalance.symm

end BracketsMatch

/-! ### What stands outside -/

section Outside

variable (first second : List Token) (token : Token) (index : Nat)

theorem isOutside_append_of_lt (h : index < first.length) :
    IsOutside (first ++ second) token index ↔ IsOutside first token index := by
  rw [IsOutside, IsOutside, List.getElem?_append_left h,
    List.take_append_of_le_length (Nat.le_of_lt h)]

theorem isOutside_append_add (h : bracketBalance first = 0) :
    IsOutside (first ++ second) token (first.length + index) ↔ IsOutside second token index := by
  rw [IsOutside, IsOutside, List.getElem?_append_right (Nat.le_add_right _ _),
    Nat.add_sub_cancel_left, List.take_length_add_append, bracketBalance_append, h, Int.zero_add]

/-- Between operands a token stands outside if it does in one of them, or if it
    is the operator. -/
theorem IsOutside.operand_or (operator : Token) (hoperator : operator.weight = 0)
    (hfirst : bracketBalance first = 0)
    (h : IsOutside (first ++ operator :: second) token index) :
    IsOutside first token index ∨ token = operator ∨ ∃ index', IsOutside second token index' := by
  by_cases hlt : index < first.length
  · exact Or.inl ((isOutside_append_of_lt _ _ _ _ hlt).mp h)
  · -- From the operator on the count begins at zero again.
    have hsum : index = first.length + (index - first.length) := by omega
    rw [hsum, isOutside_append_add _ _ _ _ hfirst] at h
    cases hoffset : index - first.length with
    | zero =>
        rw [hoffset] at h
        exact Or.inr (Or.inl (Option.some.inj h.1).symm)
    | succ index' =>
        rw [hoffset, Nat.add_comm] at h
        have hsingle : bracketBalance [operator] = 0 := by
          rw [bracketBalance_cons, hoperator, bracketBalance_nil, Int.zero_add]
        exact Or.inr (Or.inr ⟨index', (isOutside_append_add [operator] _ _ _ hsingle).mp h⟩)

/-- Of a pair of brackets and what it contains, only the first bracket is
    outside. -/
theorem IsOutside.eq_openBracket (hinner : BracketsMatch first)
    (h : IsOutside (.openBracket :: (first ++ [.closeBracket])) token index) :
    token = .openBracket := by
  rcases Nat.eq_zero_or_pos index with rfl | hpos
  · exact (Option.some.inj h.1).symm
  · have hlength := (List.getElem?_eq_some_iff.mp h.1).1
    simp only [List.length_cons, List.length_append, List.length_nil] at hlength
    have hopen := hinner.balance_take_bracket index hpos (by omega)
    rw [h.2] at hopen
    exact absurd hopen (Int.lt_irrefl 0)

end Outside

/-- Outside of brackets these tokens have no operator looser than `rank`. -/
def ShowsAtMost (tokens : List Token) (rank : Nat) : Prop :=
  ∀ token index rank', token.kind.rank? = some rank' → IsOutside tokens token index → rank' ≤ rank

namespace ShowsAtMost

theorem mono {tokens : List Token} {rank rank' : Nat} (h : ShowsAtMost tokens rank)
    (hle : rank ≤ rank') : ShowsAtMost tokens rank' :=
  fun token index looser hlooser houtside =>
    Nat.le_trans (h token index looser hlooser houtside) hle

theorem nil : ShowsAtMost [] 0 := by
  intro token index rank hrank houtside
  cases houtside.1

theorem symbol (name : Text) : ShowsAtMost [.symbol name] 0 := by
  intro token index rank hrank houtside
  rw [List.mem_singleton.mp (List.mem_of_getElem? houtside.1)] at hrank
  cases hrank

theorem bracket {inner : List Token} (h : BracketsMatch inner) :
    ShowsAtMost (.openBracket :: (inner ++ [.closeBracket])) 0 := by
  intro token index rank hrank houtside
  rw [houtside.eq_openBracket inner token index h] at hrank
  cases hrank

theorem append_operator {left right : List Token} (operator : Token) (rank : Nat)
    (hrank : operator.kind.rank? = some rank) (hbalance : bracketBalance left = 0)
    (hl : ShowsAtMost left rank) (hr : ShowsAtMost right rank) :
    ShowsAtMost (left ++ operator :: right) rank := by
  intro token index rank' hrank' houtside
  rcases houtside.operand_or left right token index operator
    (operator.weight_of_rank? rank hrank) hbalance with hleft | rfl | ⟨index', hright⟩
  · exact hl token index rank' hrank' hleft
  · rw [hrank, Option.some.injEq] at hrank'
    exact Nat.le_of_eq hrank'.symm
  · exact hr token index' rank' hrank' hright

end ShowsAtMost

/-! ### Phrases -/

namespace Phrase

variable {level : Level}

theorem bracketsMatch (phrase : Phrase level) : BracketsMatch phrase.tokens := by
  induction phrase with
  | symbol name => exact .singleton (.symbol name) rfl
  | bracket inner ih => exact ih.bracket
  | ofPrimary primary ih => exact ih
  | not operand ih => exact (BracketsMatch.singleton .not rfl).append ih
  | ofUnary unary ih => exact ih
  | and left right ihl ihr => exact ihl.append_operator .and 2 rfl ihr
  | ofConjunction conjunction ih => exact ih
  | or left right ihl ihr => exact ihl.append_operator .or 3 rfl ihr

theorem showsAtMost (phrase : Phrase level) : ShowsAtMost phrase.tokens level.rank := by
  induction phrase with
  | symbol name => exact .symbol name
  | bracket inner ih => exact .bracket inner.bracketsMatch
  | ofPrimary primary ih => exact ih.mono (Nat.zero_le 1)
  | not operand ih =>
      exact .append_operator .not 1 rfl rfl (ShowsAtMost.nil.mono (Nat.zero_le 1))
        (ih.mono (Nat.zero_le 1))
  | ofUnary unary ih => exact ih.mono (Nat.le_succ 1)
  | and left right ihl ihr =>
      exact .append_operator .and 2 rfl left.bracketsMatch.balance_eq (ihl.mono (Nat.le_succ 1)) ihr
  | ofConjunction conjunction ih => exact ih.mono (Nat.le_succ 2)
  | or left right ihl ihr =>
      exact .append_operator .or 3 rfl left.bracketsMatch.balance_eq (ihl.mono (Nat.le_succ 2)) ihr

theorem not_isOutside (phrase : Phrase level) (token : Token) (rank : Nat)
    (hrank : token.kind.rank? = some rank) (hlt : level.rank < rank) (index : Nat) :
    ¬ IsOutside phrase.tokens token index := by
  intro houtside
  have := phrase.showsAtMost token index rank hrank houtside
  omega

/-- Behind an operand that shows nothing as loose, an operator is the first of
    its kind. -/
theorem isFirstOutside_operator (left : Phrase level) (token : Token) (right : List Token)
    (rank : Nat) (hrank : token.kind.rank? = some rank) (hlt : level.rank < rank) :
    IsFirstOutside (left.tokens ++ token :: right) token left.tokens.length := by
  refine ⟨?_, ?_⟩
  · exact (isOutside_append_add left.tokens _ token 0 left.bracketsMatch.balance_eq).mpr ⟨rfl, rfl⟩
  · -- An earlier one would be in the operand.
    intro earlier hearlier houtside
    exact left.not_isOutside token rank hrank hlt earlier
      ((isOutside_append_of_lt _ _ _ _ hearlier).mp houtside)

/-- Behind an operand all brackets are closed, the one in front included. -/
theorem not_closesAt_of_le (left : Phrase level) (rest : List Token) (stop : Nat)
    (hstop : left.tokens.length ≤ stop) : ¬ ClosesAt (left.tokens ++ rest) 0 stop := by
  intro hcloses
  have hopen := hcloses.inside left.tokens.length left.length_tokens_pos hstop
  rw [List.take_left, left.bracketsMatch.balance_eq] at hopen
  exact absurd hopen (Int.lt_irrefl 0)

end Phrase

/-! ### The analysis of a sentence -/

theorem cuts_binary {l r : Level} (left : Phrase l) (token : Token) (right : Phrase r)
    (rank : Nat) (hrank : token.kind.rank? = some rank) (hl : l.rank < rank) (hr : r.rank ≤ rank)
    (houtermost : IsOutermost (left.tokens ++ token :: right.tokens) left.tokens.length
      token.kind) :
    (analyzeOperators (left.tokens ++ token :: right.tokens)).Cuts
      (left.tokens ++ token :: right.tokens) := by
  rw [analyzeOperators_binary left token right rank hrank hl hr]
  refine ⟨?_, ?_, ?_⟩
  · -- A bracket in front is closed in the left operand, so not by the last token.
    simp only [Bool.false_eq_true, false_iff]
    refine left.not_closesAt_of_le _ _ ?_
    rw [List.length_append, List.length_cons]
    omega
  · intro h
    cases h
  · intro _
    refine ⟨left.tokens.length, token.kind, rfl, houtermost, fun _ => ?_, ?_⟩
    · rw [List.take_left]
      exact left.isSentence
    · rw [List.drop_length_add_append, List.drop_succ_cons, List.drop_zero]
      exact right.isSentence

theorem cuts_not (operand : Phrase .primary) :
    (analyzeOperators (.not :: operand.tokens)).Cuts (.not :: operand.tokens) := by
  rw [analyzeOperators_not operand]
  refine ⟨?_, ?_, ?_⟩
  · simp only [Bool.false_eq_true, false_iff]
    intro hcloses
    cases hcloses.opens
  · intro h
    cases h
  · intro _
    -- No phrase of this level shows an operator between operands.
    refine ⟨0, .not, rfl, ?_, fun h => absurd rfl h, operand.isSentence⟩
    exact .not ((Phrase.not operand).not_isOutside .or 3 rfl (by decide))
      ((Phrase.not operand).not_isOutside .and 2 rfl (by decide)) rfl

theorem cuts_bracket (inner : Phrase .disjunction) :
    (analyzeOperators (.openBracket :: (inner.tokens ++ [.closeBracket]))).Cuts
      (.openBracket :: (inner.tokens ++ [.closeBracket])) := by
  have hwrapped := wrapped_analyzeOperators_bracket inner
  have hlength : (Token.openBracket :: (inner.tokens ++ [.closeBracket])).length - 1
      = inner.tokens.length + 1 := by
    simp only [List.length_cons, List.length_append, List.length_nil]
    omega
  refine ⟨?_, ?_, ?_⟩
  · rw [hwrapped, hlength]
    simp only [true_iff]
    -- The flag is up. What is left is that the brackets are a pair.
    refine ⟨Nat.succ_pos _, rfl, ?_, ?_, ?_⟩
    · rw [List.getElem?_cons_succ, List.getElem?_concat_length]
    · intro index hpos hle
      rw [List.take_zero, bracketBalance_nil]
      exact inner.bracketsMatch.balance_take_bracket index hpos hle
    · rw [List.take_of_length_le (by simp), inner.bracketsMatch.bracket.balance_eq]
      rfl
  · intro _
    rw [List.tail_cons, List.dropLast_concat]
    exact inner.isSentence
  · intro h
    rw [hwrapped] at h
    cases h

/-- The analysis of a sentence that is not a lone symbol, from its tokens: it is
    wrapped exactly if its first token is a bracket and the last one closes it.
    If not, there is an operator, the leftmost `||` outside of brackets, or
    without one the leftmost `&&`, or without either a leading negation. The
    parts that the parser goes on with are sentences. -/
theorem analyzeOperators_cuts_sentence (tokens : List Token)
    (hsentence : IsSentence (tokens.map Token.kind)) (hlength : 1 < tokens.length) :
    (analyzeOperators tokens).Cuts tokens := by
  rcases (isSentence_map_kind_iff tokens).mp hsentence with ⟨phrase, rfl⟩
  -- The first production that is not a step down to the next level decides.
  cases phrase with
  | or left right =>
      exact cuts_binary left .or right 3 rfl (by decide) (by decide)
        (.or _ (left.isFirstOutside_operator .or _ 3 rfl (by decide)))
  | ofConjunction conjunction =>
      cases conjunction with
      | and left right =>
          exact cuts_binary left .and right 2 rfl (by decide) (by decide)
            (.and _ ((Phrase.and left right).not_isOutside .or 3 rfl (by decide))
              (left.isFirstOutside_operator .and _ 2 rfl (by decide)))
      | ofUnary unary =>
          cases unary with
          | not operand => exact cuts_not operand
          | ofPrimary primary =>
              cases primary with
              | symbol name => exact absurd hlength (Nat.lt_irrefl 1)
              | bracket inner => exact cuts_bracket inner

/-- Brackets at both ends that are no pair, a looser operator in each of them,
    and an operator outside. -/
theorem analyzeOperators_cuts_sentence_of_two_brackets :
    ∃ tokens, tokenize "(A || B) && !(C || D)".toList = .ok tokens ∧
      IsSentence (tokens.map Token.kind) ∧ 1 < tokens.length ∧
      analyzeOperators tokens = { operator := some (5, .and), wrapped := false } ∧
      ¬ ClosesAt tokens 0 (tokens.length - 1) ∧ IsOutermost tokens 5 .and ∧
      IsSentence ((tokens.take 5).map Token.kind) ∧
      IsSentence ((tokens.drop 6).map Token.kind) := by
  have htokens : tokenize "(A || B) && !(C || D)".toList
      = .ok [.openBracket, .symbol ['A'], .or, .symbol ['B'], .closeBracket, .and, .not,
          .openBracket, .symbol ['C'], .or, .symbol ['D'], .closeBracket] := by
    decide +kernel
  have hsentence := (isSentence_map_kind_iff _).mpr (exists_phrase_of_tokenize _ _ htokens)
  have hcuts := analyzeOperators_cuts_sentence _ hsentence (by decide)
  refine ⟨_, htokens, hsentence, by decide, by decide, ?_, ?_⟩
  · rw [← hcuts.wrapped_iff]
    decide
  · -- The pass is run for the place, and the rest is said of that place.
    rcases hcuts.operator (by decide) with ⟨index, kind, hoperator, houtermost, hleft, hright⟩
    have hfound : (5, TokenKind.and) = (index, kind) :=
      Option.some.inj (Eq.trans (by decide) hoperator)
    cases hfound
    exact ⟨houtermost, hleft (by decide), hright⟩

end DirectiveStrip
