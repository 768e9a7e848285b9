import DirectiveStrip.Proofs.Guard.Parsing

/-!
# Chains Associate Either Way

Parsing nests chains of one operator to the right, because it cuts a list at the
leftmost of equal operators. Most languages nest them to the left. This module
says that nobody can tell: the tree of the other grammar has the same value, asks
for the same symbols in the same order to find it, and lists the same names.

`LeftPhrase` has the derivations of the grammar whose operators recurse on the
left:

    disjunction := conjunction | disjunction '||' conjunction
    conjunction := unary | conjunction '&&' unary

The two grammars have the same sentences, and more: `LeftPhrase.right` hangs the
operands of every chain over, `Phrase.left` hangs them back, and each undoes the
other. So a sentence has one derivation in the left grammar because it has one in
the right grammar, and the two differ by how their chains are hung and by nothing
else.

Hanging over one operand is an instance of associativity, `Guard.Alike.assoc`.
It holds of what is asked and not only of values: in either tree the operands of
a chain are evaluated from left to right, up to the first that decides.

## Main definitions

* `Guard.Alike`: Guards that cannot be told apart by evaluating them.
* `LeftPhrase`: The derivations of the grammar that recurses on the left.
* `Phrase.appendAnd`, `Phrase.appendOr`: One more operand behind a chain.
* `LeftPhrase.prependAnd`, `LeftPhrase.prependOr`: One more operand in front of a
  chain.
* `LeftPhrase.right`, `Phrase.left`: A derivation of the other grammar.

## Theorems

* `Guard.Alike.assoc`: Both operators associate.
* `LeftPhrase.tokens_right`, `LeftPhrase.alike_right`: The other derivation has
  the same tokens, and its tree is not told apart.
* `LeftPhrase.left_right`, `Phrase.right_left`: There and back.
* `parse_alike_left_associative`: The tree of an accepted expression and its
  tree in the left grammar are alike.
-/

namespace DirectiveStrip

/-! ### Guards that are not told apart -/

/-- Guards with the same value, found by asking for the same symbols in the same
    order, and with the same names from left to right. -/
structure Guard.Alike (guard other : Guard) : Prop where
  evaluate_eq (defined : Text → Bool) : guard.evaluate defined = other.evaluate defined
  symbols_eq : guard.symbols = other.symbols

namespace Guard.Alike

variable {guard other third left left' right right' : Guard}

theorem refl (guard : Guard) : guard.Alike guard where
  evaluate_eq _ := rfl
  symbols_eq := rfl

theorem trans (h : guard.Alike other) (h' : other.Alike third) : guard.Alike third where
  evaluate_eq defined := (h.evaluate_eq defined).trans (h'.evaluate_eq defined)
  symbols_eq := h.symbols_eq.trans h'.symbols_eq

theorem not (h : guard.Alike other) : (Guard.not guard).Alike (Guard.not other) where
  evaluate_eq defined := by rw [evaluate, evaluate, h.evaluate_eq defined]
  symbols_eq := h.symbols_eq

/-- Operands can be exchanged for operands that are not told apart from them. -/
theorem operands (connective : Connective) (hl : left.Alike left') (hr : right.Alike right') :
    (connective.guard left right).Alike (connective.guard left' right') where
  evaluate_eq defined := by
    have hleft := hl.evaluate_eq defined
    have hright := hr.evaluate_eq defined
    cases connective with
    | and => rw [Connective.guard, evaluate, evaluate, hleft, hright]
    | or => rw [Connective.guard, evaluate, evaluate, hleft, hright]
  symbols_eq := by
    cases connective with
    | and => rw [Connective.guard, symbols, symbols, hl.symbols_eq, hr.symbols_eq]
    | or => rw [Connective.guard, symbols, symbols, hl.symbols_eq, hr.symbols_eq]

/-- Either way the operands are evaluated in order, up to the first that decides. -/
theorem assoc (connective : Connective) (first second last : Guard) :
    (connective.guard first (connective.guard second last)).Alike
      (connective.guard (connective.guard first second) last) where
  evaluate_eq defined := by
    cases connective with
    | and =>
        simp only [Connective.guard, evaluate]
        cases (first.evaluate defined).value <;> cases (second.evaluate defined).value <;>
          simp
    | or =>
        simp only [Connective.guard, evaluate]
        cases (first.evaluate defined).value <;> cases (second.evaluate defined).value <;>
          simp
  symbols_eq := by
    cases connective with
    | and => simp only [Connective.guard, symbols, List.append_assoc]
    | or => simp only [Connective.guard, symbols, List.append_assoc]

end Guard.Alike

/-! ### The grammar that recurses on the left -/

/-- The derivations at a level of the grammar that recurses on the left. -/
inductive LeftPhrase : Level → Type where
  | symbol (name : Text) : LeftPhrase .primary
  | bracket (inner : LeftPhrase .disjunction) : LeftPhrase .primary
  | ofPrimary (primary : LeftPhrase .primary) : LeftPhrase .unary
  | not (operand : LeftPhrase .primary) : LeftPhrase .unary
  | ofUnary (unary : LeftPhrase .unary) : LeftPhrase .conjunction
  | and (left : LeftPhrase .conjunction) (right : LeftPhrase .unary) : LeftPhrase .conjunction
  | ofConjunction (conjunction : LeftPhrase .conjunction) : LeftPhrase .disjunction
  | or (left : LeftPhrase .disjunction) (right : LeftPhrase .conjunction) : LeftPhrase .disjunction

namespace LeftPhrase

/-- The sentence that is derived. -/
def tokens : {level : Level} → LeftPhrase level → List Token
  | _, symbol name => [.symbol name]
  | _, bracket inner => .openBracket :: (inner.tokens ++ [.closeBracket])
  | _, ofPrimary primary => primary.tokens
  | _, not operand => .not :: operand.tokens
  | _, ofUnary unary => unary.tokens
  | _, and left right => left.tokens ++ .and :: right.tokens
  | _, ofConjunction conjunction => conjunction.tokens
  | _, or left right => left.tokens ++ .or :: right.tokens

/-- The tree, its brackets dropped. -/
def guard : {level : Level} → LeftPhrase level → Guard
  | _, symbol name => .symbol name
  | _, bracket inner => inner.guard
  | _, ofPrimary primary => primary.guard
  | _, not operand => .not operand.guard
  | _, ofUnary unary => unary.guard
  | _, and left right => .and left.guard right.guard
  | _, ofConjunction conjunction => conjunction.guard
  | _, or left right => .or left.guard right.guard

end LeftPhrase

/-! ### Hanging chains over -/

/-- One more operand behind a conjunction. -/
def Phrase.appendAnd : Phrase .conjunction → Phrase .unary → Phrase .conjunction
  | ofUnary unary, last => and unary (ofUnary last)
  | and unary rest, last => and unary (rest.appendAnd last)

/-- One more operand behind a disjunction. -/
def Phrase.appendOr : Phrase .disjunction → Phrase .conjunction → Phrase .disjunction
  | ofConjunction conjunction, last => or conjunction (ofConjunction last)
  | or conjunction rest, last => or conjunction (rest.appendOr last)

/-- One more operand in front of a conjunction. -/
def LeftPhrase.prependAnd : LeftPhrase .conjunction → LeftPhrase .unary → LeftPhrase .conjunction
  | ofUnary unary, first => and (ofUnary first) unary
  | and front unary, first => and (front.prependAnd first) unary

/-- One more operand in front of a disjunction. -/
def LeftPhrase.prependOr :
    LeftPhrase .disjunction → LeftPhrase .conjunction → LeftPhrase .disjunction
  | ofConjunction conjunction, first => or (ofConjunction first) conjunction
  | or front conjunction, first => or (front.prependOr first) conjunction

/-- The derivation with every chain hung over to the right. -/
def LeftPhrase.right : {level : Level} → LeftPhrase level → Phrase level
  | _, symbol name => .symbol name
  | _, bracket inner => .bracket inner.right
  | _, ofPrimary primary => .ofPrimary primary.right
  | _, not operand => .not operand.right
  | _, ofUnary unary => .ofUnary unary.right
  | _, and front last => front.right.appendAnd last.right
  | _, ofConjunction conjunction => .ofConjunction conjunction.right
  | _, or front last => front.right.appendOr last.right

/-- The derivation with every chain hung over to the left. -/
def Phrase.left : {level : Level} → Phrase level → LeftPhrase level
  | _, symbol name => .symbol name
  | _, bracket inner => .bracket inner.left
  | _, ofPrimary primary => .ofPrimary primary.left
  | _, not operand => .not operand.left
  | _, ofUnary unary => .ofUnary unary.left
  | _, and first rest => rest.left.prependAnd first.left
  | _, ofConjunction conjunction => .ofConjunction conjunction.left
  | _, or first rest => rest.left.prependOr first.left

namespace Phrase

theorem tokens_appendAnd (front : Phrase .conjunction) (last : Phrase .unary) :
    (front.appendAnd last).tokens = front.tokens ++ .and :: last.tokens := by
  fun_induction appendAnd front last with
  | case1 unary last => rfl
  | case2 unary rest last ih =>
      simp only [tokens, ih, List.append_assoc, List.cons_append]

theorem tokens_appendOr (front : Phrase .disjunction) (last : Phrase .conjunction) :
    (front.appendOr last).tokens = front.tokens ++ .or :: last.tokens := by
  fun_induction appendOr front last with
  | case1 conjunction last => rfl
  | case2 conjunction rest last ih =>
      simp only [tokens, ih, List.append_assoc, List.cons_append]

theorem alike_appendAnd (front : Phrase .conjunction) (last : Phrase .unary) :
    (front.appendAnd last).guard.Alike (.and front.guard last.guard) := by
  fun_induction appendAnd front last with
  | case1 unary last => exact .refl _
  | case2 unary rest last ih =>
      exact (Guard.Alike.operands .and (.refl unary.guard) ih).trans (.assoc .and _ _ _)

theorem alike_appendOr (front : Phrase .disjunction) (last : Phrase .conjunction) :
    (front.appendOr last).guard.Alike (.or front.guard last.guard) := by
  fun_induction appendOr front last with
  | case1 conjunction last => exact .refl _
  | case2 conjunction rest last ih =>
      exact (Guard.Alike.operands .or (.refl conjunction.guard) ih).trans (.assoc .or _ _ _)

theorem left_appendAnd (front : Phrase .conjunction) (last : Phrase .unary) :
    (front.appendAnd last).left = .and front.left last.left := by
  fun_induction appendAnd front last with
  | case1 unary last => simp only [left, LeftPhrase.prependAnd]
  | case2 unary rest last ih => simp only [left, ih, LeftPhrase.prependAnd]

theorem left_appendOr (front : Phrase .disjunction) (last : Phrase .conjunction) :
    (front.appendOr last).left = .or front.left last.left := by
  fun_induction appendOr front last with
  | case1 conjunction last => simp only [left, LeftPhrase.prependOr]
  | case2 conjunction rest last ih => simp only [left, ih, LeftPhrase.prependOr]

end Phrase

namespace LeftPhrase

variable {level : Level}

theorem right_prependAnd (rest : LeftPhrase .conjunction) (first : LeftPhrase .unary) :
    (rest.prependAnd first).right = .and first.right rest.right := by
  fun_induction prependAnd rest first with
  | case1 unary first => simp only [right, Phrase.appendAnd]
  | case2 front unary first ih => simp only [right, ih, Phrase.appendAnd]

theorem right_prependOr (rest : LeftPhrase .disjunction) (first : LeftPhrase .conjunction) :
    (rest.prependOr first).right = .or first.right rest.right := by
  fun_induction prependOr rest first with
  | case1 conjunction first => simp only [right, Phrase.appendOr]
  | case2 front conjunction first ih => simp only [right, ih, Phrase.appendOr]

theorem tokens_right (phrase : LeftPhrase level) : phrase.right.tokens = phrase.tokens := by
  induction phrase with
  | symbol name => rfl
  | bracket inner ih => rw [right, Phrase.tokens, tokens, ih]
  | ofPrimary primary ih => exact ih
  | not operand ih => rw [right, Phrase.tokens, tokens, ih]
  | ofUnary unary ih => exact ih
  | and front last ihf ihl => rw [right, Phrase.tokens_appendAnd, tokens, ihf, ihl]
  | ofConjunction conjunction ih => exact ih
  | or front last ihf ihl => rw [right, Phrase.tokens_appendOr, tokens, ihf, ihl]

theorem alike_right (phrase : LeftPhrase level) : phrase.right.guard.Alike phrase.guard := by
  induction phrase with
  | symbol name => exact .refl _
  | bracket inner ih => exact ih
  | ofPrimary primary ih => exact ih
  | not operand ih => exact ih.not
  | ofUnary unary ih => exact ih
  | and front last ihf ihl =>
      exact (Phrase.alike_appendAnd _ _).trans (Guard.Alike.operands .and ihf ihl)
  | ofConjunction conjunction ih => exact ih
  | or front last ihf ihl =>
      exact (Phrase.alike_appendOr _ _).trans (Guard.Alike.operands .or ihf ihl)

theorem left_right (phrase : LeftPhrase level) : phrase.right.left = phrase := by
  induction phrase with
  | symbol name => rfl
  | bracket inner ih => rw [right, Phrase.left, ih]
  | ofPrimary primary ih => rw [right, Phrase.left, ih]
  | not operand ih => rw [right, Phrase.left, ih]
  | ofUnary unary ih => rw [right, Phrase.left, ih]
  | and front last ihf ihl => rw [right, Phrase.left_appendAnd, ihf, ihl]
  | ofConjunction conjunction ih => rw [right, Phrase.left, ih]
  | or front last ihf ihl => rw [right, Phrase.left_appendOr, ihf, ihl]

end LeftPhrase

namespace Phrase

variable {level : Level}

theorem right_left (phrase : Phrase level) : phrase.left.right = phrase := by
  induction phrase with
  | symbol name => rfl
  | bracket inner ih => rw [left, LeftPhrase.right, ih]
  | ofPrimary primary ih => rw [left, LeftPhrase.right, ih]
  | not operand ih => rw [left, LeftPhrase.right, ih]
  | ofUnary unary ih => rw [left, LeftPhrase.right, ih]
  | and first rest ihf ihr => rw [left, LeftPhrase.right_prependAnd, ihf, ihr]
  | ofConjunction conjunction ih => rw [left, LeftPhrase.right, ih]
  | or first rest ihf ihr => rw [left, LeftPhrase.right_prependOr, ihf, ihr]

theorem tokens_left (phrase : Phrase level) : phrase.left.tokens = phrase.tokens := by
  rw [← LeftPhrase.tokens_right, right_left]

/-- A sentence has one derivation in the left grammar, since hanging its chains
    over gives the one in the right grammar. -/
theorem eq_left_of_tokens (phrase : Phrase level) (other : LeftPhrase level)
    (h : other.tokens = phrase.tokens) : other = phrase.left := by
  rw [← LeftPhrase.tokens_right] at h
  rw [← other.left_right, other.right.tokens_injective phrase h]

end Phrase

/-! ### Accepted expressions -/

/-- An accepted expression that nests within the limit is parsed to a guard that
    is not told apart from its tree in the grammar that recurses on the left, in
    which it has one derivation as well. -/
theorem parse_alike_left_associative (buffer : TokenBuffer) (limit : Nat) (expression : Text)
    (tokens : List Token) (htokens : tokenize expression = .ok tokens)
    (hnesting : bracketNesting tokens ≤ limit) :
    ∃ (guard : Guard) (phrase : LeftPhrase .disjunction),
      (buffer.parse limit expression).2 = .ok guard ∧
      phrase.tokens = tokens ∧
      (∀ other : LeftPhrase .disjunction, other.tokens = tokens → other = phrase) ∧
      (∀ defined, guard.evaluate defined = phrase.guard.evaluate defined) ∧
      guard.symbols = phrase.guard.symbols := by
  rcases exists_phrase_of_tokenize expression tokens htokens with ⟨phrase, rfl⟩
  have halike := phrase.left.alike_right
  rw [phrase.right_left] at halike
  refine ⟨phrase.guard, phrase.left, ?_, phrase.tokens_left, phrase.eq_left_of_tokens,
    halike.evaluate_eq, halike.symbols_eq⟩
  rw [parse_eq_build buffer limit expression phrase htokens, if_neg (Nat.not_lt.mpr hnesting)]

/-- A chain in a chain, behind a negation and in brackets. -/
theorem parse_alike_left_associative_of_nested_chains :
    ∃ tokens, tokenize "A || !(B && C && D) || E".toList = .ok tokens ∧
      bracketNesting tokens ≤ 1 ∧
      ∃ (guard : Guard) (phrase : LeftPhrase .disjunction),
        (({} : TokenBuffer).parse 1 "A || !(B && C && D) || E".toList).2 = .ok guard ∧
        phrase.tokens = tokens ∧
        (∀ other : LeftPhrase .disjunction, other.tokens = tokens → other = phrase) ∧
        (∀ defined, guard.evaluate defined = phrase.guard.evaluate defined) ∧
        guard.symbols = phrase.guard.symbols := by
  have htokens : tokenize "A || !(B && C && D) || E".toList
      = .ok [.symbol ['A'], .or, .not, .openBracket, .symbol ['B'], .and, .symbol ['C'], .and,
          .symbol ['D'], .closeBracket, .or, .symbol ['E']] := by
    decide +kernel
  exact ⟨_, htokens, by decide,
    parse_alike_left_associative {} 1 _ _ htokens (by decide)⟩

/-- The trees themselves differ as soon as a chain has three operands. -/
example :
    let phrase : Phrase .disjunction :=
      .ofConjunction (.and (.ofPrimary (.symbol ['A'])) (.and (.ofPrimary (.symbol ['B']))
        (.ofUnary (.ofPrimary (.symbol ['C'])))))
    (phrase.guard, phrase.left.guard)
      = (.and (.symbol ['A']) (.and (.symbol ['B']) (.symbol ['C'])),
        .and (.and (.symbol ['A']) (.symbol ['B'])) (.symbol ['C'])) := by
  cbv

end DirectiveStrip
