import DirectiveStrip.Guard.Parser

/-!
# The Grammar of Guards

What a guard expression is, said without a parser.

The grammar has four levels, from loosest to tightest:

    disjunction := conjunction | conjunction '||' disjunction
    conjunction := unary | unary '&&' conjunction
    unary       := primary | '!' primary
    primary     := symbol | '(' disjunction ')'

`Phrase` is the type of its derivation trees, indexed by the level. An index
rather than four mutual types keeps every induction a single one: most facts
about phrases hold at all levels at once, or hold with a bound that is read
off the level.

A phrase has two projections. `tokens` is the sentence it derives and `guard`
is the tree that is left when the brackets are dropped. Both operators recurse
on the right only, so chains of one operator nest to the right by
construction.

`tokens_append_inj` is what makes the derivation of a sentence unique. A
primary ends where its own brackets do, so nothing that follows can change
it; a conjunction and a disjunction go on as long as their operator does, so
they end only where the next token is another one. `Level.Ends` is that
condition on the rest, and it is what lets the induction pass through
operands.

Nesting is defined twice. `bracketNesting` walks a flat token list and knows
nothing of derivations; `Phrase.nesting` follows the tree. A pair of brackets
around a lone symbol costs nothing in either, and `nestingFrom_tokens` says
that the two agree.

## Main definitions

* `Level`: The levels of the grammar.
* `Phrase`: The derivations at a level.
* `Phrase.tokens`: The sentence that a phrase derives.
* `Phrase.guard`: The phrase with its brackets dropped.
* `Phrase.nesting`: How deep the brackets of a phrase nest.
* `bracketNesting`: How deep the brackets of a token list nest.

## Theorems

* `Phrase.tokens_ne_nil`: A phrase has a token.
* `Phrase.tokens_append_inj`: A phrase is determined by its tokens, whatever
  stands behind them.
* `Phrase.tokens_injective`: A sentence has one derivation.
* `Phrase.exists_symbol_of_length_eq_one`: A phrase of one token is a symbol.
* `Phrase.bracketNesting_tokens`: Both ways to measure nesting agree.
-/

namespace DirectiveStrip

/-- The levels of the grammar, loosest first. -/
inductive Level where
  | disjunction
  | conjunction
  | unary
  | primary
deriving DecidableEq, Repr

/-- The derivations of the grammar at a level. -/
inductive Phrase : Level → Type where
  | symbol (name : Text) : Phrase .primary
  | bracket (inner : Phrase .disjunction) : Phrase .primary
  | ofPrimary (primary : Phrase .primary) : Phrase .unary
  | not (operand : Phrase .primary) : Phrase .unary
  | ofUnary (unary : Phrase .unary) : Phrase .conjunction
  | and (left : Phrase .unary) (right : Phrase .conjunction) : Phrase .conjunction
  | ofConjunction (conjunction : Phrase .conjunction) : Phrase .disjunction
  | or (left : Phrase .conjunction) (right : Phrase .disjunction) : Phrase .disjunction

/-- A rest of a token list that does not carry a phrase of this level on. -/
def Level.Ends : Level → List Token → Prop
  | primary, _ | unary, _ => True
  | conjunction, rest => rest.head? ≠ some .and
  | disjunction, rest => rest.head? ≠ some .and ∧ rest.head? ≠ some .or

/-- How deep the brackets of a token list nest when `depth` are open before it:
    the most that are ever open at once, pairs around a lone symbol not
    counted. -/
def bracketNestingFrom (depth : Nat) : List Token → Nat
  | [] => depth
  | .openBracket :: .symbol _ :: .closeBracket :: rest => bracketNestingFrom depth rest
  | .openBracket :: rest => bracketNestingFrom (depth + 1) rest
  | .closeBracket :: rest => max depth (bracketNestingFrom (depth - 1) rest)
  | .symbol _ :: rest | .not :: rest | .and :: rest | .or :: rest => bracketNestingFrom depth rest

/-- How deep the brackets of a token list nest. -/
def bracketNesting (tokens : List Token) : Nat :=
  bracketNestingFrom 0 tokens

/-- A closing bracket carries no disjunction on. -/
theorem Level.ends_closeBracket (rest : List Token) :
    Level.disjunction.Ends (.closeBracket :: rest) := by
  simp only [Level.Ends, List.head?_cons, ne_eq, Option.some.injEq, reduceCtorEq,
    not_false_eq_true, and_self]

theorem le_bracketNestingFrom (depth : Nat) (tokens : List Token) :
    depth ≤ bracketNestingFrom depth tokens := by
  fun_induction bracketNestingFrom depth tokens with
  | case1 depth => exact Nat.le_refl depth
  | case2 depth name rest ih => exact ih
  | case3 depth rest _ ih => exact Nat.le_of_succ_le ih
  | case4 depth rest ih => exact Nat.le_max_left depth _
  | case5 depth name rest ih => exact ih
  | case6 depth rest ih => exact ih
  | case7 depth rest ih => exact ih
  | case8 depth rest ih => exact ih

namespace Phrase

variable {level : Level}

/-- The sentence that a phrase derives. -/
def tokens : {level : Level} → Phrase level → List Token
  | _, symbol name => [.symbol name]
  | _, bracket inner => .openBracket :: (inner.tokens ++ [.closeBracket])
  | _, ofPrimary primary => primary.tokens
  | _, not operand => .not :: operand.tokens
  | _, ofUnary unary => unary.tokens
  | _, and left right => left.tokens ++ .and :: right.tokens
  | _, ofConjunction conjunction => conjunction.tokens
  | _, or left right => left.tokens ++ .or :: right.tokens

/-- The tree of a phrase, its brackets dropped. -/
def guard : {level : Level} → Phrase level → Guard
  | _, symbol name => .symbol name
  | _, bracket inner => inner.guard
  | _, ofPrimary primary => primary.guard
  | _, not operand => .not operand.guard
  | _, ofUnary unary => unary.guard
  | _, and left right => .and left.guard right.guard
  | _, ofConjunction conjunction => conjunction.guard
  | _, or left right => .or left.guard right.guard

/-- How deep the brackets of a phrase nest, those around a lone symbol not
    counted. -/
def nesting : {level : Level} → Phrase level → Nat
  | _, symbol _ => 0
  | _, bracket inner => if inner.tokens.length = 1 then 0 else inner.nesting + 1
  | _, ofPrimary primary => primary.nesting
  | _, not operand => operand.nesting
  | _, ofUnary unary => unary.nesting
  | _, and left right => max left.nesting right.nesting
  | _, ofConjunction conjunction => conjunction.nesting
  | _, or left right => max left.nesting right.nesting

theorem tokens_ne_nil (phrase : Phrase level) : phrase.tokens ≠ [] := by
  induction phrase with
  | symbol name => simp only [tokens, ne_eq, reduceCtorEq, not_false_eq_true]
  | bracket inner ih => simp only [tokens, ne_eq, reduceCtorEq, not_false_eq_true]
  | ofPrimary primary ih => exact ih
  | not operand ih => simp only [tokens, ne_eq, reduceCtorEq, not_false_eq_true]
  | ofUnary unary ih => exact ih
  | and left right ihl ihr => simp only [tokens, ne_eq, List.append_eq_nil_iff, ihl, false_and,
      not_false_eq_true]
  | ofConjunction conjunction ih => exact ih
  | or left right ihl ihr => simp only [tokens, ne_eq, List.append_eq_nil_iff, ihl, false_and,
      not_false_eq_true]

theorem length_tokens_pos (phrase : Phrase level) : 0 < phrase.tokens.length :=
  List.length_pos_iff.mpr phrase.tokens_ne_nil

/-- A phrase of one token is a symbol. The derivation does not matter, so
    this says what can be read off the token: its text is the whole tree. -/
theorem exists_symbol_of_length_eq_one (phrase : Phrase level) (h : phrase.tokens.length = 1) :
    ∃ name, phrase.tokens = [.symbol name] ∧ phrase.guard = .symbol name ∧
      phrase.nesting = 0 := by
  induction phrase with
  | symbol name => exact ⟨name, rfl, rfl, rfl⟩
  | bracket inner ih =>
      simp only [tokens, List.length_cons, List.length_append, List.length_nil] at h
      omega
  | ofPrimary primary ih => exact ih h
  | not operand ih =>
      have := operand.length_tokens_pos
      simp only [tokens, List.length_cons] at h
      omega
  | ofUnary unary ih => exact ih h
  | and left right ihl ihr =>
      have := left.length_tokens_pos
      simp only [tokens, List.length_append, List.length_cons] at h
      omega
  | ofConjunction conjunction ih => exact ih h
  | or left right ihl ihr =>
      have := left.length_tokens_pos
      simp only [tokens, List.length_append, List.length_cons] at h
      omega

/-! ### A sentence has one derivation -/

/-- Phrases of one level with the same tokens are the same phrase, also when
    something follows, as long as it carries neither of them on. The rests
    agree too, which is what the next operand needs. -/
theorem tokens_append_inj (phrase other : Phrase level) (rest rest' : List Token)
    (hrest : level.Ends rest) (hrest' : level.Ends rest')
    (h : phrase.tokens ++ rest = other.tokens ++ rest') : phrase = other ∧ rest = rest' := by
  induction phrase generalizing rest rest' with
  | symbol name =>
      cases other with
      | symbol name' =>
          simp only [tokens, List.cons_append, List.nil_append, List.cons.injEq,
            Token.symbol.injEq] at h
          exact ⟨by rw [h.1], h.2⟩
      | bracket inner' => simp only [tokens, List.cons_append, List.cons.injEq, reduceCtorEq,
          false_and] at h
  | bracket inner ih =>
      cases other with
      | symbol name' => simp only [tokens, List.cons_append, List.cons.injEq, reduceCtorEq,
          false_and] at h
      | bracket inner' =>
          simp only [tokens, List.cons_append, List.append_assoc, List.cons.injEq,
            true_and, List.nil_append] at h
          rcases ih inner' _ _ (Level.ends_closeBracket rest) (Level.ends_closeBracket rest') h with
            ⟨rfl, hr⟩
          exact ⟨rfl, (List.cons.inj hr).2⟩
  | ofPrimary primary ih =>
      cases other with
      | ofPrimary primary' =>
          rcases ih primary' rest rest' trivial trivial h with ⟨rfl, hr⟩
          exact ⟨rfl, hr⟩
      | not operand' =>
          cases primary <;> simp only [tokens, List.cons_append, List.cons.injEq, reduceCtorEq,
            false_and] at h
  | not operand ih =>
      cases other with
      | ofPrimary primary' =>
          cases primary' <;> simp only [tokens, List.cons_append, List.cons.injEq, reduceCtorEq,
            false_and] at h
      | not operand' =>
          rcases ih operand' rest rest' trivial trivial (List.cons.inj h).2 with ⟨rfl, hr⟩
          exact ⟨rfl, hr⟩
  | ofUnary unary ih =>
      cases other with
      | ofUnary unary' =>
          rcases ih unary' rest rest' trivial trivial h with ⟨rfl, hr⟩
          exact ⟨rfl, hr⟩
      -- The operator of the other would stand at the front of the rest.
      | and left' right' =>
          simp only [tokens, List.append_assoc, List.cons_append] at h
          rcases ih left' rest _ trivial trivial h with ⟨_, rfl⟩
          exact absurd rfl hrest
  | and left right ihl ihr =>
      cases other with
      | ofUnary unary' =>
          simp only [tokens, List.append_assoc, List.cons_append] at h
          rcases ihl unary' _ rest' trivial trivial h with ⟨_, rfl⟩
          exact absurd rfl hrest'
      | and left' right' =>
          simp only [tokens, List.append_assoc, List.cons_append] at h
          rcases ihl left' _ _ trivial trivial h with ⟨rfl, hr⟩
          rcases ihr right' rest rest' hrest hrest' (List.cons.inj hr).2 with ⟨rfl, hr'⟩
          exact ⟨rfl, hr'⟩
  | ofConjunction conjunction ih =>
      cases other with
      | ofConjunction conjunction' =>
          rcases ih conjunction' rest rest' hrest.1 hrest'.1 h with ⟨rfl, hr⟩
          exact ⟨rfl, hr⟩
      | or left' right' =>
          simp only [tokens, List.append_assoc, List.cons_append] at h
          rcases ih left' rest _ hrest.1 (by simp [Level.Ends]) h with ⟨_, rfl⟩
          exact absurd rfl hrest.2
  | or left right ihl ihr =>
      cases other with
      | ofConjunction conjunction' =>
          simp only [tokens, List.append_assoc, List.cons_append] at h
          rcases ihl conjunction' _ rest' (by simp [Level.Ends]) hrest'.1 h with ⟨_, rfl⟩
          exact absurd rfl hrest'.2
      | or left' right' =>
          simp only [tokens, List.append_assoc, List.cons_append] at h
          rcases ihl left' _ _ (by simp [Level.Ends]) (by simp [Level.Ends]) h with ⟨rfl, hr⟩
          rcases ihr right' rest rest' hrest hrest' (List.cons.inj hr).2 with ⟨rfl, hr'⟩
          exact ⟨rfl, hr'⟩

/-- A sentence has one derivation. -/
theorem tokens_injective (phrase other : Phrase level) (h : phrase.tokens = other.tokens) :
    phrase = other := by
  have hnil : level.Ends [] := by
    cases level <;> simp [Level.Ends]
  refine (tokens_append_inj phrase other [] [] hnil hnil ?_).1
  rw [List.append_nil, List.append_nil, h]

/-! ### Both ways to measure nesting agree -/

/-- Brackets around more than a symbol are seen as such by a walk that looks
    two tokens ahead. -/
theorem tokens_append_ne_symbol (inner : Phrase .disjunction) (rest : List Token)
    (h : inner.tokens.length ≠ 1) (name : Text) (rest' : List Token) :
    inner.tokens ++ .closeBracket :: rest ≠ .symbol name :: .closeBracket :: rest' := by
  intro heq
  have hinj := (tokens_append_inj inner (ofConjunction (ofUnary (ofPrimary (symbol name))))
    _ _ (Level.ends_closeBracket rest) (Level.ends_closeBracket rest') heq).1
  rw [hinj] at h
  exact h rfl

theorem bracketNestingFrom_tokens (phrase : Phrase level) (depth : Nat) (rest : List Token) :
    bracketNestingFrom depth (phrase.tokens ++ rest)
      = max (depth + phrase.nesting) (bracketNestingFrom depth rest) := by
  induction phrase generalizing depth rest with
  | symbol name =>
      have := le_bracketNestingFrom depth rest
      rw [tokens, nesting, List.cons_append, List.nil_append, bracketNestingFrom]
      omega
  | bracket inner ih =>
      have := le_bracketNestingFrom depth rest
      rw [tokens, nesting, List.cons_append, List.append_assoc, List.cons_append, List.nil_append]
      by_cases hone : inner.tokens.length = 1
      · -- Around a lone symbol the walk sees three tokens at once.
        rcases inner.exists_symbol_of_length_eq_one hone with ⟨name, htokens, _, _⟩
        rw [if_pos hone, htokens, List.cons_append, List.nil_append, bracketNestingFrom]
        omega
      · rw [if_neg hone, bracketNestingFrom, ih, bracketNestingFrom, Nat.add_sub_cancel]
        · omega
        · exact inner.tokens_append_ne_symbol rest hone
  | ofPrimary primary ih => exact ih depth rest
  | not operand ih =>
      rw [tokens, nesting, List.cons_append, bracketNestingFrom, ih]
  | ofUnary unary ih => exact ih depth rest
  | and left right ihl ihr =>
      rw [tokens, nesting, List.append_assoc, List.cons_append, ihl, bracketNestingFrom, ihr]
      omega
  | ofConjunction conjunction ih => exact ih depth rest
  | or left right ihl ihr =>
      rw [tokens, nesting, List.append_assoc, List.cons_append, ihl, bracketNestingFrom, ihr]
      omega

theorem bracketNesting_tokens (phrase : Phrase level) :
    bracketNesting phrase.tokens = phrase.nesting := by
  have h := phrase.bracketNestingFrom_tokens 0 []
  rw [List.append_nil, bracketNestingFrom] at h
  rw [bracketNesting, h]
  omega

end Phrase

end DirectiveStrip
