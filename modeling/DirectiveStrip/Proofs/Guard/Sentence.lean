import DirectiveStrip.Proofs.Guard.Grammar
import Mathlib.Logic.Basic
import Mathlib.Data.Nat.Init

/-!
# Admitted Tokens Form a Sentence

The buffer looks at one token at a time: what may follow the last one, and how
many brackets are open. This module shows that nothing else is needed. If the
buffer admits all tokens of a list and then calls them finished, the list is a
sentence of the grammar.

The argument is a recursive descent that is run on the proof and not on the
tokens. `Completes` is its hypothesis: the buffer admits all that is left and
finishes. Where an operand is due, the table of successors leaves only the
tokens that begin one, and a bracket hands the rest over to the induction. Behind
an operand it leaves an operator, which is followed by another operand, or the
end of the bracket around it.

The grammar is recursive on the right and so is the descent: `&&` puts a unary
phrase in front of a disjunction, and that is again a disjunction whichever way
the right one is built (`exists_and_tokens`).

## Main definitions

* `TokenBuffer.Completes`: A buffer admits a list and is finished with it.
* `TokenBuffer.AfterOperand`: The last token ends an operand.
* `TokenBuffer.Closes`: What may stand behind a disjunction.
* `TokenBuffer.Tokenized`: What can become of an expression, case by case.

## Theorems

* `TokenBuffer.add_eq_ok_iff`: When a token is admitted, and what follows.
* `TokenBuffer.addAll_cons_eq_ok_iff`: Admitting a list token by token.
* `TokenBuffer.exists_phrase_of_completes`: The descent.
* `TokenBuffer.exists_tokens_of_completes`: What a fresh buffer admits and
  finishes with is a sentence.
* `TokenBuffer.toList_addAll`: A buffer keeps what it admits.
* `tokenize_eq_ok_iff`: Accepted means lexed, admitted and finished.
* `exists_phrase_of_tokenize`: An accepted expression is a sentence.
* `TokenBuffer.tokenize_eq`: What a buffer held before does not matter.
* `TokenBuffer.tokenized`: One of these cases becomes of every expression.
* `TokenBuffer.fst_tokenize`: What a buffer holds behind an expression.
* `fault_of_tokenize`: An expression is refused for its characters or for its
  grammar.
-/

namespace DirectiveStrip

/-- A unary phrase, `&&` and a disjunction are a disjunction. -/
theorem exists_and_tokens (left : Phrase .unary) (right : Phrase .disjunction) :
    ∃ phrase : Phrase .disjunction, phrase.tokens = left.tokens ++ .and :: right.tokens := by
  cases right with
  | ofConjunction conjunction => exact ⟨.ofConjunction (.and left conjunction), rfl⟩
  | or conjunction rest =>
      refine ⟨.or (.and left conjunction) rest, ?_⟩
      simp only [Phrase.tokens, List.append_assoc, List.cons_append]

namespace TokenBuffer

/-- The buffer admits all tokens of the list and is then finished. -/
def Completes (buffer : TokenBuffer) (tokens : List Token) : Prop :=
  ∃ filled result, buffer.addAll tokens = (filled, .ok ()) ∧ filled.build = .ok result

/-- The last token ends an operand. -/
def AfterOperand (buffer : TokenBuffer) : Prop :=
  buffer.previous = some .symbol ∨ buffer.previous = some .closeBracket

/-- What may stand behind a disjunction inside `depth` brackets: nothing outside
    all brackets, and inside one its end with an accepted rest. -/
def Closes (depth : Nat) (rest : List Token) : Prop :=
  rest = [] ∧ depth = 0 ∨
    ∃ (rest' : List Token) (closed : TokenBuffer), rest = .closeBracket :: rest' ∧
      closed.openBrackets + 1 = depth ∧ closed.previous = some .closeBracket ∧
      closed.Completes rest'

/-- A token is admitted if it may follow the last one and closes no bracket that
    is not open. The buffer then ends with it. -/
theorem add_eq_ok_iff (buffer grown : TokenBuffer) (token : Token) :
    buffer.add token = .ok grown ↔
      token.kind ∈ (successors buffer.previous).1 ∧
      buffer.bracketsAfter token.kind = some grown.openBrackets ∧
      grown.previous = some token.kind ∧ grown.tokens = buffer.tokens.push token := by
  unfold add
  dsimp only
  constructor
  · intro h
    split at h
    · next hallowed =>
      split at h
      · next count hcount =>
        rw [← Except.ok.inj h]
        exact ⟨hallowed, hcount, rfl, rfl⟩
      · cases h
    · cases h
  · intro h
    rcases h with ⟨hallowed, hcount, hprevious, htokens⟩
    rw [if_pos hallowed, hcount]
    cases grown with
    | mk tokens previous openBrackets =>
        dsimp only at hprevious htokens ⊢
        rw [hprevious, htokens]

/-- Admitting a list is admitting its first token and then the rest. -/
theorem addAll_cons_eq_ok_iff (buffer after : TokenBuffer) (token : Token) (rest : List Token) :
    buffer.addAll (token :: rest) = (after, .ok ()) ↔
      ∃ grown, buffer.add token = .ok grown ∧ grown.addAll rest = (after, .ok ()) := by
  rw [addAll.eq_def]
  cases hadd : buffer.add token with
  | ok grown => simp only [hadd, Except.ok.injEq, exists_eq_left']
  | error violation =>
      simp only [hadd, Prod.mk.injEq, reduceCtorEq, and_false, false_and, exists_false]

theorem toList_addAll (buffer filled : TokenBuffer) (tokens : List Token)
    (h : buffer.addAll tokens = (filled, .ok ())) :
    filled.tokens.toList = buffer.tokens.toList ++ tokens := by
  induction tokens generalizing buffer with
  | nil =>
      rw [addAll, Prod.mk.injEq] at h
      rw [← h.1, List.append_nil]
  | cons token rest ih =>
      rcases (addAll_cons_eq_ok_iff _ _ _ _).mp h with ⟨grown, hgrown, hrest⟩
      rw [ih grown hrest, toList_add hgrown, List.append_assoc, List.singleton_append]

theorem completes_nil (buffer : TokenBuffer) (h : buffer.Completes []) :
    buffer.openBrackets = 0 ∧ buffer.AfterOperand := by
  rcases h with ⟨filled, result, hfilled, hbuild⟩
  rw [addAll, Prod.mk.injEq] at hfilled
  rw [← hfilled.1] at hbuild
  unfold build at hbuild
  split at hbuild
  · cases hbuild
  · next last hlast =>
    split at hbuild
    · cases hbuild
    · next hopen =>
      split at hbuild
      · cases hbuild
      · next hoperand =>
        refine ⟨not_not.mp hopen, ?_⟩
        -- A finished list ends with a symbol or a closing bracket.
        rw [AfterOperand, hlast, Option.some.injEq, Option.some.injEq]
        by_cases hsymbol : last = .symbol
        · exact Or.inl hsymbol
        · exact Or.inr (not_not.mp fun hclose => hoperand ⟨hsymbol, hclose⟩)

theorem completes_cons (buffer : TokenBuffer) (token : Token) (rest : List Token)
    (h : buffer.Completes (token :: rest)) :
    ∃ grown, buffer.add token = .ok grown ∧ grown.Completes rest := by
  rcases h with ⟨filled, result, hfilled, hbuild⟩
  rcases (addAll_cons_eq_ok_iff _ _ _ _).mp hfilled with ⟨grown, hgrown, hrest⟩
  exact ⟨grown, hgrown, filled, result, hrest, hbuild⟩

/-! ### The descent -/

/-- A token other than a bracket leaves the brackets as they are. -/
theorem openBrackets_add (buffer grown : TokenBuffer) (token : Token)
    (h : buffer.add token = .ok grown) (hopen : token ≠ .openBracket)
    (hclose : token ≠ .closeBracket) : grown.openBrackets = buffer.openBrackets := by
  have hcount := ((buffer.add_eq_ok_iff grown token).mp h).2.1
  cases token with
  | symbol name => exact (Option.some.inj hcount).symm
  | not => exact (Option.some.inj hcount).symm
  | and => exact (Option.some.inj hcount).symm
  | or => exact (Option.some.inj hcount).symm
  | openBracket => exact absurd rfl hopen
  | closeBracket => exact absurd rfl hclose

/-- A closing bracket closes one. -/
theorem openBrackets_add_closeBracket (buffer grown : TokenBuffer)
    (h : buffer.add .closeBracket = .ok grown) :
    grown.openBrackets + 1 = buffer.openBrackets := by
  have hcount := ((buffer.add_eq_ok_iff grown .closeBracket).mp h).2.1
  simp only [bracketsAfter, Token.kind] at hcount
  split at hcount
  · cases hcount
  · have := Option.some.inj hcount
    omega

/-- Where an operand is due. A negation is no operand by itself. -/
def BeforeOperand (buffer : TokenBuffer) : Prop :=
  ¬ buffer.AfterOperand ∧ buffer.previous ≠ some .not

/-- What the descent shows for the tokens of a list: they split after a
    disjunction. -/
def Splits (depth : Nat) (tokens : List Token) : Prop :=
  ∃ (phrase : Phrase .disjunction) (rest : List Token),
    tokens = phrase.tokens ++ rest ∧ Closes depth rest

/-- Where an operand is due, also behind a negation, any token but a negation
    begins a primary. -/
theorem exists_primary_of_completes (buffer : TokenBuffer) (tokens : List Token)
    (hbefore : ¬ buffer.AfterOperand) (hnot : tokens.head? ≠ some .not)
    (h : buffer.Completes tokens)
    (ih : ∀ rest, rest.length < tokens.length → ∀ inner : TokenBuffer, inner.BeforeOperand →
      inner.Completes rest → Splits inner.openBrackets rest) :
    ∃ (primary : Phrase .primary) (rest : List Token) (after : TokenBuffer),
      tokens = primary.tokens ++ rest ∧ after.openBrackets = buffer.openBrackets ∧
      after.AfterOperand ∧ after.Completes rest := by
  cases tokens with
  | nil => exact absurd (completes_nil buffer h).2 hbefore
  | cons token rest =>
      rcases completes_cons buffer token rest h with ⟨grown, hadd, hgrown⟩
      rcases (buffer.add_eq_ok_iff grown token).mp hadd with ⟨hallowed, hcount, hprevious, _⟩
      -- Behind anything but an operand the table has operands and negations only.
      have hoperand : token.kind = .symbol ∨ token.kind = .not ∨ token.kind = .openBracket := by
        unfold AfterOperand at hbefore
        cases hlast : buffer.previous with
        | none =>
            rw [hlast] at hallowed
            simpa [successors] using hallowed
        | some last =>
            rw [hlast] at hallowed hbefore
            cases last <;> simp [successors] at hallowed hbefore ⊢ <;> grind
      cases token with
      | symbol name =>
          refine ⟨.symbol name, rest, grown, rfl, ?_, Or.inl hprevious, hgrown⟩
          exact buffer.openBrackets_add grown _ hadd (by simp) (by simp)
      | openBracket =>
          have hopen : grown.openBrackets = buffer.openBrackets + 1 :=
            (Option.some.inj hcount).symm
          have hinner : grown.BeforeOperand := by
            simp [BeforeOperand, AfterOperand, hprevious, Token.kind]
          rcases ih rest (Nat.lt_succ_self _) grown hinner hgrown with
            ⟨phrase, rest', htokens, hcloses⟩
          -- The bracket is open, so what follows the disjunction closes it.
          rcases hcloses with ⟨_, hzero⟩ | ⟨rest'', closed, hrest, hclosed, hlast, hcompletes⟩
          · omega
          · refine ⟨.bracket phrase, rest'', closed, ?_, by omega, Or.inr hlast, hcompletes⟩
            rw [htokens, hrest]
            simp only [Phrase.tokens, List.cons_append, List.append_assoc, List.nil_append]
      | not => exact absurd rfl hnot
      | and => simp [Token.kind] at hoperand
      | or => simp [Token.kind] at hoperand
      | closeBracket => simp [Token.kind] at hoperand

/-- Where an operand is due, a unary phrase begins. -/
theorem exists_unary_of_completes (buffer : TokenBuffer) (tokens : List Token)
    (hbefore : buffer.BeforeOperand) (h : buffer.Completes tokens)
    (ih : ∀ rest, rest.length < tokens.length → ∀ inner : TokenBuffer, inner.BeforeOperand →
      inner.Completes rest → Splits inner.openBrackets rest) :
    ∃ (unary : Phrase .unary) (rest : List Token) (after : TokenBuffer),
      tokens = unary.tokens ++ rest ∧ after.openBrackets = buffer.openBrackets ∧
      after.AfterOperand ∧ after.Completes rest := by
  by_cases hnot : tokens.head? = some .not
  · rcases List.head?_eq_some_iff.mp hnot with ⟨operand, rfl⟩
    rcases completes_cons buffer .not operand h with ⟨grown, hadd, hgrown⟩
    rcases (buffer.add_eq_ok_iff grown .not).mp hadd with ⟨_, _, hprevious, _⟩
    have hopen := buffer.openBrackets_add grown .not hadd (by simp) (by simp)
    have hgrownBefore : ¬ grown.AfterOperand := by
      simp [AfterOperand, hprevious, Token.kind]
    have hhead : operand.head? ≠ some .not := by
      -- The table has no negation behind a negation.
      intro hsecond
      rcases List.head?_eq_some_iff.mp hsecond with ⟨operand', rfl⟩
      rcases completes_cons grown .not operand' hgrown with ⟨grown', hadd', _⟩
      have hallowed := ((grown.add_eq_ok_iff grown' .not).mp hadd').1
      rw [hprevious] at hallowed
      simp [successors, Token.kind] at hallowed
    rcases exists_primary_of_completes grown operand hgrownBefore hhead hgrown
      (fun rest hlt => ih rest (Nat.lt_succ_of_lt hlt)) with
      ⟨primary, rest, after, htokens, hafter, hoperand, hcompletes⟩
    exact ⟨.not primary, rest, after, by rw [htokens]; rfl, by omega, hoperand, hcompletes⟩
  · rcases exists_primary_of_completes buffer tokens hbefore.1 hnot h ih with
      ⟨primary, rest, after, htokens, hafter, hoperand, hcompletes⟩
    exact ⟨.ofPrimary primary, rest, after, htokens, hafter, hoperand, hcompletes⟩

/-- Where an operand is due, a whole disjunction begins, up to the end of the
    bracket around it or the end of the tokens. -/
theorem exists_phrase_of_completes (n : Nat) (tokens : List Token) (hn : tokens.length = n)
    (buffer : TokenBuffer) (hbefore : buffer.BeforeOperand) (h : buffer.Completes tokens) :
    Splits buffer.openBrackets tokens := by
  induction n using Nat.strong_induction_on generalizing tokens buffer with
  | _ n ih =>
    have ih' : ∀ rest, rest.length < tokens.length → ∀ inner : TokenBuffer,
        inner.BeforeOperand → inner.Completes rest → Splits inner.openBrackets rest :=
      fun rest hlt inner hinner hrest => ih rest.length (by omega) rest rfl inner hinner hrest
    rcases exists_unary_of_completes buffer tokens hbefore h ih' with
      ⟨unary, rest, after, htokens, hafter, hoperand, hcompletes⟩
    have hpos := unary.length_tokens_pos
    have hlength := congrArg List.length htokens
    rw [List.length_append] at hlength
    cases rest with
    | nil =>
        refine ⟨.ofConjunction (.ofUnary unary), [], htokens, Or.inl ⟨rfl, ?_⟩⟩
        rw [← hafter, (completes_nil after hcompletes).1]
    | cons token tail =>
        rcases completes_cons after token tail hcompletes with ⟨grown, hadd, hgrown⟩
        rcases (after.add_eq_ok_iff grown token).mp hadd with ⟨hallowed, _, hprevious, _⟩
        -- Behind an operand the table has operators and the closing bracket only.
        have hkind : token.kind = .and ∨ token.kind = .or ∨ token.kind = .closeBracket := by
          rcases hoperand with hlast | hlast <;> rw [hlast] at hallowed <;>
            simp [successors] at hallowed <;> grind
        -- What an operator is followed by.
        have hright (hoperator : token.kind = .and ∨ token.kind = .or) :
            Splits buffer.openBrackets tail := by
          have hgrownBefore : grown.BeforeOperand := by
            rcases hoperator with hk | hk <;> simp [BeforeOperand, AfterOperand, hprevious, hk]
          have hopen : grown.openBrackets = buffer.openBrackets := by
            rw [after.openBrackets_add grown token hadd ?_ ?_, hafter]
            · intro h
              rcases h with rfl
              simp [Token.kind] at hoperator
            · intro h
              rcases h with rfl
              simp [Token.kind] at hoperator
          rw [← hopen]
          exact ih' tail (by rw [List.length_cons] at hlength; omega) grown hgrownBefore hgrown
        cases token with
        | and =>
            rcases hright (Or.inl rfl) with ⟨right, rest', hrest, hcloses⟩
            rcases exists_and_tokens unary right with ⟨phrase, hphrase⟩
            refine ⟨phrase, rest', ?_, hcloses⟩
            rw [htokens, hrest, hphrase, List.append_assoc, List.cons_append]
        | or =>
            rcases hright (Or.inr rfl) with ⟨right, rest', hrest, hcloses⟩
            refine ⟨.or (.ofUnary unary) right, rest', ?_, hcloses⟩
            rw [htokens, hrest]
            simp only [Phrase.tokens, List.append_assoc, List.cons_append]
        | closeBracket =>
            refine ⟨.ofConjunction (.ofUnary unary), .closeBracket :: tail, htokens,
              Or.inr ⟨tail, grown, rfl, ?_, hprevious, hgrown⟩⟩
            rw [after.openBrackets_add_closeBracket grown hadd, hafter]
        | symbol name => simp [Token.kind] at hkind
        | not => simp [Token.kind] at hkind
        | openBracket => simp [Token.kind] at hkind

theorem beforeOperand_empty : ({} : TokenBuffer).BeforeOperand := by
  simp [BeforeOperand, AfterOperand]

/-- What a fresh buffer admits and finishes with is a sentence: outside all
    brackets the descent leaves nothing over. -/
theorem exists_tokens_of_completes (tokens : List Token) (h : ({} : TokenBuffer).Completes tokens) :
    ∃ phrase : Phrase .disjunction, phrase.tokens = tokens := by
  rcases exists_phrase_of_completes _ tokens rfl {} beforeOperand_empty h with
    ⟨phrase, rest, htokens, ⟨rfl, _⟩ | ⟨_, _, _, hclosed, _⟩⟩
  · exact ⟨phrase, by rw [htokens, List.append_nil]⟩
  · exact absurd hclosed (Nat.succ_ne_zero _)

/-! ### Expressions -/

/-- A reset buffer is a fresh one, so what it held before does not matter. -/
theorem tokenize_eq (buffer : TokenBuffer) (expression : Text) :
    (buffer.tokenize expression).2 = DirectiveStrip.tokenize expression := rfl

/-- What a buffer and its answer can be behind an expression: a token is refused,
    or a fault of characters stands behind the tokens, or the list of tokens is
    not complete, or it is. -/
inductive Tokenized (expression : Text) : TokenBuffer × Except ParseError (List Token) → Prop where
  | refused (filled : TokenBuffer) (violation : GrammarViolation)
      (hfilled : ({} : TokenBuffer).addAll (lex expression).tokens = (filled, .error violation)) :
      Tokenized expression (filled, .error { expression, fault := .grammar violation })
  | faulty (filled : TokenBuffer) (fault : LexicalFault)
      (hfilled : ({} : TokenBuffer).addAll (lex expression).tokens = (filled, .ok ()))
      (hfault : (lex expression).fault = some fault) :
      Tokenized expression (filled, .error { expression, fault := .lexical fault })
  | unfinished (filled : TokenBuffer) (violation : GrammarViolation)
      (hfilled : ({} : TokenBuffer).addAll (lex expression).tokens = (filled, .ok ()))
      (hfault : (lex expression).fault = none) (hbuild : filled.build = .error violation) :
      Tokenized expression (filled, .error { expression, fault := .grammar violation })
  | finished (filled : TokenBuffer) (tokens : List Token)
      (hfilled : ({} : TokenBuffer).addAll (lex expression).tokens = (filled, .ok ()))
      (hfault : (lex expression).fault = none) (hbuild : filled.build = .ok tokens) :
      Tokenized expression (filled, .ok tokens)

theorem tokenized (buffer : TokenBuffer) (expression : Text) :
    Tokenized expression (buffer.tokenize expression) := by
  have hreset : buffer.reset = {} := rfl
  unfold tokenize takeIn
  dsimp only
  rw [hreset]
  split
  · next filled violation hfilled => exact .refused filled violation hfilled
  · next filled hfilled =>
    split
    · next fault hfault => exact .faulty filled fault hfilled hfault
    · next hfault =>
      split
      · next violation hbuild => exact .unfinished filled violation hfilled hfault hbuild
      · next tokens hbuild => exact .finished filled tokens hfilled hfault hbuild

/-- Whatever becomes of an expression, the buffer is left with as many of its
    tokens as a fresh one admits. -/
theorem fst_tokenize (buffer : TokenBuffer) (expression : Text) :
    (buffer.tokenize expression).1 = (({} : TokenBuffer).addAll (lex expression).tokens).1 := by
  have htokenized := buffer.tokenized expression
  generalize buffer.tokenize expression = reply at htokenized ⊢
  cases htokenized with
  | refused filled violation hfilled => rw [hfilled]
  | faulty filled fault hfilled hfault => rw [hfilled]
  | unfinished filled violation hfilled hfault hbuild => rw [hfilled]
  | finished filled tokens hfilled hfault hbuild => rw [hfilled]

/-- A finished list is what the buffer holds. -/
theorem build_eq_ok (buffer : TokenBuffer) (tokens : List Token)
    (h : buffer.build = .ok tokens) : tokens = buffer.tokens.toList := by
  unfold build at h
  split at h
  · cases h
  · split at h
    · cases h
    · split at h
      · cases h
      · split at h
        · cases h
        · exact (Except.ok.inj h).symm

end TokenBuffer

/-- An expression is accepted if it is lexed without a fault, and a fresh buffer
    admits its tokens and finishes with them. -/
theorem tokenize_eq_ok_iff (expression : Text) (tokens : List Token) :
    tokenize expression = .ok tokens ↔
      lex expression = ⟨tokens, none⟩ ∧ ({} : TokenBuffer).Completes tokens := by
  constructor
  · intro h
    have htokenized := ({} : TokenBuffer).tokenized expression
    unfold tokenize at h
    generalize ({} : TokenBuffer).tokenize expression = reply at h htokenized
    cases htokenized with
    | refused filled violation hfilled => cases h
    | faulty filled fault hfilled hfault => cases h
    | unfinished filled violation hfilled hfault hbuild => cases h
    | finished filled result hfilled hfault hbuild =>
        have htokens := TokenBuffer.toList_addAll _ filled _ hfilled
        rw [← filled.build_eq_ok result hbuild, Except.ok.inj h] at htokens
        have htokens : tokens = (lex expression).tokens := htokens
        rw [htokens, ← hfault]
        exact ⟨rfl, filled, result, hfilled, hbuild⟩
  · intro h
    rcases h with ⟨hlex, filled, result, hfilled, hbuild⟩
    have htokens := TokenBuffer.toList_addAll _ filled _ hfilled
    rw [← filled.build_eq_ok result hbuild, Array.toList_empty, List.nil_append] at htokens
    have hreset : ({} : TokenBuffer).reset = {} := rfl
    unfold tokenize TokenBuffer.tokenize TokenBuffer.takeIn
    dsimp only
    rw [hlex, hreset, hfilled]
    dsimp only
    rw [hbuild, htokens]

/-- An accepted expression is a sentence of the grammar. -/
theorem exists_phrase_of_tokenize (expression : Text) (tokens : List Token)
    (h : tokenize expression = .ok tokens) :
    ∃ phrase : Phrase .disjunction, phrase.tokens = tokens := by
  exact TokenBuffer.exists_tokens_of_completes tokens ((tokenize_eq_ok_iff expression tokens).mp h).2

/-- An expression is refused for its characters or for its grammar, and the
    error names the whole expression. -/
theorem fault_of_tokenize (expression : Text) (error : ParseError)
    (h : tokenize expression = .error error) :
    error.expression = expression ∧
      ((∃ fault, error.fault = .lexical fault) ∨
        ∃ violation, error.fault = .grammar violation) := by
  have htokenized := ({} : TokenBuffer).tokenized expression
  unfold tokenize at h
  generalize ({} : TokenBuffer).tokenize expression = reply at h htokenized
  cases htokenized with
  | refused filled violation hfilled =>
      rw [← Except.error.inj h]
      exact ⟨rfl, Or.inr ⟨violation, rfl⟩⟩
  | faulty filled fault hfilled hfault =>
      rw [← Except.error.inj h]
      exact ⟨rfl, Or.inl ⟨fault, rfl⟩⟩
  | unfinished filled violation hfilled hfault hbuild =>
      rw [← Except.error.inj h]
      exact ⟨rfl, Or.inr ⟨violation, rfl⟩⟩
  | finished filled tokens hfilled hfault hbuild => cases h

end DirectiveStrip
