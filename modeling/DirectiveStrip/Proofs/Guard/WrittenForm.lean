import DirectiveStrip.Proofs.Guard.Parsing
import DirectiveStrip.Proofs.Guard.Rendering

/-!
# Reading the Written Form of a Guard

The written form brackets every binary operator, and a negation that stands
under another one. This module says when it is read back to the guard it was
written from.

The written form is the rendering of a phrase, `Guard.phrase`. Printing decides
about brackets by looking at the tree, and `Phrase.enclosed` makes the same
decision by looking at the phrase: only a unary phrase that begins with `!`
cannot stand behind another `!`. Once the phrase is known, what parsing does
with it is known too (`parse_eq_build`), and reading back is a matter of names
and of nesting.

Each bracket that is written costs one level of nesting, because it never
encloses a lone symbol. So the nesting of the written form is a measure of the
tree, `Guard.writtenNesting`, and it grows with every operator of a chain. An
expression itself may chain operators without any bracket. Chains that are
longer than the limit are therefore accepted while their written form is not,
whatever the limit is (`parse_render_chain`).

## Main definitions

* `Guard.writtenNesting`: How deep the brackets of the written form nest.
* `Phrase.enclosed`: A unary phrase where only a primary may stand.
* `Guard.phrase`: The phrase that the written form renders.
* `Phrase.chain`: Operands with `||` between them.

## Theorems

* `Phrase.mem_symbols_guard`: The names of a guard are those in its tokens.
* `Guard.guard_phrase`, `Guard.nesting_phrase`, `Guard.rendering_phrase`: The
  phrase of a guard has its tree, its nesting and its written form.
* `isIdentifier_of_parse`: Parsing finds identifiers only.
* `parse_render`: Parsing a written form.
* `parse_render_eq_ok_iff`: When a written form is read back.
* `reparse_eq_ok_iff`: When the written form of a parsed guard is read back.
* `parse_render_chain`: Long chains are not.
-/

namespace DirectiveStrip

/-! ### The phrase that is written -/

/-- How deep the brackets of the written form nest. Binary operators have
    brackets around them, and so has a negation under a negation. -/
def Guard.writtenNesting : Guard → Nat
  | symbol _ => 0
  | not operand => operand.writtenNesting + if operand.isNegation then 1 else 0
  | and left right | or left right => max left.writtenNesting right.writtenNesting + 1

/-- A unary phrase as a primary: in brackets if it is a negation, and as it is
    otherwise. -/
def Phrase.enclosed : Phrase .unary → Phrase .primary
  | ofPrimary primary => primary
  | not operand => .bracket (.ofConjunction (.ofUnary (.not operand)))

/-- The phrase that the written form of a guard renders. -/
def Guard.phrase : Guard → Phrase .unary
  | symbol name => .ofPrimary (.symbol name)
  | not operand => .not operand.phrase.enclosed
  | and left right =>
      .ofPrimary (.bracket (.ofConjunction (.and left.phrase (.ofUnary right.phrase))))
  | or left right =>
      .ofPrimary (.bracket (.or (.ofUnary left.phrase) (.ofConjunction (.ofUnary right.phrase))))

namespace Phrase

theorem nesting_bracket (inner : Phrase .disjunction) (h : 1 < inner.tokens.length) :
    (bracket inner).nesting = inner.nesting + 1 := by
  rw [nesting, if_neg (Nat.ne_of_gt h)]

theorem one_lt_length_append {l r : Level} (left : Phrase l) (token : Token) (right : Phrase r) :
    1 < (left.tokens ++ token :: right.tokens).length := by
  have hleft := left.length_tokens_pos
  rw [List.length_append, List.length_cons]
  omega

theorem guard_enclosed (phrase : Phrase .unary) : phrase.enclosed.guard = phrase.guard := by
  cases phrase with
  | ofPrimary primary => rfl
  | not operand => rfl

/-- Brackets are dropped, names are not. -/
theorem mem_symbols_guard {level : Level} (phrase : Phrase level) (name : Text) :
    name ∈ phrase.guard.symbols ↔ .symbol name ∈ phrase.tokens := by
  induction phrase with
  | symbol name' =>
      simp only [guard, Guard.symbols, tokens, List.mem_singleton, Token.symbol.injEq]
  | bracket inner ih =>
      simp only [guard, tokens, List.mem_cons, List.mem_append, List.not_mem_nil, reduceCtorEq,
        false_or, or_false, ih]
  | ofPrimary primary ih => exact ih
  | not operand ih =>
      simp only [guard, Guard.symbols, tokens, List.mem_cons, reduceCtorEq, false_or, ih]
  | ofUnary unary ih => exact ih
  | and left right ihl ihr =>
      simp only [guard, Guard.symbols, tokens, List.mem_append, List.mem_cons, reduceCtorEq,
        false_or, ihl, ihr]
  | ofConjunction conjunction ih => exact ih
  | or left right ihl ihr =>
      simp only [guard, Guard.symbols, tokens, List.mem_append, List.mem_cons, reduceCtorEq,
        false_or, ihl, ihr]

theorem namesAreIdentifiers_tokens_iff {level : Level} (phrase : Phrase level) :
    NamesAreIdentifiers phrase.tokens ↔
      ∀ name ∈ phrase.guard.symbols, isIdentifier name = true := by
  simp only [NamesAreIdentifiers, mem_symbols_guard]

end Phrase

namespace Guard

theorem guard_phrase (guard : Guard) : guard.phrase.guard = guard := by
  induction guard with
  | symbol name => rfl
  | not operand ih => rw [phrase, Phrase.guard, Phrase.guard_enclosed, ih]
  | and left right ihl ihr => simp only [phrase, Phrase.guard, ihl, ihr]
  | or left right ihl ihr => simp only [phrase, Phrase.guard, ihl, ihr]

/-- Every pair of brackets that is written counts: it never encloses a lone
    symbol. -/
theorem nesting_phrase (guard : Guard) : guard.phrase.nesting = guard.writtenNesting := by
  induction guard with
  | symbol name => rfl
  | not operand ih =>
      rw [phrase, Phrase.nesting, writtenNesting, ← ih]
      cases operand with
      | not inner =>
          have hlong := Nat.succ_lt_succ inner.phrase.enclosed.length_tokens_pos
          exact Phrase.nesting_bracket (.ofConjunction (.ofUnary (.not _))) hlong
      | symbol name => rfl
      | and left right => rfl
      | or left right => rfl
  | and left right ihl ihr =>
      rw [writtenNesting, ← ihl, ← ihr]
      exact Phrase.nesting_bracket (.ofConjunction (.and left.phrase (.ofUnary right.phrase)))
        (left.phrase.one_lt_length_append .and right.phrase)
  | or left right ihl ihr =>
      rw [writtenNesting, ← ihl, ← ihr]
      exact Phrase.nesting_bracket
        (.or (.ofUnary left.phrase) (.ofConjunction (.ofUnary right.phrase)))
        (left.phrase.one_lt_length_append .or right.phrase)

/-- A rendering with brackets around it. -/
theorem rendering_bracketed (tokens : List Token) (text : Text) (h : Rendering tokens text) :
    Rendering (.openBracket :: (tokens ++ [.closeBracket])) ('(' :: (text ++ [')'])) :=
  (h.append _ _ _ _ (Rendering.singleton .closeBracket)).token_append .openBracket

/-- Two renderings as the operands of a token, which has a space on either side. -/
theorem rendering_operands (token : Token) (left right : List Token) (text text' : Text)
    (h : Rendering left text) (h' : Rendering right text') :
    Rendering (left ++ token :: right) (text ++ ([' '] ++ token.spelling ++ [' ']) ++ text') := by
  have hspace : isBlank [' '] = true := by decide
  rw [List.append_assoc, List.append_assoc, List.append_assoc]
  exact h.append _ _ _ _ (.cons [' '] token right _ hspace (h'.blank_append [' '] hspace))

theorem rendering_phrase (guard : Guard) : Rendering guard.phrase.tokens guard.render := by
  induction guard with
  | symbol name => exact Rendering.singleton (.symbol name)
  | not operand ih =>
      cases operand with
      | not inner => exact (rendering_bracketed _ _ ih).token_append .not
      | symbol name => exact ih.token_append .not
      | and left right => exact ih.token_append .not
      | or left right => exact ih.token_append .not
  | and left right ihl ihr =>
      rw [render, List.cons_append, List.cons_append, List.cons_append]
      exact rendering_bracketed _ _ (rendering_operands .and _ _ _ _ ihl ihr)
  | or left right ihl ihr =>
      rw [render, List.cons_append, List.cons_append, List.cons_append]
      exact rendering_bracketed _ _ (rendering_operands .or _ _ _ _ ihl ihr)

end Guard

/-! ### Reading back -/

/-- Parsing finds no other names than identifiers. -/
theorem isIdentifier_of_parse (buffer : TokenBuffer) (limit : Nat) (expression : Text)
    (guard : Guard) (h : (buffer.parse limit expression).2 = .ok guard) :
    ∀ name ∈ guard.symbols, isIdentifier name = true := by
  cases htokens : tokenize expression with
  | error error =>
      rw [parse_of_tokenize_eq_error buffer limit expression error htokens] at h
      cases h
  | ok tokens =>
      rcases exists_phrase_of_tokenize expression tokens htokens with ⟨phrase, rfl⟩
      rw [parse_eq_build buffer limit expression phrase htokens] at h
      split at h
      · cases h
      · rw [← Except.ok.inj h]
        exact phrase.namesAreIdentifiers_tokens_iff.mp
          (rendering_of_tokenize expression _ htokens).2.1

/-- The written form of a guard with proper names is read back, unless its
    brackets nest past the limit. -/
theorem parse_render (buffer : TokenBuffer) (limit : Nat) (guard : Guard)
    (hnames : ∀ name ∈ guard.symbols, isIdentifier name = true) :
    (buffer.parse limit guard.render).2
      = if limit < guard.writtenNesting then
          .error { expression := guard.render, fault := .nestingTooDeep limit }
        else .ok guard := by
  have hidentifiers : NamesAreIdentifiers guard.phrase.tokens := by
    rw [guard.phrase.namesAreIdentifiers_tokens_iff, guard.guard_phrase]
    exact hnames
  have htokens := tokenize_of_rendering guard.render guard.phrase.tokens guard.phrase.isSentence
    hidentifiers guard.rendering_phrase
  have hparse := parse_eq_build buffer limit guard.render
    (.ofConjunction (.ofUnary guard.phrase)) htokens
  rw [Phrase.bracketNesting_tokens] at hparse
  rw [hparse, Phrase.nesting, Phrase.nesting, guard.nesting_phrase, Phrase.guard, Phrase.guard,
    guard.guard_phrase]

/-- The written form of a guard is read back exactly if its names are identifiers
    and its brackets nest within the limit. If only the nesting is too deep, the
    limit is what parsing fails for. -/
theorem parse_render_eq_ok_iff (buffer : TokenBuffer) (limit : Nat) (guard : Guard) :
    ((buffer.parse limit guard.render).2 = .ok guard ↔
      (∀ name ∈ guard.symbols, isIdentifier name = true) ∧ guard.writtenNesting ≤ limit) ∧
    ((∀ name ∈ guard.symbols, isIdentifier name = true) → limit < guard.writtenNesting →
      (buffer.parse limit guard.render).2
        = .error { expression := guard.render, fault := .nestingTooDeep limit }) := by
  constructor
  · constructor
    · intro h
      have hnames := isIdentifier_of_parse buffer limit guard.render guard h
      rw [parse_render buffer limit guard hnames] at h
      split at h
      · cases h
      · next hnesting => exact ⟨hnames, Nat.not_lt.mp hnesting⟩
    · intro h
      rw [parse_render buffer limit guard h.1, if_neg (Nat.not_lt.mpr h.2)]
  · intro hnames hdeep
    rw [parse_render buffer limit guard hnames, if_pos hdeep]

/-! ### Guards that were parsed -/

/-- The written form of a guard that was parsed is read back exactly if its
    brackets nest within the limit, and refused for the limit otherwise. -/
theorem reparse_eq_ok_iff (limit : Nat) (expression : Text) (guard : Guard)
    (h : Guard.parse limit expression = .ok guard) :
    (Guard.parse limit guard.render = .ok guard ↔ guard.writtenNesting ≤ limit) ∧
    (limit < guard.writtenNesting →
      Guard.parse limit guard.render
        = .error { expression := guard.render, fault := .nestingTooDeep limit }) := by
  have hnames := isIdentifier_of_parse {} limit expression guard h
  have hparse := parse_render {} limit guard hnames
  unfold Guard.parse
  rw [hparse]
  by_cases hdeep : limit < guard.writtenNesting
  · rw [if_pos hdeep]
    refine ⟨⟨?_, fun hle => absurd hdeep (Nat.not_lt.mpr hle)⟩, fun _ => rfl⟩
    intro hok
    cases hok
  · rw [if_neg hdeep]
    exact ⟨⟨fun _ => Nat.not_lt.mp hdeep, fun _ => rfl⟩, fun hlt => absurd hlt hdeep⟩

/-- A double negation and a bracketed disjunction. The expression itself has no
    brackets inside brackets, and its written form has. -/
theorem reparse_eq_ok_iff_of_double_negation :
    ∃ guard, Guard.parse 1 "!(!A) && (B || C)".toList = .ok guard ∧
      (Guard.parse 1 guard.render = .ok guard ↔ guard.writtenNesting ≤ 1) ∧
      (1 < guard.writtenNesting →
        Guard.parse 1 guard.render
          = .error { expression := guard.render, fault := .nestingTooDeep 1 }) := by
  have hparse : Guard.parse 1 "!(!A) && (B || C)".toList
      = .ok (.and (.not (.not (.symbol ['A']))) (.or (.symbol ['B']) (.symbol ['C']))) := by
    decide +kernel
  exact ⟨_, hparse, reparse_eq_ok_iff 1 _ _ hparse⟩

/-- Operands with `||` between them, one more than there are operators. -/
def Phrase.chain (name : Text) : Nat → Phrase .disjunction
  | 0 => .ofConjunction (.ofUnary (.ofPrimary (.symbol name)))
  | count + 1 => .or (.ofUnary (.ofPrimary (.symbol name))) (chain name count)

namespace Phrase

/-- A chain has no brackets. -/
theorem nesting_chain (name : Text) (count : Nat) : (chain name count).nesting = 0 := by
  induction count with
  | zero => rfl
  | succ count ih => rw [chain, nesting, ih]; rfl

/-- Its written form has a pair for every operator, each inside the one before. -/
theorem writtenNesting_chain (name : Text) (count : Nat) :
    (chain name count).guard.writtenNesting = count := by
  induction count with
  | zero => rfl
  | succ count ih =>
      rw [chain, guard, Guard.writtenNesting, ih]
      exact congrArg Nat.succ (Nat.zero_max count)

theorem symbols_chain (name : Text) (count : Nat) :
    ∀ other ∈ (chain name count).guard.symbols, other = name := by
  induction count with
  | zero => exact fun other hother => List.mem_singleton.mp hother
  | succ count ih =>
      intro other hother
      rcases List.mem_append.mp hother with hfirst | hrest
      · exact List.mem_singleton.mp hfirst
      · exact ih other hrest

end Phrase

/-- A chain is accepted under every limit, however long it is. Its written form
    is read back only if the limit is no less than the number of operators. -/
theorem parse_render_chain (limit : Nat) (name : Text) (count : Nat)
    (hname : isIdentifier name = true) :
    Guard.parse limit (renderTokens (Phrase.chain name count).tokens)
        = .ok (Phrase.chain name count).guard ∧
      (limit < count →
        Guard.parse limit (Phrase.chain name count).guard.render
          = .error { expression := (Phrase.chain name count).guard.render,
                     fault := .nestingTooDeep limit }) := by
  have hnames : ∀ other ∈ (Phrase.chain name count).guard.symbols, isIdentifier other = true := by
    intro other hother
    rw [Phrase.symbols_chain name count other hother, hname]
  constructor
  · have htokens := tokenize_of_rendering _ (Phrase.chain name count).tokens ⟨_, rfl⟩
      ((Phrase.chain name count).namesAreIdentifiers_tokens_iff.mpr hnames)
      (rendering_renderTokens _)
    rw [Guard.parse, parse_eq_build {} limit _ _ htokens, Phrase.bracketNesting_tokens,
      Phrase.nesting_chain, if_neg (Nat.not_lt_zero limit)]
  · intro hlong
    rw [Guard.parse, parse_render {} limit _ hnames, Phrase.writtenNesting_chain, if_pos hlong]

/-- One operator more than brackets may nest: 130 operands under the limit that
    holds unless something else is asked for. -/
theorem written_form_of_long_chain_refused :
    Guard.parse defaultNestingLimit (renderTokens (Phrase.chain ['A'] 129).tokens)
        = .ok (Phrase.chain ['A'] 129).guard ∧
      Guard.parse defaultNestingLimit (Phrase.chain ['A'] 129).guard.render
        ≠ .ok (Phrase.chain ['A'] 129).guard := by
  rcases parse_render_chain defaultNestingLimit ['A'] 129 (by decide) with ⟨haccepted, hrefused⟩
  refine ⟨haccepted, ?_⟩
  rw [hrefused (by decide)]
  intro hok
  cases hok

end DirectiveStrip
