import DirectiveStrip.Proofs.Guard.Parsing
import DirectiveStrip.Proofs.Guard.Rendering
import Mathlib.Data.List.Basic

/-!
# White Space Around an Expression

White space belongs to no token, so an expression with a blank in front or behind is
accepted exactly if it is accepted without, and parsed to the same guard. That is why an
expression may be given by itself or behind a keyword, and why it does not matter if a line
keeps a carriage return at its end.

It only holds of acceptance. What is wrong with an expression may change with a blank
behind it: an operator that was cut off by the end of the text is then one that goes on
with a wrong character. So nothing is said of errors here except that there is one.

The proofs go by renderings and not by the lexer, because a rendering has its white space
laid out beside its tokens. All that has to be known of a token is that its spelling
begins and ends with a visible character.

## Main definitions

* `SameTokens`: Texts that are accepted with the same tokens.

## Theorems

* `Rendering.cons_iff`, `Rendering.concat_iff`: A blank at either end can be left out.
* `sameTokens_cons`, `sameTokens_concat`: So the tokens are the same with it.
* `SameTokens.parse_eq_ok_iff`: And the guards.
* `exists_error_of_isBlank`: White space alone is no expression.
-/

namespace DirectiveStrip

/-! ### Renderings -/

/-- A token with a proper name is spelled with visible characters, and not without any. -/
theorem spelling_visible (token : Token) (tokens : List Token)
    (hnames : NamesAreIdentifiers (token :: tokens)) :
    token.spelling ≠ [] ∧ ∀ c ∈ token.spelling, isWhiteSpace c = false := by
  cases token with
  | symbol name =>
      have hidentifier := hnames name List.mem_cons_self
      cases name with
      | nil => cases hidentifier
      | cons c rest =>
          rw [isIdentifier, Bool.and_eq_true, List.all_eq_true] at hidentifier
          refine ⟨List.cons_ne_nil c rest, ?_⟩
          intro d hd
          rcases List.mem_cons.mp hd with rfl | hrest
          · exact isWhiteSpace_of_isSymbolContinue d
              (isSymbolContinue_of_isSymbolStart hidentifier.1)
          · exact isWhiteSpace_of_isSymbolContinue d (hidentifier.2 d hrest)
  | not | and | or | openBracket | closeBracket =>
      refine ⟨List.cons_ne_nil _ _, ?_⟩
      simp only [Token.spelling, List.forall_mem_cons, List.not_mem_nil, false_implies,
        implies_true, and_true]
      decide

namespace Rendering

variable {tokens : List Token} (hnames : NamesAreIdentifiers tokens) (c : Char)
  (hc : isWhiteSpace c = true)

include hnames hc

/-- A blank in front is in front of the first token. -/
theorem of_cons (text : Text) (h : Rendering tokens (c :: text)) : Rendering tokens text := by
  generalize hwhole : c :: text = whole at h
  cases h with
  | nil _ hgap =>
      rw [← hwhole, isBlank, List.all_cons, Bool.and_eq_true] at hgap
      exact .nil text hgap.2
  | cons gap token tokens rest hgap hrest =>
      rcases gap with _ | ⟨d, gap⟩
      · -- The spelling would begin with the blank.
        rcases spelling_visible token tokens hnames with ⟨hne, hvisible⟩
        rcases hspelling : token.spelling with _ | ⟨d, spelling⟩
        · exact absurd hspelling hne
        · rw [hspelling, List.nil_append, List.cons_append, List.cons.injEq] at hwhole
          rw [← hwhole.1] at hspelling
          rw [hvisible c (hspelling ▸ List.mem_cons_self)] at hc
          cases hc
      · rw [List.cons_append, List.cons.injEq] at hwhole
        rw [isBlank, List.all_cons, Bool.and_eq_true] at hgap
        rw [hwhole.2]
        exact .cons gap token tokens rest hgap.2 hrest

/-- A blank at the end is behind the last token. -/
theorem of_concat (text : Text) (h : Rendering tokens (text ++ [c])) : Rendering tokens text := by
  generalize hwhole : text ++ [c] = whole at h
  induction h generalizing text with
  | nil _ hgap =>
      rw [← hwhole, isBlank_append, Bool.and_eq_true] at hgap
      exact .nil text hgap.1
  | cons gap token tokens rest hgap hrest ih =>
      rcases List.eq_nil_or_concat' rest with rfl | ⟨front, d, rfl⟩
      · -- The spelling would end with the blank.
        rcases spelling_visible token tokens hnames with ⟨hne, hvisible⟩
        rcases List.eq_nil_or_concat' token.spelling with hspelling | ⟨front, d, hspelling⟩
        · exact absurd hspelling hne
        · rw [hspelling, List.append_nil, ← List.append_assoc] at hwhole
          have hlast := List.singleton_inj.mp (List.append_inj' hwhole rfl).2
          rw [← hlast] at hspelling
          rw [hvisible c (hspelling ▸ List.mem_append_right _ List.mem_cons_self)] at hc
          cases hc
      · rw [← List.append_assoc, ← List.append_assoc] at hwhole
        rcases List.append_inj' hwhole rfl with ⟨htext, hlast⟩
        rw [htext, List.append_assoc]
        have hfront := ih (fun name hmem => hnames name (List.mem_cons_of_mem _ hmem)) front
          (by rw [hlast])
        exact .cons gap token tokens front hgap hfront

theorem cons_iff (text : Text) : Rendering tokens (c :: text) ↔ Rendering tokens text := by
  refine ⟨of_cons hnames c hc text, fun h => h.blank_append [c] ?_⟩
  rw [isBlank, List.all_cons, hc]
  rfl

theorem concat_iff (text : Text) : Rendering tokens (text ++ [c]) ↔ Rendering tokens text := by
  refine ⟨of_concat hnames c hc text, fun h => ?_⟩
  have hgap : isBlank [c] = true := by
    rw [isBlank, List.all_cons, hc]
    rfl
  have hboth := h.append _ _ _ _ (.nil [c] hgap)
  rwa [List.append_nil] at hboth

end Rendering

/-! ### Acceptance -/

/-- Whatever tokens the one text is accepted with, the other is accepted with the same. -/
def SameTokens (text text' : Text) : Prop :=
  ∀ tokens, tokenize text = .ok tokens ↔ tokenize text' = .ok tokens

/-- Texts that render the same tokens are accepted with the same. -/
theorem sameTokens_of_rendering (text text' : Text)
    (h : ∀ tokens, NamesAreIdentifiers tokens → (Rendering tokens text ↔ Rendering tokens text')) :
    SameTokens text text' := by
  intro tokens
  constructor
  · intro htokens
    rcases rendering_of_tokenize text tokens htokens with ⟨hsentence, hnames, hrendering⟩
    exact tokenize_of_rendering text' tokens hsentence hnames ((h tokens hnames).mp hrendering)
  · intro htokens
    rcases rendering_of_tokenize text' tokens htokens with ⟨hsentence, hnames, hrendering⟩
    exact tokenize_of_rendering text tokens hsentence hnames ((h tokens hnames).mpr hrendering)

theorem sameTokens_cons (c : Char) (hc : isWhiteSpace c = true) (text : Text) :
    SameTokens (c :: text) text :=
  sameTokens_of_rendering _ _ fun _ hnames => Rendering.cons_iff hnames c hc text

theorem sameTokens_concat (c : Char) (hc : isWhiteSpace c = true) (text : Text) :
    SameTokens (text ++ [c]) text :=
  sameTokens_of_rendering _ _ fun _ hnames => Rendering.concat_iff hnames c hc text

/-- A guard is what the tokens of an accepted expression are built to. -/
theorem parse_eq_ok_iff (limit : Nat) (expression : Text) (guard : Guard) :
    Guard.parse limit expression = .ok guard ↔
      ∃ tokens, tokenize expression = .ok tokens ∧ buildGuard limit 0 tokens = .ok guard := by
  unfold Guard.parse
  rcases htokens : tokenize expression with error | tokens
  · rw [parse_of_tokenize_eq_error _ _ _ error htokens]
    simp
  · rw [parse_of_tokenize_eq_ok _ _ _ tokens htokens]
    rcases hbuild : buildGuard limit 0 tokens with fault | built <;> simp [Except.mapError, hbuild]

theorem SameTokens.parse_eq_ok_iff {text text' : Text} (h : SameTokens text text') (limit : Nat)
    (guard : Guard) : Guard.parse limit text = .ok guard ↔ Guard.parse limit text' = .ok guard := by
  rw [DirectiveStrip.parse_eq_ok_iff, DirectiveStrip.parse_eq_ok_iff]
  simp only [h _]

/-- White space alone spells no token, and without a token there is no expression. -/
theorem exists_error_of_isBlank (text : Text) (h : isBlank text = true) :
    ∃ error, tokenize text = .error error := by
  rcases htokens : tokenize text with error | tokens
  · exact ⟨error, rfl⟩
  · rcases exists_phrase_of_tokenize text tokens htokens with ⟨phrase, rfl⟩
    rcases rendering_of_tokenize text _ htokens with ⟨-, hnames, hrendering⟩
    exfalso
    generalize hwhole : phrase.tokens = whole at hrendering hnames
    cases hrendering with
    | nil => exact phrase.tokens_ne_nil hwhole
    | cons gap token tokens rest =>
        rcases spelling_visible token tokens hnames with ⟨hne, hvisible⟩
        rcases List.exists_mem_of_ne_nil _ hne with ⟨c, hc⟩
        rw [isBlank_append, isBlank_append, Bool.and_eq_true, Bool.and_eq_true] at h
        have hspace := List.all_eq_true.mp h.2.1 c hc
        rw [hvisible c hc] at hspace
        cases hspace

end DirectiveStrip
