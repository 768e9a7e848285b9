import DirectiveStrip.Proofs.Guard.Viable
import Mathlib.Data.List.TakeWhile

/-!
# Renderings of Token Lists

Which texts a token list can be read from: its spellings in order, with any
white space in front of, between and behind them. `Rendering` says that and
nothing about characters that end a name or about operators cut in half. The
tokenizer accepts a text exactly if it renders a sentence whose names are
identifiers, so those rules of the lexer decide nothing about accepted texts.

White space is never needed because of the grammar. Only a name can run into
what follows it, and in a sentence a name is followed by an operator, a closing
bracket or nothing. The first character of each ends a name, and so does white
space (`isSymbolTerminator_of_rendering`). That is the one place where lexing
needs the tokens to be admitted, and the induction of `lexFrom_of_rendering`
carries the buffer along for it.

The lexer tells characters apart by two tables, and everything here rests on
their being disjoint: no character that continues a name is white space or
belongs to an operator or a bracket.

## Main definitions

* `rangesApart`: Lists of ranges that have no code point in common.
* `separatorRanges`: White space, operators and brackets.
* `Rendering`: A text that spells a list of tokens.
* `NamesAreIdentifiers`: Every symbol of a token list has a proper name.

## Theorems

* `isSymbolContinue_of_separator`: The character classes are disjoint.
* `Rendering.append`: Renderings one behind the other.
* `rendering_renderTokens`: The written form of a token list renders it.
* `rendering_lexFrom`: A text is a rendering of its lexemes.
* `lexFrom_of_rendering`: A rendering of admitted tokens is read back.
* `rendering_of_tokenize`: An accepted text renders what it was read as.
* `tokenize_of_rendering`: A rendering of a sentence is accepted.
* `tokenize_accepts_renderings`: The same for any buffer, with the texts that
  are accepted beside it.
-/

namespace DirectiveStrip

/-! ### Disjoint character classes -/

/-- No range of the one list meets a range of the other. -/
def rangesApart (ranges others : List (Nat × Nat)) : Bool :=
  ranges.all fun range => others.all fun other =>
    Nat.blt range.2 other.1 || Nat.blt other.2 range.1

theorem inRanges_eq_false_of_apart (ranges others : List (Nat × Nat)) (c : Char)
    (happart : rangesApart ranges others = true) (h : inRanges ranges c = true) :
    inRanges others c = false := by
  rcases (inRanges_eq_true_iff ranges c).mp h with ⟨range, hrange, hlow, hhigh⟩
  rw [Bool.eq_false_iff]
  intro hother
  rcases (inRanges_eq_true_iff others c).mp hother with ⟨other, hmem, hlow', hhigh'⟩
  have hpair := List.all_eq_true.mp (List.all_eq_true.mp happart range hrange) other hmem
  simp only [Bool.or_eq_true, Nat.blt_eq] at hpair
  omega

/-- White space and the characters of operators and brackets, as closed ranges
    of code points. -/
def separatorRanges : List (Nat × Nat) :=
  whiteSpaceRanges ++ [(0x21, 0x21), (0x26, 0x26), (0x28, 0x29), (0x7C, 0x7C)]

/-- No separator continues a name. -/
theorem isSymbolContinue_of_separator (c : Char) (h : inRanges separatorRanges c = true) :
    isSymbolContinue c = false := by
  rw [Bool.eq_false_iff]
  intro hcontinue
  simp only [isSymbolContinue, isAlphanumeric, Bool.or_eq_true, beq_iff_eq] at hcontinue
  rcases hcontinue with (halphabetic | hnumeric) | rfl
  · rw [inRanges_eq_false_of_apart alphabeticRanges separatorRanges c (by decide +kernel)
      halphabetic] at h
    cases h
  · rw [inRanges_eq_false_of_apart numericRanges separatorRanges c (by decide +kernel)
      hnumeric] at h
    cases h
  · exact absurd h (by decide)

/-- A character of a name is not white space. -/
theorem isWhiteSpace_of_isSymbolContinue (c : Char) (h : isSymbolContinue c = true) :
    isWhiteSpace c = false := by
  rw [Bool.eq_false_iff]
  intro hspace
  have hseparator : inRanges separatorRanges c = true := by
    rw [inRanges, separatorRanges, List.any_append, Bool.or_eq_true]
    exact Or.inl hspace
  rw [isSymbolContinue_of_separator c hseparator] at h
  cases h

/-- Operators and brackets have no character of a name. -/
theorem isSymbolContinue_of_mem_operators (c : Char) (h : c ∈ ['!', '&', '|', '(', ')']) :
    isSymbolContinue c = false := by
  have hseparators : ['!', '&', '|', '(', ')'].all (inRanges separatorRanges) = true := by decide
  exact isSymbolContinue_of_separator c (List.all_eq_true.mp hseparators c h)

/-- What ends a name does not continue one. -/
theorem isSymbolContinue_of_isSymbolTerminator (c : Char) (h : isSymbolTerminator c = true) :
    isSymbolContinue c = false := by
  simp only [isSymbolTerminator, Bool.or_eq_true, beq_iff_eq] at h
  rcases h with ((hspace | rfl) | rfl) | rfl
  · rw [Bool.eq_false_iff]
    intro hcontinue
    rw [isWhiteSpace_of_isSymbolContinue c hcontinue] at hspace
    cases hspace
  · exact isSymbolContinue_of_mem_operators _ (by decide)
  · exact isSymbolContinue_of_mem_operators _ (by decide)
  · exact isSymbolContinue_of_mem_operators _ (by decide)

/-! ### Renderings -/

/-- The tokens spelled in order, with any white space in front of each and
    behind the last. -/
inductive Rendering : List Token → Text → Prop where
  | nil (gap : Text) (hgap : isBlank gap = true) : Rendering [] gap
  | cons (gap : Text) (token : Token) (tokens : List Token) (text : Text)
      (hgap : isBlank gap = true) (htext : Rendering tokens text) :
      Rendering (token :: tokens) (gap ++ (token.spelling ++ text))

/-- Every symbol of the list has an identifier for its name. -/
def NamesAreIdentifiers (tokens : List Token) : Prop :=
  ∀ name, .symbol name ∈ tokens → isIdentifier name = true

theorem isBlank_append (first second : Text) :
    isBlank (first ++ second) = (isBlank first && isBlank second) :=
  List.all_append

namespace Rendering

theorem blank_append (gap : Text) (hgap : isBlank gap = true) (tokens : List Token) (text : Text)
    (h : Rendering tokens text) : Rendering tokens (gap ++ text) := by
  cases h with
  | nil gap' hgap' => exact .nil _ (by rw [isBlank_append, hgap, hgap', Bool.and_self])
  | cons gap' token tokens text hgap' htext =>
      rw [← List.append_assoc]
      exact .cons _ token tokens text (by rw [isBlank_append, hgap, hgap', Bool.and_self]) htext

/-- No white space is needed in front of a token. -/
theorem token_append (token : Token) (tokens : List Token) (text : Text)
    (h : Rendering tokens text) : Rendering (token :: tokens) (token.spelling ++ text) :=
  .cons [] token tokens text rfl h

/-- A token is its own spelling. -/
theorem singleton (token : Token) : Rendering [token] token.spelling := by
  rw [← List.append_nil token.spelling]
  exact (nil [] rfl).token_append token

theorem append (tokens tokens' : List Token) (text text' : Text) (h : Rendering tokens text)
    (h' : Rendering tokens' text') : Rendering (tokens ++ tokens') (text ++ text') := by
  induction h with
  | nil gap hgap => exact h'.blank_append gap hgap
  | cons gap token tokens text hgap htext ih =>
      rw [List.append_assoc, List.append_assoc, List.cons_append]
      exact .cons gap token _ _ hgap ih

end Rendering

/-- The spellings alone, without any white space. -/
theorem rendering_flatMap (tokens : List Token) :
    Rendering tokens (tokens.flatMap Token.spelling) := by
  induction tokens with
  | nil => exact .nil [] rfl
  | cons token tokens ih =>
      rw [List.flatMap_cons]
      exact ih.token_append token

/-- The written form of a token list, with a space between each two. -/
theorem rendering_renderTokens (tokens : List Token) : Rendering tokens (renderTokens tokens) := by
  unfold renderTokens
  induction tokens with
  | nil => exact .nil [] rfl
  | cons token tokens ih =>
      cases tokens with
      | nil => exact Rendering.singleton token
      | cons next tokens =>
          rw [List.map_cons, List.map_cons, joinWith, List.append_assoc]
          · exact (ih.blank_append [' '] (by decide)).token_append token
          · exact List.cons_ne_nil _ _

/-! ### Reading a token -/

theorem lexFrom_whiteSpace (position : Nat) (c : Char) (text : Text) (h : isWhiteSpace c = true) :
    lexFrom position (c :: text) = lexFrom (position + 1) text := by
  rw [lexFrom.eq_def]
  exact if_pos h

/-- White space is passed over, however much of it there is. -/
theorem lexFrom_blank_append (position : Nat) (gap text : Text) (h : isBlank gap = true) :
    lexFrom position (gap ++ text) = lexFrom (position + gap.length) text := by
  induction gap generalizing position with
  | nil => rfl
  | cons c gap ih =>
      rw [isBlank, List.all_cons, Bool.and_eq_true] at h
      rw [List.cons_append, lexFrom_whiteSpace position c _ h.1, ih _ h.2, List.length_cons,
        Nat.add_assoc, Nat.add_comm 1]

/-- Operators and brackets are read from their spelling, whatever follows. -/
theorem lexFrom_spelling_append (position : Nat) (token : Token) (text : Text)
    (h : token.kind ≠ .symbol) :
    lexFrom position (token.spelling ++ text)
      = .cons token (lexFrom (position + token.spelling.length) text) := by
  cases token with
  | symbol name => exact absurd rfl h
  | not => rw [Token.spelling, lexFrom.eq_def]; rfl
  | and => rw [Token.spelling, lexFrom.eq_def]; rfl
  | or => rw [Token.spelling, lexFrom.eq_def]; rfl
  | openBracket => rw [Token.spelling, lexFrom.eq_def]; rfl
  | closeBracket => rw [Token.spelling, lexFrom.eq_def]; rfl

/-- A name goes on as far as its characters do, and then something has to end it. -/
theorem lexFrom_of_isSymbolStart (position : Nat) (c : Char) (rest : Text)
    (hstart : isSymbolStart c = true) :
    lexFrom position (c :: rest) =
      match (rest.dropWhile isSymbolContinue).head?.filter (fun d => !isSymbolTerminator d) with
      | some d =>
        .stop (.invalidSymbolCharacter
          (position + (c :: rest.takeWhile isSymbolContinue).length) d)
      | none =>
        .cons (.symbol (c :: rest.takeWhile isSymbolContinue))
          (lexFrom (position + (c :: rest.takeWhile isSymbolContinue).length)
            (rest.dropWhile isSymbolContinue)) := by
  have hcontinue := isSymbolContinue_of_isSymbolStart hstart
  have hspace := isWhiteSpace_of_isSymbolContinue c hcontinue
  have hoperator : c ∉ ['!', '&', '|', '(', ')'] := by
    intro hmem
    rw [isSymbolContinue_of_mem_operators c hmem] at hcontinue
    cases hcontinue
  simp only [List.mem_cons, List.not_mem_nil, or_false, not_or] at hoperator
  rw [lexFrom.eq_def]
  rcases hend : (rest.dropWhile isSymbolContinue).head?.filter
      (fun d => !isSymbolTerminator d) with _ | d <;>
    simp only [hspace, hoperator, hstart, hend, Bool.false_eq_true, if_false, if_true]

/-- A name is read up to what ends it. -/
theorem lexFrom_name_append (position : Nat) (name text : Text) (hname : isIdentifier name = true)
    (hnext : ∀ c ∈ text.head?, isSymbolTerminator c = true) :
    lexFrom position (name ++ text)
      = .cons (.symbol name) (lexFrom (position + name.length) text) := by
  cases name with
  | nil => cases hname
  | cons c rest =>
      rw [isIdentifier, Bool.and_eq_true, List.all_eq_true] at hname
      rcases hname with ⟨hstart, hrest⟩
      -- The name goes on as far as its characters do, and no further.
      have hstop : text.takeWhile isSymbolContinue = [] ∧
          text.dropWhile isSymbolContinue = text := by
        cases text with
        | nil => exact ⟨rfl, rfl⟩
        | cons d text =>
            have hd := isSymbolContinue_of_isSymbolTerminator d (hnext d rfl)
            rw [List.takeWhile_cons, List.dropWhile_cons, hd]
            exact ⟨rfl, rfl⟩
      have htake : (rest ++ text).takeWhile isSymbolContinue = rest := by
        rw [List.takeWhile_append_of_pos hrest, hstop.1, List.append_nil]
      have hdrop : (rest ++ text).dropWhile isSymbolContinue = text := by
        rw [List.dropWhile_append_of_pos hrest, hstop.2]
      have hfilter : text.head?.filter (fun d => !isSymbolTerminator d) = none := by
        rw [Option.filter_eq_none_iff]
        intro d hd
        rw [hnext d hd]
        decide
      rw [List.cons_append, lexFrom_of_isSymbolStart _ _ _ hstart, htake, hdrop, hfilter]

/-! ### Both directions of lexing -/

/-- A name is read as far as its characters go. -/
theorem isIdentifier_takeWhile (c : Char) (rest : Text) (hstart : isSymbolStart c = true) :
    isIdentifier (c :: rest.takeWhile isSymbolContinue) = true := by
  rw [isIdentifier, hstart, Bool.true_and, List.all_eq_true]
  intro d hd
  exact List.mem_takeWhile_imp hd

/-- One more token in front of a rendering. -/
theorem rendering_and_names_cons (token : Token) (tokens : List Token) (text : Text)
    (hname : ∀ name, token = .symbol name → isIdentifier name = true)
    (h : Rendering tokens text ∧ NamesAreIdentifiers tokens) :
    Rendering (token :: tokens) (token.spelling ++ text) ∧
      NamesAreIdentifiers (token :: tokens) := by
  refine ⟨h.1.token_append token, ?_⟩
  intro name hmem
  rcases List.mem_cons.mp hmem with hfirst | hrest
  · exact hname name hfirst.symm
  · exact h.2 name hrest

/-- A text without a fault is a rendering of its lexemes, and the names in it
    are identifiers. -/
theorem rendering_lexFrom (position : Nat) (text : Text)
    (h : (lexFrom position text).fault = none) :
    Rendering (lexFrom position text).tokens text ∧
      NamesAreIdentifiers (lexFrom position text).tokens := by
  fun_induction lexFrom position text with
  | case1 position =>
      refine ⟨.nil [] rfl, ?_⟩
      intro name hmem
      cases hmem
  | case2 position c rest hspace ih =>
      have hgap : isBlank [c] = true := by simp only [isBlank, List.all_cons, hspace]; rfl
      exact ⟨(ih h).1.blank_append [c] hgap, (ih h).2⟩
  -- An operator, unless the text ends or goes on differently in the middle of it.
  | case3 position => cases h
  | case4 position rest _ ih => exact rendering_and_names_cons .and _ rest (by simp) (ih h)
  | case5 position d rest => cases h
  | case6 position => cases h
  | case7 position rest _ _ ih => exact rendering_and_names_cons .or _ rest (by simp) (ih h)
  | case8 position d rest => cases h
  -- A negation or a bracket.
  | case9 position rest _ _ _ ih => exact rendering_and_names_cons .not _ rest (by simp) (ih h)
  | case10 position rest _ _ _ _ ih =>
      exact rendering_and_names_cons .openBracket _ rest (by simp) (ih h)
  | case11 position rest _ _ _ _ _ ih =>
      exact rendering_and_names_cons .closeBracket _ rest (by simp) (ih h)
  -- A name, with or without something behind it that may not stand there.
  | case12 position c rest => cases h
  | case13 position c rest _ _ _ _ _ _ hstart name after _ ih =>
      have hname : isIdentifier name = true := isIdentifier_takeWhile c rest hstart
      have hsplit : c :: rest = name ++ after := by
        rw [List.cons_append, List.takeWhile_append_dropWhile]
      rw [hsplit]
      refine rendering_and_names_cons (.symbol name) _ after ?_ (ih h)
      intro name' heq
      rw [← Token.symbol.inj heq]
      exact hname
  | case14 position c rest => cases h

/-- What stands behind a name in admitted tokens begins with a character that
    ends the name. -/
theorem isSymbolTerminator_of_rendering (buffer filled : TokenBuffer) (tokens : List Token)
    (text : Text) (h : Rendering tokens text) (hprevious : buffer.previous = some .symbol)
    (hadmitted : buffer.addAll tokens = (filled, .ok ())) :
    ∀ c ∈ text.head?, isSymbolTerminator c = true := by
  intro c hc
  -- White space ends a name, whatever comes after it.
  have hblank (gap rest : Text) (hgap : isBlank gap = true) (hne : gap ≠ [])
      (hhead : (gap ++ rest).head? = some c) : isSymbolTerminator c = true := by
    cases gap with
    | nil => exact absurd rfl hne
    | cons d gap =>
        rw [isBlank, List.all_cons, Bool.and_eq_true] at hgap
        rw [List.cons_append, List.head?_cons, Option.some.injEq] at hhead
        rw [← hhead, isSymbolTerminator, hgap.1]
        rfl
  cases h with
  | nil _ hgap =>
      refine hblank text [] hgap ?_ (by rwa [List.append_nil])
      intro hnil
      rw [hnil] at hc
      cases hc
  | cons gap token tokens text hgap htext =>
      by_cases hne : gap = []
      · rw [hne, List.nil_append] at hc
        rcases (TokenBuffer.addAll_cons_eq_ok_iff _ _ _ _).mp hadmitted with ⟨grown, hadd, _⟩
        have hallowed := ((buffer.add_eq_ok_iff grown token).mp hadd).1
        rw [hprevious] at hallowed
        -- The table has `)`, `&&` and `||` behind a symbol.
        have hkind : token = .closeBracket ∨ token = .and ∨ token = .or := by
          cases token <;> simp [successors, Token.kind] at hallowed ⊢
        rcases hkind with rfl | rfl | rfl
        · rw [← show ')' = c from Option.some.inj hc]
          decide
        · rw [← show '&' = c from Option.some.inj hc]
          decide
        · rw [← show '|' = c from Option.some.inj hc]
          decide
      · exact hblank gap _ hgap hne hc

/-- A rendering of admitted tokens is read back, wherever it stands in an
    expression. -/
theorem lexFrom_of_rendering (buffer filled : TokenBuffer) (tokens : List Token) (text : Text)
    (h : Rendering tokens text) (hnames : NamesAreIdentifiers tokens)
    (hadmitted : buffer.addAll tokens = (filled, .ok ())) (position : Nat) :
    lexFrom position text = ⟨tokens, none⟩ := by
  induction h generalizing buffer position with
  | nil gap hgap =>
      rw [← List.append_nil gap, lexFrom_blank_append position gap [] hgap, lexFrom.eq_def]
      rfl
  | cons gap token tokens text hgap htext ih =>
      rcases (TokenBuffer.addAll_cons_eq_ok_iff _ _ _ _).mp hadmitted with ⟨grown, hadd, hgrown⟩
      have hrest := ih grown (fun name hmem => hnames name (List.mem_cons_of_mem _ hmem)) hgrown
      rw [lexFrom_blank_append position gap _ hgap]
      by_cases hsymbol : token.kind = .symbol
      · cases token with
        | symbol name =>
            -- The buffer has just admitted the name, so it knows what may follow.
            have hprevious := ((buffer.add_eq_ok_iff grown _).mp hadd).2.2.1
            have hnext := isSymbolTerminator_of_rendering grown filled tokens text htext
              hprevious hgrown
            rw [Token.spelling, lexFrom_name_append _ name text
              (hnames name List.mem_cons_self) hnext, hrest]
            rfl
        | not => cases hsymbol
        | and => cases hsymbol
        | or => cases hsymbol
        | openBracket => cases hsymbol
        | closeBracket => cases hsymbol
      · rw [lexFrom_spelling_append _ token text hsymbol, hrest]
        rfl

/-! ### Accepted texts -/

/-- An accepted text renders its tokens, which are a sentence with identifiers
    for names. -/
theorem rendering_of_tokenize (expression : Text) (tokens : List Token)
    (h : tokenize expression = .ok tokens) :
    IsSentence (tokens.map Token.kind) ∧ NamesAreIdentifiers tokens ∧
      Rendering tokens expression := by
  rcases (tokenize_eq_ok_iff expression tokens).mp h with ⟨hlex, hcompletes⟩
  unfold lex at hlex
  have hrendering := rendering_lexFrom 0 expression (by rw [hlex])
  rw [hlex] at hrendering
  exact ⟨(isSentence_map_kind_iff tokens).mpr ((TokenBuffer.completes_iff tokens).mp hcompletes),
    hrendering.2, hrendering.1⟩

/-- Every rendering of a sentence with identifiers for names is accepted. -/
theorem tokenize_of_rendering (expression : Text) (tokens : List Token)
    (hsentence : IsSentence (tokens.map Token.kind)) (hnames : NamesAreIdentifiers tokens)
    (h : Rendering tokens expression) : tokenize expression = .ok tokens := by
  have hcompletes := (TokenBuffer.completes_iff tokens).mpr
    ((isSentence_map_kind_iff tokens).mp hsentence)
  rw [tokenize_eq_ok_iff]
  refine ⟨?_, hcompletes⟩
  rcases hcompletes with ⟨filled, _, hadmitted, _⟩
  exact lexFrom_of_rendering {} filled tokens expression h hnames hadmitted 0

/-- A buffer accepts a text with certain tokens exactly if they are a sentence,
    their names are identifiers, and the text spells them with any white space
    around each. So the tokens of an accepted text are also read from their
    spellings without any white space, from their written form, and from every
    other rendering. -/
theorem tokenize_accepts_renderings (buffer : TokenBuffer) (expression : Text)
    (tokens : List Token) :
    ((buffer.tokenize expression).2 = .ok tokens ↔
      IsSentence (tokens.map Token.kind) ∧ NamesAreIdentifiers tokens ∧
        Rendering tokens expression) ∧
    ((buffer.tokenize expression).2 = .ok tokens →
      (buffer.tokenize (tokens.flatMap Token.spelling)).2 = .ok tokens ∧
      (buffer.tokenize (renderTokens tokens)).2 = .ok tokens ∧
      ∀ other, Rendering tokens other → (buffer.tokenize other).2 = .ok tokens) := by
  rw [buffer.tokenize_eq]
  constructor
  · constructor
    · exact rendering_of_tokenize expression tokens
    · intro h
      exact tokenize_of_rendering expression tokens h.1 h.2.1 h.2.2
  · intro h
    rcases rendering_of_tokenize expression tokens h with ⟨hsentence, hnames, _⟩
    have hother (other : Text) (hrendering : Rendering tokens other) :
        tokenize other = .ok tokens :=
      tokenize_of_rendering other tokens hsentence hnames hrendering
    exact ⟨hother _ (rendering_flatMap tokens), hother _ (rendering_renderTokens tokens), hother⟩

end DirectiveStrip
