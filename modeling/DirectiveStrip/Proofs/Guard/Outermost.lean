import DirectiveStrip.Proofs.Guard.Grammar
import Mathlib.Tactic.Set

/-!
# The Outermost Operator

What one pass over the tokens of a phrase finds.

The pass keeps a best candidate by depth and then by how loosely it binds, over
every operator it meets, bracketed ones included. What it does to a phrase is
said once, in `Exposes`: the phrase closes the brackets that it opens, whatever
it adds lies inside them or binds no looser than a rank, and it leaves alone
any candidate that holds against that rank. The rank is read off the level of
the phrase. `Exposes.append_operator` puts two operands and their operator
together, and it is the only place where candidates are compared.

That settles the operator of a phrase. Nothing in the left operand resists the
operator and nothing in the right one replaces it, so the candidate at the end
is the operator between the two.

Whether the brackets at both ends are one pair is read off a single flag. Inside
a bracket no phrase raises it, and a phrase that begins with a bracket and ends
before the last token does.

## Main definitions

* `Level.rank`: The loosest operator that a level shows.
* `OperatorCandidate.Within`: A candidate inside brackets, or no looser than a
  rank.
* `OperatorCandidate.Holds`: A candidate that no operator up to a rank replaces.
* `OperatorScan.Exposes`: What a pass over some tokens does.

## Theorems

* `OperatorScan.index_foldl`: A pass counts the tokens.
* `OperatorScan.Exposes.append_operator`: An operator between two operands.
* `Phrase.exposes`: A phrase exposes the rank of its level.
* `Phrase.closedEarly_foldl_of_pos`: Inside a bracket the flag stays.
* `Phrase.closedEarly_foldl_of_open`: A leading pair of brackets that is not
  the whole raises it.
* `analyzeOperators_binary`: Between its operands an operator is outermost.
* `analyzeOperators_not`: A leading negation is outermost.
* `wrapped_analyzeOperators_bracket`: A bracketed phrase is wrapped.
* `index_lt_of_analyzeOperators`: An operator that is found is in the list.
-/

namespace DirectiveStrip

/-- The rank of the loosest operator that a phrase of the level shows outside
    its brackets, zero if it shows none. -/
def Level.rank : Level → Nat
  | primary => 0
  | unary => 1
  | conjunction => 2
  | disjunction => 3

/-- A candidate inside brackets opened at this depth, or at the depth itself and
    no looser than `rank`. -/
def OperatorCandidate.Within (candidate : OperatorCandidate) (depth rank : Nat) : Prop :=
  depth < candidate.depth ∨ candidate.depth = depth ∧ candidate.rank ≤ rank

/-- A candidate that nothing at this depth or deeper replaces unless it is looser
    than `rank`. -/
def OperatorCandidate.Holds (candidate : OperatorCandidate) (depth rank : Nat) : Prop :=
  candidate.depth < depth ∨ candidate.depth = depth ∧ rank ≤ candidate.rank

namespace OperatorCandidate

theorem Within.mono {candidate : OperatorCandidate} {depth rank rank' : Nat}
    (h : candidate.Within depth rank) (hle : rank ≤ rank') : candidate.Within depth rank' := by
  rcases h with hdeep | ⟨hsame, hrank⟩
  · exact Or.inl hdeep
  · exact Or.inr ⟨hsame, Nat.le_trans hrank hle⟩

theorem Holds.mono {candidate : OperatorCandidate} {depth rank rank' : Nat}
    (h : candidate.Holds depth rank) (hle : rank' ≤ rank) : candidate.Holds depth rank' := by
  rcases h with hout | ⟨hsame, hrank⟩
  · exact Or.inl hout
  · exact Or.inr ⟨hsame, Nat.le_trans hle hrank⟩

/-- An operator does not beat what holds against its rank. -/
theorem beatenBy_of_holds (candidate : OperatorCandidate) (depth rank : Nat)
    (h : candidate.Holds depth rank) : beatenBy (some candidate) depth rank = false := by
  simp only [beatenBy, Bool.or_eq_false_iff, Bool.and_eq_false_iff, decide_eq_false_iff_not,
    beq_eq_false_iff_ne]
  rcases h with hout | ⟨hsame, hrank⟩ <;> omega

/-- An operator beats what lies within a smaller rank. -/
theorem beatenBy_of_within (candidate : OperatorCandidate) (depth rank rank' : Nat)
    (h : candidate.Within depth rank) (hlt : rank < rank') :
    beatenBy (some candidate) depth rank' = true := by
  simp only [beatenBy, Bool.or_eq_true, Bool.and_eq_true, decide_eq_true_eq, beq_iff_eq]
  rcases h with hdeep | ⟨hsame, hrank⟩ <;> omega

end OperatorCandidate

namespace OperatorScan

variable (last : Nat) (scan : OperatorScan)

theorem next_openBracket :
    scan.next last .openBracket
      = { scan with index := scan.index + 1, depth := scan.depth + 1 } := rfl

theorem next_closeBracket :
    scan.next last .closeBracket
      = { scan with
          index := scan.index + 1, depth := scan.depth - 1
          closedEarly := scan.closedEarly || (scan.index != last && scan.depth - 1 == 0) } := rfl

/-- The candidate after an operator of this kind and rank. -/
theorem next_operator (token : Token) (rank : Nat) (h : token.kind.rank? = some rank) :
    scan.next last token
      = { scan with
          index := scan.index + 1
          candidate :=
            if OperatorCandidate.beatenBy scan.candidate scan.depth rank then
              some { index := scan.index, kind := token.kind, depth := scan.depth, rank }
            else scan.candidate } := by
  cases token with
  | symbol name => simp only [Token.kind, TokenKind.rank?, reduceCtorEq] at h
  | openBracket => simp only [Token.kind, TokenKind.rank?, reduceCtorEq] at h
  | closeBracket => simp only [Token.kind, TokenKind.rank?, reduceCtorEq] at h
  | not | and | or =>
      simp only [Token.kind, TokenKind.rank?, Option.some.injEq] at h
      subst h
      simp only [next, Token.kind, TokenKind.rank?]
      split <;> rfl

theorem index_next (token : Token) : (scan.next last token).index = scan.index + 1 := by
  cases token with
  | symbol name => rfl
  | openBracket => rfl
  | closeBracket => rfl
  | not => rw [next_operator last scan .not 1 rfl]
  | and => rw [next_operator last scan .and 2 rfl]
  | or => rw [next_operator last scan .or 3 rfl]

theorem index_foldl (tokens : List Token) :
    (tokens.foldl (next last) scan).index = scan.index + tokens.length := by
  induction tokens generalizing scan with
  | nil => rfl
  | cons token rest ih =>
      rw [List.foldl_cons, ih, index_next, List.length_cons]
      omega

/-- Once raised, the flag stays up. -/
theorem closedEarly_foldl (tokens : List Token) (h : scan.closedEarly = true) :
    (tokens.foldl (next last) scan).closedEarly = true := by
  induction tokens generalizing scan with
  | nil => exact h
  | cons token rest ih =>
      rw [List.foldl_cons]
      refine ih _ ?_
      cases token with
      | symbol name => exact h
      | openBracket => exact h
      | closeBracket => rw [next_closeBracket, h, Bool.true_or]
      | not => rw [next_operator last scan .not 1 rfl, h]
      | and => rw [next_operator last scan .and 2 rfl, h]
      | or => rw [next_operator last scan .or 3 rfl, h]

/-- Candidates are tokens that the pass has seen. -/
theorem index_lt_of_candidate_foldl (tokens : List Token) (candidate : OperatorCandidate)
    (hscan : ∀ c ∈ scan.candidate, c.index < scan.index)
    (h : (tokens.foldl (next last) scan).candidate = some candidate) :
    candidate.index < scan.index + tokens.length := by
  induction tokens generalizing scan with
  | nil => exact hscan candidate h
  | cons token rest ih =>
      have hnext : ∀ c ∈ (scan.next last token).candidate, c.index < scan.index + 1 := by
        intro c hc
        have hkept : c ∈ scan.candidate → c.index < scan.index + 1 :=
          fun hold => Nat.lt_succ_of_lt (hscan c hold)
        -- A new candidate is the token that was just read.
        have hoperator (rank : Nat) (hrank : token.kind.rank? = some rank) :
            c.index < scan.index + 1 := by
          rw [next_operator last scan token rank hrank] at hc
          dsimp only at hc
          split at hc
          · rw [← Option.some.inj hc]
            exact Nat.lt_succ_self _
          · exact hkept hc
        cases token with
        | symbol name => exact hkept hc
        | openBracket => exact hkept hc
        | closeBracket => exact hkept hc
        | not => exact hoperator 1 rfl
        | and => exact hoperator 2 rfl
        | or => exact hoperator 3 rfl
      rw [List.foldl_cons] at h
      have := ih (scan.next last token) (by rwa [index_next]) h
      rw [index_next] at this
      rw [List.length_cons]
      omega

end OperatorScan

namespace OperatorScan

/-- Tokens that close the brackets they open and outside of them show no
    operator looser than `rank`. -/
structure Exposes (tokens : List Token) (rank : Nat) : Prop where
  depth_foldl (last : Nat) (scan : OperatorScan) :
    (tokens.foldl (next last) scan).depth = scan.depth
  /-- The candidate at the end was there before or lies within the tokens. -/
  candidate_foldl (last : Nat) (scan : OperatorScan) (candidate : OperatorCandidate) :
    (tokens.foldl (next last) scan).candidate = some candidate →
      scan.candidate = some candidate ∨ candidate.Within scan.depth rank
  /-- A candidate that holds against the rank is there at the end. -/
  candidate_foldl_of_holds (last : Nat) (scan : OperatorScan) (candidate : OperatorCandidate) :
    scan.candidate = some candidate → candidate.Holds scan.depth rank →
      (tokens.foldl (next last) scan).candidate = some candidate

theorem exposes_nil : Exposes [] 0 where
  depth_foldl _ _ := rfl
  candidate_foldl _ _ _ h := Or.inl h
  candidate_foldl_of_holds _ _ _ h _ := h

theorem exposes_symbol (name : Text) : Exposes [.symbol name] 0 where
  depth_foldl _ _ := rfl
  candidate_foldl _ _ _ h := Or.inl h
  candidate_foldl_of_holds _ _ _ h _ := h

theorem Exposes.mono {tokens : List Token} {rank rank' : Nat} (h : Exposes tokens rank)
    (hle : rank ≤ rank') : Exposes tokens rank' where
  depth_foldl := h.depth_foldl
  candidate_foldl last scan candidate hc :=
    (h.candidate_foldl last scan candidate hc).imp_right (·.mono hle)
  candidate_foldl_of_holds last scan candidate hc hholds :=
    h.candidate_foldl_of_holds last scan candidate hc (hholds.mono hle)

/-- Whatever brackets contain, they show nothing. -/
theorem Exposes.bracket {tokens : List Token} {rank : Nat} (h : Exposes tokens rank) :
    Exposes (.openBracket :: (tokens ++ [.closeBracket])) 0 where
  depth_foldl last scan := by
    rw [List.foldl_cons, List.foldl_append, List.foldl_cons, List.foldl_nil, next_closeBracket,
      h.depth_foldl, next_openBracket, Nat.add_sub_cancel]
  candidate_foldl last scan candidate hc := by
    rw [List.foldl_cons, List.foldl_append, List.foldl_cons, List.foldl_nil,
      next_closeBracket] at hc
    -- Inside the brackets everything is at least one deeper.
    rcases h.candidate_foldl last _ candidate hc with hold | hdeep | ⟨hsame, _⟩
    · exact Or.inl hold
    · exact Or.inr (Or.inl (Nat.lt_of_succ_lt hdeep))
    · exact Or.inr (Or.inl (by rw [hsame]; exact Nat.lt_succ_self _))
  candidate_foldl_of_holds last scan candidate hc hholds := by
    rw [List.foldl_cons, List.foldl_append, List.foldl_cons, List.foldl_nil, next_closeBracket]
    refine h.candidate_foldl_of_holds last _ candidate hc (Or.inl ?_)
    rw [next_openBracket]
    rcases hholds with hout | ⟨hsame, _⟩ <;> dsimp only <;> omega

/-- An operator between operands that show nothing looser. -/
theorem Exposes.append_operator {left right : List Token} {rank : Nat} (token : Token)
    (hleft : Exposes left rank) (hright : Exposes right rank)
    (hrank : token.kind.rank? = some rank) : Exposes (left ++ token :: right) rank where
  depth_foldl last scan := by
    rw [List.foldl_append, List.foldl_cons, hright.depth_foldl,
      next_operator last _ token rank hrank, hleft.depth_foldl]
  candidate_foldl last scan candidate hc := by
    rw [List.foldl_append, List.foldl_cons] at hc
    rcases hright.candidate_foldl last _ candidate hc with hold | hwithin
    · rw [next_operator last _ token rank hrank] at hold
      dsimp only at hold
      split at hold
      · -- The operator itself.
        rw [← Option.some.inj hold]
        exact Or.inr (Or.inr ⟨hleft.depth_foldl last scan, Nat.le_refl rank⟩)
      · exact hleft.candidate_foldl last scan candidate hold
    · rw [next_operator last _ token rank hrank] at hwithin
      dsimp only at hwithin
      rw [hleft.depth_foldl] at hwithin
      exact Or.inr hwithin
  candidate_foldl_of_holds last scan candidate hc hholds := by
    rw [List.foldl_append, List.foldl_cons]
    have hkept := hleft.candidate_foldl_of_holds last scan candidate hc hholds
    have hunbeaten := candidate.beatenBy_of_holds scan.depth rank hholds
    refine hright.candidate_foldl_of_holds last _ candidate ?_ ?_
    · rw [next_operator last _ token rank hrank, hkept, hleft.depth_foldl, hunbeaten]
      rfl
    · rw [next_operator last _ token rank hrank]
      dsimp only
      rwa [hleft.depth_foldl]

end OperatorScan

namespace Phrase

open OperatorScan

variable {level : Level}

theorem exposes (phrase : Phrase level) : Exposes phrase.tokens level.rank := by
  induction phrase with
  | symbol name => exact exposes_symbol name
  | bracket inner ih => exact ih.bracket
  | ofPrimary primary ih => exact ih.mono (Nat.zero_le 1)
  | not operand ih =>
      exact (exposes_nil.mono (Nat.zero_le 1)).append_operator .not (ih.mono (Nat.zero_le 1)) rfl
  | ofUnary unary ih => exact ih.mono (Nat.le_succ 1)
  | and left right ihl ihr => exact (ihl.mono (Nat.le_succ 1)).append_operator .and ihr rfl
  | ofConjunction conjunction ih => exact ih.mono (Nat.le_succ 2)
  | or left right ihl ihr => exact (ihl.mono (Nat.le_succ 2)).append_operator .or ihr rfl

/-! ### The flag for brackets that close early -/

theorem closedEarly_foldl_of_pos (phrase : Phrase level) (last : Nat) (scan : OperatorScan)
    (h : 0 < scan.depth) :
    (phrase.tokens.foldl (next last) scan).closedEarly = scan.closedEarly := by
  induction phrase generalizing scan with
  | symbol name => rfl
  | bracket inner ih =>
      have hdepth := inner.exposes.depth_foldl last (scan.next last .openBracket)
      rw [next_openBracket] at hdepth
      dsimp only at hdepth
      rw [tokens, List.foldl_cons, List.foldl_append, List.foldl_cons, List.foldl_nil,
        next_closeBracket, next_openBracket, ih _ (Nat.succ_pos _), hdepth, Nat.add_sub_cancel]
      have hne : (scan.depth == 0) = false := by
        rw [beq_eq_false_iff_ne]
        omega
      rw [hne, Bool.and_false, Bool.or_false]
  | ofPrimary primary ih => exact ih scan h
  | not operand ih =>
      rw [tokens, List.foldl_cons, next_operator last scan .not 1 rfl]
      exact ih _ h
  | ofUnary unary ih => exact ih scan h
  | and left right ihl ihr =>
      have hdepth := left.exposes.depth_foldl last scan
      rw [tokens, List.foldl_append, List.foldl_cons, next_operator last _ .and 2 rfl,
        ihr _ (by dsimp only; omega), ihl scan h]
  | ofConjunction conjunction ih => exact ih scan h
  | or left right ihl ihr =>
      have hdepth := left.exposes.depth_foldl last scan
      rw [tokens, List.foldl_append, List.foldl_cons, next_operator last _ .or 3 rfl,
        ihr _ (by dsimp only; omega), ihl scan h]

theorem head?_tokens_append (phrase : Phrase level) (rest : List Token) :
    (phrase.tokens ++ rest).head? = phrase.tokens.head? := by
  rw [List.head?_append]
  cases hhead : phrase.tokens.head? with
  | none => exact absurd (List.head?_eq_none_iff.mp hhead) phrase.tokens_ne_nil
  | some first => rfl

/-- A phrase that begins with a bracket, outside all others and with tokens
    behind it, closes that bracket before the last token. -/
theorem closedEarly_foldl_of_open (phrase : Phrase level) (last : Nat) (scan : OperatorScan)
    (hopen : phrase.tokens.head? = some .openBracket) (hdepth : scan.depth = 0)
    (hlast : scan.index + phrase.tokens.length ≤ last) :
    (phrase.tokens.foldl (next last) scan).closedEarly = true := by
  induction phrase generalizing scan with
  | symbol name => simp only [tokens, List.head?_cons, Option.some.injEq, reduceCtorEq] at hopen
  | bracket inner ih =>
      have hinner := inner.exposes.depth_foldl last (scan.next last .openBracket)
      rw [next_openBracket] at hinner
      dsimp only at hinner
      simp only [tokens, List.length_cons, List.length_append, List.length_nil] at hlast
      rw [tokens, List.foldl_cons, List.foldl_append, List.foldl_cons, List.foldl_nil,
        next_closeBracket, next_openBracket, hinner, index_foldl, hdepth]
      have hne : (scan.index + 1 + inner.tokens.length != last) = true := by
        rw [bne_iff_ne]
        omega
      dsimp only
      rw [hne]
      exact Bool.or_true _
  | ofPrimary primary ih => exact ih scan hopen hdepth hlast
  | not operand ih =>
      simp only [tokens, List.head?_cons, Option.some.injEq, reduceCtorEq] at hopen
  | ofUnary unary ih => exact ih scan hopen hdepth hlast
  | and left right ihl ihr =>
      rw [tokens, List.length_append] at hlast
      rw [tokens, left.head?_tokens_append] at hopen
      rw [tokens, List.foldl_append]
      exact closedEarly_foldl last _ _ (ihl scan hopen hdepth (by omega))
  | ofConjunction conjunction ih => exact ih scan hopen hdepth hlast
  | or left right ihl ihr =>
      rw [tokens, List.length_append] at hlast
      rw [tokens, left.head?_tokens_append] at hopen
      rw [tokens, List.foldl_append]
      exact closedEarly_foldl last _ _ (ihl scan hopen hdepth (by omega))

end Phrase

/-! ### The analysis of a phrase -/

open OperatorScan

/-- Between its operands an operator is outermost: what the left one shows is
    tighter, and what the right one shows is no looser. -/
theorem analyzeOperators_binary {l r : Level} (left : Phrase l) (token : Token) (right : Phrase r)
    (rank : Nat) (hrank : token.kind.rank? = some rank) (hl : l.rank < rank) (hr : r.rank ≤ rank) :
    analyzeOperators (left.tokens ++ token :: right.tokens)
      = { operator := some (left.tokens.length, token.kind), wrapped := false } := by
  have hright := right.length_tokens_pos
  have hlength : (left.tokens ++ token :: right.tokens).length - 1
      = left.tokens.length + right.tokens.length := by
    rw [List.length_append, List.length_cons]
    omega
  set last := left.tokens.length + right.tokens.length with hlast
  -- The candidate after the left operand, after the operator and at the end.
  set afterLeft := left.tokens.foldl (next last) {} with hafter
  have hdepth : afterLeft.depth = 0 := left.exposes.depth_foldl last {}
  have hindex : afterLeft.index = left.tokens.length := by
    rw [hafter, index_foldl, Nat.zero_add]
  -- Nothing in the left operand resists the operator.
  have hbeaten : OperatorCandidate.beatenBy afterLeft.candidate 0 rank = true := by
    cases hcandidate : afterLeft.candidate with
    | none => rfl
    | some candidate =>
        rcases left.exposes.candidate_foldl last {} candidate hcandidate with hold | hwithin
        · exact absurd hold (by simp only [reduceCtorEq, not_false_eq_true])
        · exact candidate.beatenBy_of_within 0 l.rank rank hwithin hl
  have hoperator : (afterLeft.next last token).candidate
      = some { index := left.tokens.length, kind := token.kind, depth := 0, rank } := by
    rw [next_operator last _ token rank hrank, hdepth, hindex, hbeaten]
    rfl
  -- And nothing in the right one replaces it.
  have hcandidate := right.exposes.candidate_foldl_of_holds last _ _ hoperator (by
    rw [next_operator last _ token rank hrank]
    exact Or.inr ⟨hdepth.symm, hr⟩)
  -- If the list begins with a bracket, that bracket closes in the left operand.
  have hwrapped : (left.tokens ++ token :: right.tokens).head? = some .openBracket →
      ((left.tokens ++ token :: right.tokens).foldl (next last) {}).closedEarly = true := by
    intro hopen
    rw [List.foldl_append]
    refine closedEarly_foldl last _ _ (left.closedEarly_foldl_of_open last {} ?_ rfl ?_)
    · rwa [left.head?_tokens_append] at hopen
    · dsimp only
      omega
  unfold analyzeOperators
  rw [hlength]
  dsimp only
  rw [OperatorAnalysis.mk.injEq]
  refine ⟨?_, ?_⟩
  · rw [List.foldl_append, List.foldl_cons, ← hafter, hcandidate]
    rfl
  · by_cases hopen : (left.tokens ++ token :: right.tokens).head? = some .openBracket
    · rw [hwrapped hopen]
      simp only [Bool.not_true, Bool.and_false]
    · simp only [hopen, decide_false, Bool.false_and]

/-- A leading negation is outermost: a primary shows no operator. -/
theorem analyzeOperators_not (operand : Phrase .primary) :
    analyzeOperators (.not :: operand.tokens)
      = { operator := some (0, .not), wrapped := false } := by
  set last := (Token.not :: operand.tokens).length - 1 with hlast
  have hcandidate := operand.exposes.candidate_foldl_of_holds last
    (next last {} .not) { index := 0, kind := .not, depth := 0, rank := 1 } rfl
    (Or.inr ⟨rfl, Nat.zero_le 1⟩)
  unfold analyzeOperators
  rw [← hlast]
  dsimp only
  rw [List.foldl_cons, hcandidate]
  simp only [Option.map_some, List.head?_cons, Option.some.injEq, reduceCtorEq, decide_false,
    Bool.false_and]

/-- A bracketed phrase is wrapped: nothing inside raises the flag, and neither
    does the last token. -/
theorem wrapped_analyzeOperators_bracket (inner : Phrase .disjunction) :
    (analyzeOperators (.openBracket :: (inner.tokens ++ [.closeBracket]))).wrapped = true := by
  have hlength : (Token.openBracket :: (inner.tokens ++ [.closeBracket])).length - 1
      = inner.tokens.length + 1 := by
    simp only [List.length_cons, List.length_append, List.length_nil]
    omega
  unfold analyzeOperators
  rw [hlength]
  set last := inner.tokens.length + 1 with hlast
  have hflag := inner.closedEarly_foldl_of_pos last (next last {} .openBracket) (Nat.succ_pos 0)
  have hindex : (inner.tokens.foldl (next last) (next last {} .openBracket)).index = last := by
    rw [index_foldl, hlast, next_openBracket]
    dsimp only
    omega
  have hclosed : ((Token.openBracket :: (inner.tokens ++ [.closeBracket])).foldl
      (next last) {}).closedEarly = false := by
    rw [List.foldl_cons, List.foldl_append, List.foldl_cons, List.foldl_nil, next_closeBracket,
      hindex, hflag]
    simp only [next_openBracket, bne_self_eq_false, Bool.false_and, Bool.or_false]
  dsimp only
  rw [hclosed, ← List.cons_append, List.getLast?_concat]
  simp only [List.cons_append, List.head?_cons, decide_true, Bool.not_false, Bool.and_self]

/-- An operator that is found is in the list. -/
theorem index_lt_of_analyzeOperators (tokens : List Token) (index : Nat) (kind : TokenKind)
    (h : (analyzeOperators tokens).operator = some (index, kind)) : index < tokens.length := by
  unfold analyzeOperators at h
  rcases Option.map_eq_some_iff.mp h with ⟨candidate, hcandidate, hpair⟩
  have hlt := index_lt_of_candidate_foldl _ {} tokens candidate
    (fun c hc => absurd hc (by simp only [Option.mem_def, reduceCtorEq, not_false_eq_true]))
    hcandidate
  rw [Nat.zero_add] at hlt
  rw [← (Prod.mk.inj hpair).1]
  exact hlt

end DirectiveStrip
