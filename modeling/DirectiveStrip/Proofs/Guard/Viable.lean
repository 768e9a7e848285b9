import DirectiveStrip.Proofs.Guard.History

/-!
# Admission Is the Viable Prefix Check

A buffer that admits token after token could refuse too late, when nothing can
complete what it holds any more, or too early, when something still could. It
does neither. The tokens that a fresh buffer admits are exactly those that some
sentence begins with, and the ones it calls finished are exactly the sentences.

The grammar sees only the kinds of tokens, so both notions are about lists of
kinds. `exists_tokens_of_map_kind` gives a phrase the names of any list that has
its kinds, and after that the proofs can speak about tokens.

One direction walks a phrase: every adjacency that the grammar produces is in
the table of successors, and brackets close in the order they were opened
(`admitsOperand_tokens`). The other completes what was admitted. A symbol ends
the operand if one is due, and closing brackets end the rest
(`exists_completion`). What has been completed this way is finished, so the
descent of `Sentence` applies to it.

## Main definitions

* `IsSentence`: The kinds of a sentence.
* `IsViable`: The kinds that a sentence begins with.
* `TokenBuffer.Starts`: Where a phrase of a level may begin.
* `TokenBuffer.AdmitsOperand`: A list is admitted as a whole operand.

## Theorems

* `Phrase.isSentence`: A phrase of any level is a sentence.
* `Phrase.exists_tokens_of_map_kind`: Names do not matter to the grammar.
* `TokenBuffer.addAll_append_eq_ok_iff`: Admitting one list behind another.
* `TokenBuffer.admitsOperand_tokens`: A phrase is admitted where it may begin.
* `TokenBuffer.exists_completion`: What was admitted can be completed.
* `TokenBuffer.build_eq_ok_iff`: When a buffer is finished, and with what.
* `TokenBuffer.completes_iff`: A fresh buffer admits and finishes the sentences.
* `TokenBuffer.admits_iff`: A fresh buffer admits the viable prefixes.
* `TokenBuffer.admission_is_viability`: All of it for a fresh or reset buffer,
  with the token at which a list is refused.
-/

namespace DirectiveStrip

/-- The kinds of the tokens of a sentence. -/
def IsSentence (kinds : List TokenKind) : Prop :=
  ∃ phrase : Phrase .disjunction, phrase.tokens.map Token.kind = kinds

/-- The kinds that a sentence begins with. -/
def IsViable (kinds : List TokenKind) : Prop :=
  ∃ sentence, IsSentence sentence ∧ kinds <+: sentence

/-- A phrase of any level is a sentence by itself. -/
theorem Phrase.isSentence {level : Level} (phrase : Phrase level) :
    IsSentence (phrase.tokens.map Token.kind) := by
  cases level with
  | disjunction => exact ⟨phrase, rfl⟩
  | conjunction => exact ⟨.ofConjunction phrase, rfl⟩
  | unary => exact ⟨.ofConjunction (.ofUnary phrase), rfl⟩
  | primary => exact ⟨.ofConjunction (.ofUnary (.ofPrimary phrase)), rfl⟩

/-! ### Names do not matter to the grammar -/

/-- Operators and brackets are told by their kind, so a list can be cut where
    its kinds show one. -/
theorem Token.exists_split_of_map_kind (tokens : List Token) (front back : List TokenKind)
    (token : Token) (htoken : token.kind ≠ .symbol)
    (h : tokens.map Token.kind = front ++ token.kind :: back) :
    ∃ first second, tokens = first ++ token :: second ∧ first.map Token.kind = front ∧
      second.map Token.kind = back := by
  rcases List.map_eq_append_iff.mp h with ⟨first, rest, rfl, hfirst, hrest⟩
  rcases List.map_eq_cons_iff.mp hrest with ⟨other, second, rfl, hother, hsecond⟩
  have hsame : other = token := by
    cases token <;> cases other <;> simp [kind] at hother htoken ⊢
  exact ⟨first, second, by rw [hsame], hfirst, hsecond⟩

/-- A list with the kinds of a phrase is a phrase of that level with other
    names. -/
theorem Phrase.exists_tokens_of_map_kind {level : Level} (phrase : Phrase level)
    (tokens : List Token) (h : tokens.map Token.kind = phrase.tokens.map Token.kind) :
    ∃ other : Phrase level, other.tokens = tokens := by
  induction phrase generalizing tokens with
  | symbol name =>
      rcases List.map_eq_singleton_iff.mp h with ⟨token, rfl, hkind⟩
      cases token with
      | symbol name' => exact ⟨.symbol name', rfl⟩
      | not => cases hkind
      | and => cases hkind
      | or => cases hkind
      | openBracket => cases hkind
      | closeBracket => cases hkind
  | bracket inner ih =>
      rw [Phrase.tokens, List.map_cons, List.map_append] at h
      rcases Token.exists_split_of_map_kind tokens [] _ .openBracket (by decide) h with
        ⟨before, rest, rfl, hbefore, hrest⟩
      rcases Token.exists_split_of_map_kind rest _ [] .closeBracket (by decide) hrest with
        ⟨content, behind, rfl, hcontent, hbehind⟩
      rcases ih content hcontent with ⟨other, rfl⟩
      rw [List.map_eq_nil_iff.mp hbefore, List.map_eq_nil_iff.mp hbehind]
      exact ⟨.bracket other, rfl⟩
  | ofPrimary primary ih =>
      rcases ih tokens h with ⟨other, rfl⟩
      exact ⟨.ofPrimary other, rfl⟩
  | not operand ih =>
      rcases Token.exists_split_of_map_kind tokens [] _ .not (by decide) h with
        ⟨before, rest, rfl, hbefore, hrest⟩
      rcases ih rest hrest with ⟨other, rfl⟩
      rw [List.map_eq_nil_iff.mp hbefore]
      exact ⟨.not other, rfl⟩
  | ofUnary unary ih =>
      rcases ih tokens h with ⟨other, rfl⟩
      exact ⟨.ofUnary other, rfl⟩
  | and left right ihl ihr =>
      rw [Phrase.tokens, List.map_append, List.map_cons] at h
      rcases Token.exists_split_of_map_kind tokens _ _ .and (by decide) h with
        ⟨first, second, rfl, hfirst, hsecond⟩
      rcases ihl first hfirst with ⟨left', rfl⟩
      rcases ihr second hsecond with ⟨right', rfl⟩
      exact ⟨.and left' right', rfl⟩
  | ofConjunction conjunction ih =>
      rcases ih tokens h with ⟨other, rfl⟩
      exact ⟨.ofConjunction other, rfl⟩
  | or left right ihl ihr =>
      rw [Phrase.tokens, List.map_append, List.map_cons] at h
      rcases Token.exists_split_of_map_kind tokens _ _ .or (by decide) h with
        ⟨first, second, rfl, hfirst, hsecond⟩
      rcases ihl first hfirst with ⟨left', rfl⟩
      rcases ihr second hsecond with ⟨right', rfl⟩
      exact ⟨.or left' right', rfl⟩

theorem isSentence_map_kind_iff (tokens : List Token) :
    IsSentence (tokens.map Token.kind) ↔
      ∃ phrase : Phrase .disjunction, phrase.tokens = tokens := by
  constructor
  · intro h
    rcases h with ⟨phrase, hphrase⟩
    exact phrase.exists_tokens_of_map_kind tokens hphrase.symm
  · intro h
    rcases h with ⟨phrase, rfl⟩
    exact ⟨phrase, rfl⟩

theorem isViable_map_kind_iff (tokens : List Token) :
    IsViable (tokens.map Token.kind) ↔
      ∃ (phrase : Phrase .disjunction) (rest : List Token), phrase.tokens = tokens ++ rest := by
  constructor
  · intro h
    rcases h with ⟨_, ⟨phrase, rfl⟩, kinds, hkinds⟩
    -- The rest keeps the tokens of the sentence; only the front is renamed.
    rcases List.map_eq_append_iff.mp hkinds.symm with ⟨front, rest, hsplit, hfront, _⟩
    rcases phrase.exists_tokens_of_map_kind (tokens ++ rest)
      (by rw [hsplit, List.map_append, List.map_append, hfront]) with ⟨other, hother⟩
    exact ⟨other, rest, hother⟩
  · intro h
    rcases h with ⟨phrase, rest, hphrase⟩
    refine ⟨_, ⟨phrase, rfl⟩, rest.map Token.kind, ?_⟩
    rw [hphrase, List.map_append]

namespace TokenBuffer

/-! ### A phrase is admitted where it may begin -/

theorem addAll_append_eq_ok_iff (buffer after : TokenBuffer) (first second : List Token) :
    buffer.addAll (first ++ second) = (after, .ok ()) ↔
      ∃ between, buffer.addAll first = (between, .ok ()) ∧
        between.addAll second = (after, .ok ()) := by
  induction first generalizing buffer with
  | nil => simp only [List.nil_append, addAll, Prod.mk.injEq, and_true, exists_eq_left']
  | cons token rest ih =>
      simp only [List.cons_append, addAll_cons_eq_ok_iff, ih]
      constructor
      · intro h
        rcases h with ⟨grown, hadd, between, hrest, hsecond⟩
        exact ⟨between, ⟨grown, hadd, hrest⟩, hsecond⟩
      · intro h
        rcases h with ⟨between, ⟨grown, hadd, hrest⟩, hsecond⟩
        exact ⟨grown, hadd, between, hrest, hsecond⟩

/-- A token that may follow the last one is admitted if the brackets allow it. -/
theorem exists_add (buffer : TokenBuffer) (token : Token) (count : Nat)
    (hallowed : token.kind ∈ (successors buffer.previous).1)
    (hcount : buffer.bracketsAfter token.kind = some count) :
    ∃ grown, buffer.add token = .ok grown ∧ grown.previous = some token.kind ∧
      grown.openBrackets = count :=
  ⟨_, (buffer.add_eq_ok_iff
    { tokens := buffer.tokens.push token, previous := some token.kind, openBrackets := count }
    token).mpr ⟨hallowed, hcount, rfl, rfl⟩, rfl, rfl⟩

/-- Where no operand has just ended, the table has both tokens that begin a
    primary. -/
theorem mem_successors_of_not_afterOperand (buffer : TokenBuffer) (h : ¬ buffer.AfterOperand) :
    .symbol ∈ (successors buffer.previous).1 ∧ .openBracket ∈ (successors buffer.previous).1 := by
  unfold AfterOperand at h
  cases hlast : buffer.previous with
  | none => decide
  | some last =>
      rw [hlast] at h
      cases last <;> simp [successors] at h ⊢

/-- Where an operand is due, the table has a negation too. -/
theorem mem_successors_of_beforeOperand (buffer : TokenBuffer) (h : buffer.BeforeOperand) :
    .not ∈ (successors buffer.previous).1 := by
  unfold BeforeOperand AfterOperand at h
  cases hlast : buffer.previous with
  | none => decide
  | some last =>
      rw [hlast] at h
      cases last <;> simp [successors] at h ⊢

/-- Behind an operand the table has the operators and the closing bracket. -/
theorem mem_successors_of_afterOperand (buffer : TokenBuffer) (h : buffer.AfterOperand) :
    .and ∈ (successors buffer.previous).1 ∧ .or ∈ (successors buffer.previous).1 ∧
      .closeBracket ∈ (successors buffer.previous).1 := by
  rcases h with hlast | hlast <;> rw [hlast] <;> decide

/-- Where a phrase of a level may begin: not behind an operand, and behind a
    negation only if it is a primary. -/
def Starts (buffer : TokenBuffer) : Level → Prop
  | .primary => ¬ buffer.AfterOperand
  | .unary | .conjunction | .disjunction => buffer.BeforeOperand

theorem beforeOperand_of_previous (buffer : TokenBuffer) (kind : TokenKind)
    (h : buffer.previous = some kind)
    (hkind : kind = .and ∨ kind = .or ∨ kind = .openBracket) : buffer.BeforeOperand := by
  rcases hkind with rfl | rfl | rfl <;> simp [BeforeOperand, AfterOperand, h]

/-- The closing bracket takes one off the open ones. -/
theorem bracketsAfter_closeBracket (buffer : TokenBuffer) (count : Nat)
    (h : buffer.openBrackets = count + 1) :
    buffer.bracketsAfter .closeBracket = some count := by
  rw [bracketsAfter, if_neg (by omega), h, Nat.add_sub_cancel]

/-- The tokens are admitted and end an operand, and the same brackets are open
    behind them as before. -/
def AdmitsOperand (buffer : TokenBuffer) (tokens : List Token) : Prop :=
  ∃ after, buffer.addAll tokens = (after, .ok ()) ∧
    after.openBrackets = buffer.openBrackets ∧ after.AfterOperand

/-- Behind an operand an operator is admitted, and the next operand is due. -/
theorem AdmitsOperand.connective (buffer : TokenBuffer) (connective : Connective)
    (left right : List Token) (hleft : buffer.AdmitsOperand left)
    (hright : ∀ grown : TokenBuffer, grown.BeforeOperand → grown.AdmitsOperand right) :
    buffer.AdmitsOperand (left ++ connective.token :: right) := by
  rcases hleft with ⟨between, hbetween, hopen, hoperand⟩
  have hallowed : connective.token.kind ∈ (successors between.previous).1 := by
    cases connective with
    | and => exact (between.mem_successors_of_afterOperand hoperand).1
    | or => exact (between.mem_successors_of_afterOperand hoperand).2.1
  rcases between.exists_add connective.token between.openBrackets hallowed
    (by cases connective <;> rfl) with ⟨grown, hadd, hprevious, hgrown⟩
  have hbefore : grown.BeforeOperand :=
    grown.beforeOperand_of_previous _ hprevious (by cases connective <;> decide)
  rcases hright grown hbefore with ⟨after, hafter, hopen', hoperand'⟩
  have hbehind := (addAll_cons_eq_ok_iff between after _ _).mpr ⟨grown, hadd, hafter⟩
  exact ⟨after, (addAll_append_eq_ok_iff _ _ _ _).mpr ⟨between, hbetween, hbehind⟩,
    by rw [hopen', hgrown, hopen], hoperand'⟩

/-- A buffer in which a phrase may begin admits all of it. -/
theorem admitsOperand_tokens {level : Level} (phrase : Phrase level) (buffer : TokenBuffer)
    (hstart : buffer.Starts level) : buffer.AdmitsOperand phrase.tokens := by
  induction phrase generalizing buffer with
  | symbol name =>
      rcases buffer.exists_add (.symbol name) buffer.openBrackets
        (buffer.mem_successors_of_not_afterOperand hstart).1 rfl with
        ⟨grown, hadd, hprevious, hopen⟩
      exact ⟨grown, (addAll_cons_eq_ok_iff _ _ _ _).mpr ⟨grown, hadd, rfl⟩, hopen, Or.inl hprevious⟩
  | bracket inner ih =>
      rcases buffer.exists_add .openBracket (buffer.openBrackets + 1)
        (buffer.mem_successors_of_not_afterOperand hstart).2 rfl with
        ⟨opened, hopening, hprevious, hopened⟩
      rcases ih opened (opened.beforeOperand_of_previous _ hprevious (by decide)) with
        ⟨filled, hfilled, hopen, hoperand⟩
      -- The bracket just opened is still open, so it can be closed.
      rcases filled.exists_add .closeBracket buffer.openBrackets
        (filled.mem_successors_of_afterOperand hoperand).2.2
        (filled.bracketsAfter_closeBracket _ (by rw [hopen, hopened])) with
        ⟨closed, hclosing, hlast, hclosed⟩
      have hbehind := (addAll_cons_eq_ok_iff filled closed .closeBracket []).mpr
        ⟨closed, hclosing, rfl⟩
      have hinside := (addAll_append_eq_ok_iff opened closed _ _).mpr ⟨filled, hfilled, hbehind⟩
      exact ⟨closed, (addAll_cons_eq_ok_iff _ _ _ _).mpr ⟨opened, hopening, hinside⟩, hclosed,
        Or.inr hlast⟩
  | ofPrimary primary ih => exact ih buffer hstart.1
  | not operand ih =>
      rcases buffer.exists_add .not buffer.openBrackets
        (buffer.mem_successors_of_beforeOperand hstart) rfl with ⟨grown, hadd, hprevious, hopen⟩
      -- A negation is no operand yet, and only a primary may follow it.
      have hgrown : ¬ grown.AfterOperand := by
        simp [AfterOperand, hprevious, Token.kind]
      rcases ih grown hgrown with ⟨after, hafter, hopen', hoperand⟩
      exact ⟨after, (addAll_cons_eq_ok_iff _ _ _ _).mpr ⟨grown, hadd, hafter⟩,
        by rw [hopen', hopen], hoperand⟩
  | ofUnary unary ih => exact ih buffer hstart
  | and left right ihl ihr => exact AdmitsOperand.connective buffer .and _ _ (ihl buffer hstart) ihr
  | ofConjunction conjunction ih => exact ih buffer hstart
  | or left right ihl ihr => exact AdmitsOperand.connective buffer .or _ _ (ihl buffer hstart) ihr

/-! ### What was admitted can be completed -/

/-- Behind an operand all open brackets can be closed. -/
theorem exists_closing (buffer : TokenBuffer) (h : buffer.AfterOperand) :
    ∃ rest after, buffer.addAll rest = (after, .ok ()) ∧ after.openBrackets = 0 ∧
      after.AfterOperand := by
  generalize hcount : buffer.openBrackets = count
  induction count generalizing buffer with
  | zero => exact ⟨[], buffer, rfl, hcount, h⟩
  | succ count ih =>
      rcases buffer.exists_add .closeBracket count
        (buffer.mem_successors_of_afterOperand h).2.2
        (buffer.bracketsAfter_closeBracket count hcount) with ⟨closed, hadd, hprevious, hclosed⟩
      rcases ih closed (Or.inr hprevious) hclosed with ⟨rest, after, hrest, hopen, hoperand⟩
      exact ⟨_, after, (addAll_cons_eq_ok_iff _ _ _ _).mpr ⟨closed, hadd, hrest⟩, hopen, hoperand⟩

/-- Whatever a buffer holds can be completed: by a symbol if an operand is due,
    and by closing all brackets. -/
theorem exists_completion (buffer : TokenBuffer) :
    ∃ rest after, buffer.addAll rest = (after, .ok ()) ∧ after.openBrackets = 0 ∧
      after.AfterOperand := by
  by_cases h : buffer.AfterOperand
  · exact exists_closing buffer h
  · rcases buffer.exists_add (.symbol ['x']) buffer.openBrackets
      (buffer.mem_successors_of_not_afterOperand h).1 rfl with ⟨grown, hadd, hprevious, _⟩
    rcases exists_closing grown (Or.inl hprevious) with ⟨rest, after, hrest, hopen, hoperand⟩
    exact ⟨_, after, (addAll_cons_eq_ok_iff _ _ _ _).mpr ⟨grown, hadd, hrest⟩, hopen, hoperand⟩

/-! ### Fresh buffers -/

/-- A lone token that a fresh buffer admits and that ends an operand is a
    symbol, so a buffer is never refused for its single token. -/
theorem previous_of_size_eq_one (filled : TokenBuffer) (tokens : List Token)
    (h : ({} : TokenBuffer).addAll tokens = (filled, .ok ())) (hoperand : filled.AfterOperand)
    (hsize : filled.tokens.size = 1) : filled.previous = some .symbol := by
  have hagrees := Agrees.empty.addAll tokens
  rw [h] at hagrees
  rcases hoperand with hsymbol | hclose
  · exact hsymbol
  · exact absurd hclose (hagrees.previous_ne_of_size_eq_one hsize)

/-- A fresh buffer is finished behind an operand outside all brackets, and then
    with what it was given. -/
theorem build_eq_ok_iff (filled : TokenBuffer) (tokens result : List Token)
    (h : ({} : TokenBuffer).addAll tokens = (filled, .ok ())) :
    filled.build = .ok result ↔
      result = tokens ∧ filled.openBrackets = 0 ∧ filled.AfterOperand := by
  have hlist : filled.tokens.toList = tokens := by
    rw [toList_addAll _ filled tokens h, Array.toList_empty, List.nil_append]
  constructor
  · intro hbuild
    refine ⟨by rw [build_eq_ok filled result hbuild, hlist], ?_⟩
    exact completes_nil filled ⟨filled, result, rfl, hbuild⟩
  · intro hfinished
    rcases hfinished with ⟨rfl, hopen, hoperand⟩
    have hsingle := previous_of_size_eq_one filled _ h hoperand
    unfold build
    rcases hoperand with hlast | hlast
    · simp [hlast, hopen, hlist]
    · have hsize : filled.tokens.size ≠ 1 := by
        intro hone
        rw [hsingle hone] at hlast
        cases hlast
      simp [hlast, hopen, hlist, hsize]

/-- A fresh buffer admits a list and finishes with it exactly if the list is a
    sentence. -/
theorem completes_iff (tokens : List Token) :
    ({} : TokenBuffer).Completes tokens ↔
      ∃ phrase : Phrase .disjunction, phrase.tokens = tokens := by
  constructor
  · exact exists_tokens_of_completes tokens
  · intro h
    rcases h with ⟨phrase, rfl⟩
    rcases admitsOperand_tokens phrase {} beforeOperand_empty with ⟨after, hafter, hopen, hoperand⟩
    exact ⟨after, phrase.tokens, hafter,
      (build_eq_ok_iff after _ _ hafter).mpr ⟨rfl, hopen, hoperand⟩⟩

/-- A fresh buffer admits a list exactly if some sentence begins with it. -/
theorem admits_iff (tokens : List Token) :
    (({} : TokenBuffer).addAll tokens).2 = .ok () ↔ IsViable (tokens.map Token.kind) := by
  rw [isViable_map_kind_iff]
  constructor
  · intro h
    have hfilled : ({} : TokenBuffer).addAll tokens
        = ((({} : TokenBuffer).addAll tokens).1, .ok ()) := Prod.ext rfl h
    rcases exists_completion (({} : TokenBuffer).addAll tokens).1 with
      ⟨rest, after, hrest, hopen, hoperand⟩
    have hall := (addAll_append_eq_ok_iff {} after tokens rest).mpr ⟨_, hfilled, hrest⟩
    rcases (completes_iff (tokens ++ rest)).mp ⟨after, tokens ++ rest, hall,
      (build_eq_ok_iff after _ _ hall).mpr ⟨rfl, hopen, hoperand⟩⟩ with ⟨phrase, hphrase⟩
    exact ⟨phrase, rest, hphrase⟩
  · intro h
    rcases h with ⟨phrase, rest, hphrase⟩
    rcases admitsOperand_tokens phrase {} beforeOperand_empty with ⟨after, hafter, _⟩
    rw [hphrase] at hafter
    rcases (addAll_append_eq_ok_iff {} after tokens rest).mp hafter with ⟨between, hbetween, _⟩
    rw [hbetween]

/-- A buffer that refuses a token keeps those before it. -/
theorem exists_refused_of_addAll (buffer filled : TokenBuffer) (tokens : List Token)
    (violation : GrammarViolation) (h : buffer.addAll tokens = (filled, .error violation)) :
    ∃ admitted token rest, tokens = admitted ++ token :: rest ∧
      buffer.addAll admitted = (filled, .ok ()) ∧ filled.add token = .error violation := by
  induction tokens generalizing buffer with
  | nil => cases h
  | cons token rest ih =>
      rw [addAll] at h
      cases hadd : buffer.add token with
      | ok grown =>
          rw [hadd] at h
          rcases ih grown h with ⟨admitted, refused, rest', rfl, hadmitted, hrefused⟩
          exact ⟨token :: admitted, refused, rest', rfl,
            (addAll_cons_eq_ok_iff _ _ _ _).mpr ⟨grown, hadd, hadmitted⟩, hrefused⟩
      | error violation' =>
          rw [hadd, Prod.mk.injEq, Except.error.injEq] at h
          rw [h.1, h.2] at hadd
          exact ⟨[], token, rest, rfl, by rw [h.1]; rfl, hadd⟩

/-- A fresh or reset buffer admits a list of tokens exactly if its kinds are the
    beginning of a sentence. If it does, it is finished exactly if they are a
    whole sentence, and then with these tokens. If it does not, it stops in
    front of the first token that leaves nothing to complete, and keeps what
    came before. -/
theorem admission_is_viability (old : TokenBuffer) (tokens : List Token) :
    old.reset = {} ∧
    ((old.reset.addAll tokens).2 = .ok () ↔ IsViable (tokens.map Token.kind)) ∧
    ((old.reset.addAll tokens).2 = .ok () → ∀ result,
      (old.reset.addAll tokens).1.build = .ok result ↔
        result = tokens ∧ IsSentence (tokens.map Token.kind)) ∧
    ∀ violation, (old.reset.addAll tokens).2 = .error violation →
      ∃ admitted token rest, tokens = admitted ++ token :: rest ∧
        (old.reset.addAll tokens).1.tokens.toList = admitted ∧
        IsViable (admitted.map Token.kind) ∧
        ¬ IsViable ((admitted ++ [token]).map Token.kind) := by
  have hreset : old.reset = {} := rfl
  rw [hreset]
  refine ⟨rfl, admits_iff tokens, ?_, ?_⟩
  · intro h result
    have hfilled : ({} : TokenBuffer).addAll tokens
        = ((({} : TokenBuffer).addAll tokens).1, .ok ()) := Prod.ext rfl h
    rw [isSentence_map_kind_iff, ← completes_iff]
    constructor
    · intro hbuild
      rcases (build_eq_ok_iff _ _ _ hfilled).mp hbuild with ⟨rfl, _⟩
      exact ⟨rfl, _, _, hfilled, hbuild⟩
    · intro hsentence
      rcases hsentence with ⟨rfl, filled, result', hfilled', hbuild⟩
      rw [hfilled']
      rwa [← ((build_eq_ok_iff filled _ _ hfilled').mp hbuild).1]
  · intro violation h
    have hfilled : ({} : TokenBuffer).addAll tokens
        = ((({} : TokenBuffer).addAll tokens).1, .error violation) := Prod.ext rfl h
    rcases exists_refused_of_addAll _ _ tokens violation hfilled with
      ⟨admitted, token, rest, rfl, hadmitted, hrefused⟩
    refine ⟨admitted, token, rest, rfl, ?_, ?_, ?_⟩
    · rw [toList_addAll _ _ _ hadmitted, Array.toList_empty, List.nil_append]
    · rw [← admits_iff, hadmitted]
    · rw [← admits_iff]
      intro hboth
      rcases (addAll_append_eq_ok_iff {} _ admitted [token]).mp (Prod.ext rfl hboth) with
        ⟨between, hbetween, hadd⟩
      rw [hadmitted, Prod.mk.injEq] at hbetween
      rcases (addAll_cons_eq_ok_iff _ _ _ _).mp hadd with ⟨grown, hgrown, _⟩
      rw [← hbetween.1, hrefused] at hgrown
      cases hgrown

end TokenBuffer

end DirectiveStrip
