import DirectiveStrip.Proofs.Guard.Sentence

/-!
# Buffers With a Past

One buffer serves all guards of a document. It is reset in front of each of them,
but whatever was done to it before leaves its tokens behind, and an expression
that was refused leaves those in front of the fault. This module says what can be
relied on all the same.

A buffer keeps three things, and two of them can be read off the third. `Agrees`
says so: the kind of the last token is remembered beside the tokens, and so is
how many more brackets they open than close. Every operation keeps it
(`Agrees.perform`), so it holds after any history.

`add` returns a buffer or a violation, and so cannot say what becomes of a buffer
that is written to before its token turns out to be refused. `store` writes the
fields one after another, and what it has written stays. It makes no difference
(`run_store`): nothing is written in front of a check that fails.

## Main definitions

* `TokenBuffer.store`: Admitting a token, one write after another.
* `TokenBuffer.Agrees`: The fields of a buffer agree with its tokens.
* `TokenBuffer.after`: The buffer after some operations.

## Theorems

* `TokenBuffer.run_store`: A refused token leaves the buffer as it was.
* `TokenBuffer.Agrees.perform`: Every operation keeps the fields together.
* `TokenBuffer.Agrees.build_ne`: A lone token is never refused for being alone.
* `TokenBuffer.holds_after_any_history`: What holds of a buffer with any past.
-/

namespace DirectiveStrip

namespace TokenBuffer

/-! ### One write after another -/

/-- Refuse a token that may not follow the last one. -/
def checkSuccessor (next : TokenKind) : EStateM GrammarViolation TokenBuffer Unit := do
  let buffer ← get
  if next ∈ (successors buffer.previous).1 then return ()
  else throw (.unexpectedToken buffer.previous next (successors buffer.previous).2)

/-- Count a bracket, unless it closes one that is not open. -/
def countBracket : TokenKind → EStateM GrammarViolation TokenBuffer Unit
  | .openBracket => modify fun buffer => { buffer with openBrackets := buffer.openBrackets + 1 }
  | .closeBracket => do
    let buffer ← get
    if buffer.openBrackets = 0 then throw .unexpectedCloseBracket
    else set { buffer with openBrackets := buffer.openBrackets - 1 }
  | .symbol | .not | .and | .or => return ()

/-- Admit a token field by field, or say which rule it breaks. What was written
    before a rule is broken stays written. -/
def store (token : Token) : EStateM GrammarViolation TokenBuffer Unit := do
  checkSuccessor token.kind
  countBracket token.kind
  modify fun buffer => { buffer with previous := some token.kind }
  modify fun buffer => { buffer with tokens := buffer.tokens.push token }

theorem run_checkSuccessor (buffer : TokenBuffer) (next : TokenKind) :
    (checkSuccessor next).run buffer =
      if next ∈ (successors buffer.previous).1 then .ok () buffer
      else
        .error (.unexpectedToken buffer.previous next (successors buffer.previous).2) buffer := by
  rw [checkSuccessor, EStateM.run_bind, EStateM.run_get]
  dsimp only
  split <;> rfl

theorem run_countBracket (buffer : TokenBuffer) (kind : TokenKind) :
    (countBracket kind).run buffer =
      match buffer.bracketsAfter kind with
      | some count => .ok () { buffer with openBrackets := count }
      | none => .error .unexpectedCloseBracket buffer := by
  cases kind with
  | closeBracket =>
      rw [countBracket, EStateM.run_bind, EStateM.run_get, bracketsAfter]
      dsimp only
      split <;> rfl
  | openBracket => rfl
  | symbol => rfl
  | not => rfl
  | and => rfl
  | or => rfl

/-- Admitting a token field by field comes to the same as `add`, and a refused
    token leaves the buffer as it was. -/
theorem run_store (buffer : TokenBuffer) (token : Token) :
    (store token).run buffer =
      match buffer.add token with
      | .ok grown => .ok () grown
      | .error violation => .error violation buffer := by
  rw [store, EStateM.run_bind, run_checkSuccessor, add]
  dsimp only
  by_cases hallowed : token.kind ∈ (successors buffer.previous).1
  · rw [if_pos hallowed, if_pos hallowed]
    dsimp only
    rw [EStateM.run_bind, run_countBracket]
    cases buffer.bracketsAfter token.kind with
    | some count => rfl
    | none => rfl
  · rw [if_neg hallowed, if_neg hallowed]

/-! ### The fields agree with the tokens -/

/-- What a buffer keeps beside its tokens agrees with them. -/
structure Agrees (buffer : TokenBuffer) : Prop where
  previous_eq : buffer.previous = buffer.tokens.toList.getLast?.map Token.kind
  openBrackets_add_count :
    buffer.openBrackets + buffer.tokens.toList.count .closeBracket
      = buffer.tokens.toList.count .openBracket
  /-- No bracket is closed before it is opened. -/
  count_le_of_prefix (front : List Token) :
    front <+: buffer.tokens.toList → front.count .closeBracket ≤ front.count .openBracket

/-- Another token moves the count of open brackets as it moves the counts of
    brackets in the list. -/
theorem openBrackets_add_count_of_add (buffer grown : TokenBuffer) (token : Token)
    (hadd : buffer.add token = .ok grown) :
    grown.openBrackets + [token].count .closeBracket
      = buffer.openBrackets + [token].count .openBracket := by
  cases token with
  | openBracket =>
      have hcount := ((buffer.add_eq_ok_iff grown _).mp hadd).2.1
      exact (Option.some.inj hcount).symm
  | closeBracket => exact buffer.openBrackets_add_closeBracket grown hadd
  | symbol name => exact buffer.openBrackets_add grown _ hadd (by simp) (by simp)
  | not => exact buffer.openBrackets_add grown _ hadd (by simp) (by simp)
  | and => exact buffer.openBrackets_add grown _ hadd (by simp) (by simp)
  | or => exact buffer.openBrackets_add grown _ hadd (by simp) (by simp)

namespace Agrees

variable {buffer grown : TokenBuffer}

theorem empty : Agrees {} where
  previous_eq := rfl
  openBrackets_add_count := rfl
  count_le_of_prefix front hfront := by
    rw [List.prefix_nil.mp hfront]
    exact Nat.le_refl _

theorem add {token : Token} (h : buffer.Agrees) (hadd : buffer.add token = .ok grown) :
    grown.Agrees := by
  have hlist := toList_add hadd
  have hcount : grown.openBrackets + grown.tokens.toList.count .closeBracket
      = grown.tokens.toList.count .openBracket := by
    have hold := h.openBrackets_add_count
    have hnew := openBrackets_add_count_of_add buffer grown token hadd
    rw [hlist, List.count_append, List.count_append]
    omega
  refine ⟨?_, hcount, ?_⟩
  · rw [hlist, List.getLast?_concat, ((buffer.add_eq_ok_iff grown token).mp hadd).2.2.1]
    rfl
  · intro front hfront
    -- Only the whole list is a new front.
    rw [hlist, List.prefix_concat_iff, ← hlist] at hfront
    rcases hfront with rfl | hold
    · omega
    · exact h.count_le_of_prefix front hold

theorem addAll (h : buffer.Agrees) (tokens : List Token) : (buffer.addAll tokens).1.Agrees := by
  induction tokens generalizing buffer with
  | nil => exact h
  | cons token rest ih =>
      rw [TokenBuffer.addAll]
      cases hadd : buffer.add token with
      | ok grown => exact ih (h.add hadd)
      | error violation => exact h

/-- Behind an expression nothing of the past is left. -/
theorem tokenize (buffer : TokenBuffer) (expression : Text) :
    (buffer.tokenize expression).1.Agrees := by
  rw [buffer.fst_tokenize expression]
  exact empty.addAll (lex expression).tokens

theorem perform (h : buffer.Agrees) (operation : BufferOperation) :
    (buffer.perform operation).1.Agrees := by
  cases operation with
  | add token =>
      rw [TokenBuffer.perform]
      cases hadd : buffer.add token with
      | ok grown => exact h.add hadd
      | error violation => exact h
  | reset => exact empty
  | build =>
      rw [TokenBuffer.perform]
      cases buffer.build with
      | ok tokens => exact h
      | error violation => exact h
  | tokenize expression =>
      have hfilled := Agrees.tokenize buffer expression
      rw [TokenBuffer.perform]
      rcases hresult : buffer.tokenize expression with ⟨filled, error | tokens⟩
      · rwa [hresult] at hfilled
      · rwa [hresult] at hfilled

theorem previous_eq_none_iff (h : buffer.Agrees) :
    buffer.previous = none ↔ buffer.tokens = #[] := by
  rw [h.previous_eq, Option.map_eq_none_iff, List.getLast?_eq_none_iff, Array.toList_eq_nil_iff]

/-- A lone token is no closing bracket, for it would have nothing to close. -/
theorem previous_ne_of_size_eq_one (h : buffer.Agrees) (hsize : buffer.tokens.size = 1) :
    buffer.previous ≠ some .closeBracket := by
  intro hclose
  rw [← Array.length_toList, List.length_eq_one_iff] at hsize
  rcases hsize with ⟨token, htoken⟩
  have hcount := h.count_le_of_prefix [token] (htoken ▸ List.prefix_rfl)
  rw [h.previous_eq, htoken, List.getLast?_singleton, Option.map_some, Option.some.injEq] at hclose
  cases token with
  | closeBracket => exact absurd hcount (by decide)
  | symbol name => cases hclose
  | not => cases hclose
  | and => cases hclose
  | or => cases hclose
  | openBracket => cases hclose

/-- A lone token is never refused for being alone: if it ends an operand, it is a
    symbol. -/
theorem build_ne (h : buffer.Agrees) : buffer.build ≠ .error .singleTokenNotSymbol := by
  intro hbuild
  unfold build at hbuild
  split at hbuild
  · cases hbuild
  · next last hlast =>
    split at hbuild
    · cases hbuild
    · split at hbuild
      · cases hbuild
      · next hoperand =>
        split at hbuild
        · next hlone =>
          have hclose : last = .closeBracket := not_not.mp fun hne => hoperand ⟨hlone.2, hne⟩
          exact h.previous_ne_of_size_eq_one hlone.1 (by rw [hlast, hclose])
        · cases hbuild

end Agrees

/-! ### Any history -/

/-- The buffer after some operations, each of which may have failed. -/
def after (operations : List BufferOperation) : TokenBuffer :=
  operations.foldl (fun buffer operation => (buffer.perform operation).1) {}

theorem agrees_foldl (operations : List BufferOperation) (buffer : TokenBuffer)
    (h : buffer.Agrees) :
    (operations.foldl (fun buffer operation => (buffer.perform operation).1) buffer).Agrees := by
  induction operations generalizing buffer with
  | nil => exact h
  | cons operation rest ih => exact ih _ (h.perform operation)

theorem agrees_after (operations : List BufferOperation) : (after operations).Agrees :=
  agrees_foldl operations {} .empty

/-- Whatever was done to a buffer, what it keeps beside its tokens agrees with
    them, a token that is refused changes nothing, and a finished list is never
    refused for having one token. What was done before does not matter to an
    expression: reading and parsing it leave the same buffer and give the same
    answer as if the buffer were fresh. -/
theorem holds_after_any_history (operations : List BufferOperation) :
    (after operations).Agrees ∧
    ((after operations).previous = none ↔ (after operations).tokens = #[]) ∧
    (∀ token, (store token).run (after operations) =
      match (after operations).add token with
      | .ok grown => .ok () grown
      | .error violation => .error violation (after operations)) ∧
    (after operations).build ≠ .error .singleTokenNotSymbol ∧
    (∀ expression,
      (after operations).tokenize expression = ({} : TokenBuffer).tokenize expression) ∧
    ∀ limit expression,
      (after operations).parse limit expression = ({} : TokenBuffer).parse limit expression := by
  have hagrees := agrees_after operations
  exact ⟨hagrees, hagrees.previous_eq_none_iff, run_store _, hagrees.build_ne,
    fun _ => rfl, fun _ _ => rfl⟩

end TokenBuffer

end DirectiveStrip
