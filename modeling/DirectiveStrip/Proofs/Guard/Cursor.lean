import DirectiveStrip.Proofs.Guard.Rendering

/-!
# Reading by Byte Offsets

`lexFrom` is given what is left of an expression and how many characters were in front of
it. A reader of UTF-8 has neither. It has the whole expression and an offset in bytes, cuts
out what it looks at, and counts characters only when there is a fault to report. A cut
that is not between two characters is no text at all, so every step here is partial.

That reader is written down here, with a token going into the buffer as soon as it is read.
It comes to the same as lexing everything and admitting the tokens afterwards
(`TokenBuffer.tokenizeBytes?_eq`), so no cut it makes ever fails, and each fault is given at
the right character although it is found in another way: at the offset of the token, at the
one behind its first character, or at the one that a walk along a name has come to.

The proof writes the expression as what is in front of the cursor and what is left. The
offset is the size of the front in bytes, and the position is its length.

## Main definitions

* `characterPosition?`: How many characters stand in front of a byte offset.
* `skipWhiteSpace?`, `readOperator?`, `readName?`, `readToken?`: The steps of the reader.
* `TokenBuffer.readFrom?`: Reading on from a byte offset.
* `TokenBuffer.tokenizeBytes?`: Reading an expression.
* `ReadsAlike`: A step that comes to the same as lexing a token.

## Theorems

* `characterPosition?_append`: Positions in front of what is left.
* `readToken?_append`: Every token is read as it is lexed.
* `TokenBuffer.takeIn_cons`: Admitting lexemes one by one.
* `TokenBuffer.readFrom?_append`: Reading on is lexing what is left.
* `TokenBuffer.tokenizeBytes?_eq`: Reading by bytes comes to the same.
-/

namespace DirectiveStrip

/-! ### The steps of the reader -/

/-- How many characters stand in front of a byte offset. -/
def characterPosition? (expression : Text) (offset : Nat) : Option Nat :=
  (takeBytes? offset expression).map List.length

/-- The next offset that is not at white space, and the character there if there is one. -/
def skipWhiteSpace? (expression : Text) (position : Nat) : Option (Nat × Option Char) := do
  let rest ← dropBytes? position expression
  let trimmed := trimStart rest
  return (position + (byteSize rest - byteSize trimmed), trimmed.head?)

/-- The offset at which a name ends that goes on with a text, or a character that may not
    stand there with its offset. A name that nothing ends goes on to the last offset. -/
def scanName (last : Nat) : Nat → Text → Except (Nat × Char) Nat
  | _, [] => .ok last
  | offset, c :: rest =>
    if isSymbolTerminator c then .ok offset
    else if !isSymbolContinue c then .error (offset, c)
    else scanName last (offset + c.utf8Size) rest

/-- A token with the offset behind it, or the fault in its place. -/
abbrev TokenReading := Except LexicalFault (Token × Nat)

/-- Read the name at an offset. -/
def readName? (expression : Text) (start : Nat) : Option TokenReading := do
  let rest ← dropBytes? start expression
  match scanName (byteSize expression) start rest with
  | .error (offset, c) =>
    let position ← characterPosition? expression offset
    return .error (.invalidSymbolCharacter position c)
  | .ok stop =>
    let name ← slice? expression start stop
    return .ok (.symbol name, stop)

/-- Read the operator at an offset, of which the first character was seen. -/
def readOperator? (operator : Connective) (expression : Text) (start : Nat) :
    Option TokenReading := do
  let second := start + operator.character.utf8Size
  let rest ← dropBytes? second expression
  match rest.head? with
  | none =>
    let position ← characterPosition? expression start
    return .error (.unterminatedOperator operator position)
  | some c =>
    if c ≠ operator.character then
      let position ← characterPosition? expression second
      return .error (.malformedOperator operator position)
    return .ok (operator.token, second + operator.character.utf8Size)

/-- Read the token at an offset, of which the first character was seen. -/
def readToken? (expression : Text) (start : Nat) (current : Char) : Option TokenReading :=
  if current = '&' then readOperator? .and expression start
  else if current = '|' then readOperator? .or expression start
  else if current = '!' then some (.ok (.not, start + 1))
  else if current = '(' then some (.ok (.openBracket, start + 1))
  else if current = ')' then some (.ok (.closeBracket, start + 1))
  else if isSymbolStart current then readName? expression start
  else do
    let position ← characterPosition? expression start
    return .error (.unexpectedCharacter position current)

/-! ### What the steps come to -/

section Steps

variable (front text : Text)

theorem characterPosition?_append :
    characterPosition? (front ++ text) (byteSize front) = some front.length := by
  rw [characterPosition?, takeBytes?_byteSize]
  rfl

theorem skipWhiteSpace?_append :
    skipWhiteSpace? (front ++ text) (byteSize front) =
      some (byteSize (front ++ text.takeWhile isWhiteSpace), (trimStart text).head?) := by
  have hsplit : byteSize text =
      byteSize (text.takeWhile isWhiteSpace) + byteSize (trimStart text) := by
    rw [← byteSize_append, trimStart, List.takeWhile_append_dropWhile]
  simp only [skipWhiteSpace?, dropBytes?_byteSize, Option.bind_eq_bind, Option.bind_some,
    Option.pure_def, byteSize_append]
  rw [hsplit, Nat.add_sub_cancel]

/-- A walk along a name stops where its characters do, unless the text goes on with
    something that does not end it. -/
theorem scanName_eq (offset : Nat) :
    scanName (offset + byteSize text) offset text =
      match (text.dropWhile isSymbolContinue).head?.filter (fun d => !isSymbolTerminator d) with
      | some d => .error (offset + byteSize (text.takeWhile isSymbolContinue), d)
      | none => .ok (offset + byteSize (text.takeWhile isSymbolContinue)) := by
  induction text generalizing offset with
  | nil => rfl
  | cons c rest ih =>
      rw [scanName]
      by_cases hcontinue : isSymbolContinue c
      · have hterminator : ¬ isSymbolTerminator c := by
          intro hends
          rw [isSymbolContinue_of_isSymbolTerminator c hends] at hcontinue
          cases hcontinue
        rw [if_neg hterminator, if_neg (by simp [hcontinue]), byteSize_cons, ← Nat.add_assoc, ih,
          List.dropWhile_cons_of_pos hcontinue, List.takeWhile_cons_of_pos hcontinue,
          byteSize_cons, ← Nat.add_assoc]
      · rw [List.dropWhile_cons_of_neg hcontinue, List.takeWhile_cons_of_neg hcontinue,
          List.head?_cons]
        by_cases hterminator : isSymbolTerminator c
        · simp [Option.filter, hterminator]
        · simp [Option.filter, hterminator, hcontinue]

/-- A step of the reader at a front that comes to the same as lexing the text behind it. -/
inductive ReadsAlike (front text : Text) : TokenReading → Prop where
  | fault (fault : LexicalFault) (hlex : lexFrom front.length text = .stop fault) :
      ReadsAlike front text (.error fault)
  | token (token : Token) (rest : Text) (hspelling : token.spelling ≠ [])
      (htext : text = token.spelling ++ rest)
      (hlex : lexFrom front.length text =
        .cons token (lexFrom (front ++ token.spelling).length rest)) :
      ReadsAlike front text (.ok (token, byteSize (front ++ token.spelling)))

/-- Operators and brackets are lexed from their spelling, whatever follows. -/
theorem ReadsAlike.of_spelling (token : Token) (htoken : token.kind ≠ .symbol) :
    ReadsAlike front (token.spelling ++ text)
      (.ok (token, byteSize (front ++ token.spelling))) := by
  refine .token token text ?_ rfl ?_
  · cases token with
    | symbol name => exact absurd rfl htoken
    | _ => exact List.cons_ne_nil _ _
  · rw [lexFrom_spelling_append _ token text htoken, List.length_append]

theorem readOperator?_append (operator : Connective) :
    ∃ reading, readOperator? operator (front ++ operator.character :: text) (byteSize front) =
        some reading ∧
      ReadsAlike front (operator.character :: text) reading := by
  have hsplit : front ++ operator.character :: text = (front ++ [operator.character]) ++ text := by
    rw [List.append_assoc, List.singleton_append]
  have hsecond : byteSize front + operator.character.utf8Size =
      byteSize (front ++ [operator.character]) := by
    rw [byteSize_append, byteSize_cons, byteSize_nil, Nat.add_zero]
  have hdrop : dropBytes? (byteSize front + operator.character.utf8Size)
      (front ++ operator.character :: text) = some text := by
    rw [hsecond, hsplit, dropBytes?_byteSize]
  unfold readOperator?
  dsimp only
  rw [hdrop]
  cases text with
  | nil =>
      -- The fault is at the first character, which is the last one.
      have hposition := characterPosition?_append front [operator.character]
      refine ⟨_, by simp [hposition]; rfl, .fault _ ?_⟩
      cases operator with
      | and => rw [Connective.character, lexFrom.eq_def]; rfl
      | or => rw [Connective.character, lexFrom.eq_def]; rfl
  | cons c rest =>
      by_cases hc : c = operator.character
      · subst hc
        refine ⟨.ok (operator.token, byteSize (front ++ operator.token.spelling)), ?_, ?_⟩
        · cases operator <;> simp [Connective.token, Token.spelling, Connective.character,
            Nat.add_assoc]
        · cases operator with
          | and => exact .of_spelling front rest .and (by decide)
          | or => exact .of_spelling front rest .or (by decide)
      · -- The fault is at the second character.
        have hposition := characterPosition?_append (front ++ [operator.character]) (c :: rest)
        rw [← hsplit, ← hsecond, List.length_append, List.length_singleton] at hposition
        refine ⟨.error (.malformedOperator operator (front.length + 1)),
          by simp [hc, hposition], .fault _ ?_⟩
        cases operator with
        | and =>
            rw [Connective.character, lexFrom.eq_def]
            exact if_neg hc
        | or =>
            rw [Connective.character, lexFrom.eq_def]
            exact if_neg hc

/-- A name is cut out of the expression as it is lexed. -/
theorem readName?_append (c : Char) (rest : Text) (hstart : isSymbolStart c = true) :
    ∃ reading, readName? (front ++ c :: rest) (byteSize front) = some reading ∧
      ReadsAlike front (c :: rest) reading := by
  have hcontinue := isSymbolContinue_of_isSymbolStart hstart
  have hlex := lexFrom_of_isSymbolStart front.length c rest hstart
  have hscan := scanName_eq (c :: rest) (byteSize front)
  rw [List.dropWhile_cons_of_pos hcontinue, List.takeWhile_cons_of_pos hcontinue,
    ← byteSize_append] at hscan
  have hsplit : c :: rest =
      (c :: rest.takeWhile isSymbolContinue) ++ rest.dropWhile isSymbolContinue := by
    rw [List.cons_append, List.takeWhile_append_dropWhile]
  have hne : c :: rest.takeWhile isSymbolContinue ≠ [] := List.cons_ne_nil _ _
  -- What the name is made of plays no part any more, only where it ends.
  generalize c :: rest.takeWhile isSymbolContinue = name at hlex hscan hsplit hne
  generalize rest.dropWhile isSymbolContinue = after at hlex hscan hsplit
  unfold readName?
  rw [dropBytes?_byteSize, Option.bind_eq_bind, Option.bind_some, hscan, hsplit]
  cases hfilter : after.head?.filter (fun d => !isSymbolTerminator d) with
  | some d =>
      rw [hfilter] at hlex
      have hposition := characterPosition?_append (front ++ name) after
      rw [List.append_assoc, List.length_append, byteSize_append] at hposition
      exact ⟨.error (.invalidSymbolCharacter (front.length + name.length) d), by simp [hposition],
        .fault _ (by rw [← hsplit, hlex])⟩
  | none =>
      rw [hfilter] at hlex
      refine ⟨.ok (.symbol name, byteSize (front ++ name)), ?_, ?_⟩
      · simp [slice?_append]
      · refine .token (.symbol name) after hne rfl ?_
        rw [← hsplit, hlex, List.length_append]
        rfl

/-- Every token is read as it is lexed. -/
theorem readToken?_append (c : Char) (rest : Text) (hspace : isWhiteSpace c = false) :
    ∃ reading, readToken? (front ++ c :: rest) (byteSize front) c = some reading ∧
      ReadsAlike front (c :: rest) reading := by
  unfold readToken?
  by_cases hand : c = '&'
  · subst hand
    exact readOperator?_append front rest .and
  by_cases hor : c = '|'
  · subst hor
    exact readOperator?_append front rest .or
  by_cases hnot : c = '!'
  · subst hnot
    exact ⟨.ok (.not, byteSize (front ++ ['!'])), by rw [byteSize_append]; rfl,
      .of_spelling front rest .not (by decide)⟩
  by_cases hopen : c = '('
  · subst hopen
    exact ⟨.ok (.openBracket, byteSize (front ++ ['('])), by rw [byteSize_append]; rfl,
      .of_spelling front rest .openBracket (by decide)⟩
  by_cases hclose : c = ')'
  · subst hclose
    exact ⟨.ok (.closeBracket, byteSize (front ++ [')'])), by rw [byteSize_append]; rfl,
      .of_spelling front rest .closeBracket (by decide)⟩
  rw [if_neg hand, if_neg hor, if_neg hnot, if_neg hopen, if_neg hclose]
  by_cases hstart : isSymbolStart c
  · rw [if_pos hstart]
    exact readName?_append front c rest hstart
  · rw [if_neg hstart]
    refine ⟨.error (.unexpectedCharacter front.length c), by simp [characterPosition?_append],
      .fault _ ?_⟩
    rw [lexFrom.eq_def]
    simp only [hspace, hand, hor, hnot, hopen, hclose, hstart, if_false, Bool.false_eq_true]

end Steps

/-! ### Reading on -/

/-- If there is nothing left but white space, nothing is left to lex. -/
theorem lexFrom_of_skipWhiteSpace? (front text : Text) (start : Nat)
    (h : skipWhiteSpace? (front ++ text) (byteSize front) = some (start, none)) :
    lexFrom front.length text = .done := by
  rw [skipWhiteSpace?_append, Option.some.injEq, Prod.mk.injEq, List.head?_eq_none_iff,
    trimStart_eq_nil_iff] at h
  have hlex := lexFrom_blank_append front.length text [] h.2
  rw [List.append_nil] at hlex
  rw [hlex, lexFrom]

/-- Behind white space the next token is read, and it is read as it is lexed. -/
theorem exists_reading_of_skipWhiteSpace? (front text : Text) (start : Nat) (current : Char)
    (h : skipWhiteSpace? (front ++ text) (byteSize front) = some (start, some current)) :
    ∃ gap rest reading, text = gap ++ rest ∧
      lexFrom front.length text = lexFrom (front ++ gap).length rest ∧
      readToken? (front ++ text) start current = some reading ∧
      ReadsAlike (front ++ gap) rest reading := by
  rw [skipWhiteSpace?_append, Option.some.injEq, Prod.mk.injEq] at h
  rcases h with ⟨rfl, hhead⟩
  have hvisible := List.head?_dropWhile_not isWhiteSpace text
  have hsplit : text = text.takeWhile isWhiteSpace ++ trimStart text := by
    rw [trimStart, List.takeWhile_append_dropWhile]
  have hblank : isBlank (text.takeWhile isWhiteSpace) = true := by
    rw [isBlank, List.all_eq_true]
    exact fun c hc => List.mem_takeWhile_imp hc
  have hlex := lexFrom_blank_append front.length _ (trimStart text) hblank
  rw [← hsplit, ← List.length_append] at hlex
  rw [← trimStart, hhead] at hvisible
  rcases List.head?_eq_some_iff.mp hhead with ⟨rest, hrest⟩
  rcases readToken?_append (front ++ text.takeWhile isWhiteSpace) current rest
    (by simpa using hvisible) with ⟨reading, hread, halike⟩
  rw [List.append_assoc, ← hrest, ← hsplit] at hread
  rw [← hrest] at halike
  exact ⟨_, _, reading, hsplit, hlex, hread, halike⟩

/-- Whatever is read behind white space is read as it is lexed. -/
theorem readsAlike_of_readToken? (front text : Text) (start : Nat) (current : Char)
    (reading : TokenReading)
    (hskip : skipWhiteSpace? (front ++ text) (byteSize front) = some (start, some current))
    (hread : readToken? (front ++ text) start current = some reading) :
    ∃ gap rest, text = gap ++ rest ∧
      lexFrom front.length text = lexFrom (front ++ gap).length rest ∧
      ReadsAlike (front ++ gap) rest reading := by
  rcases exists_reading_of_skipWhiteSpace? front text start current hskip with
    ⟨gap, rest, reading', htext, hlex, hreading, halike⟩
  rw [hread, Option.some.injEq] at hreading
  rw [← hreading] at halike
  exact ⟨gap, rest, htext, hlex, halike⟩

/-- A token takes the reader on, and not beyond the expression. -/
theorem sub_lt_of_readToken? (expression : Text) (position start stop : Nat) (current : Char)
    (token : Token) (hskip : skipWhiteSpace? expression position = some (start, some current))
    (hread : readToken? expression start current = some (.ok (token, stop))) :
    byteSize expression - stop < byteSize expression - position := by
  rcases Option.bind_eq_some_iff.mp hskip with ⟨text, hdrop, -⟩
  rcases exists_of_dropBytes? position expression text hdrop with ⟨front, rfl, rfl⟩
  rcases readsAlike_of_readToken? front text start current _ hskip hread with
    ⟨gap, rest, rfl, -, halike⟩
  cases halike with
  | token _ after hspelling htext _ =>
      have hpos : byteSize token.spelling ≠ 0 := fun hzero =>
        hspelling (eq_nil_of_byteSize _ hzero)
      simp only [htext, byteSize_append]
      omega

namespace TokenBuffer

/-- Read on from a byte offset, and admit each token as soon as it is read. -/
def readFrom? (expression : Text) (position : Nat) (buffer : TokenBuffer) :
    Option (TokenBuffer × Except ParseError (List Token)) :=
  match hskip : skipWhiteSpace? expression position with
  | none => none
  | some (_, none) =>
    match buffer.build with
    | .error violation => some (buffer, .error { expression, fault := .grammar violation })
    | .ok tokens => some (buffer, .ok tokens)
  | some (start, some current) =>
    match hread : readToken? expression start current with
    | none => none
    | some (.error fault) => some (buffer, .error { expression, fault := .lexical fault })
    | some (.ok (token, stop)) =>
      match buffer.add token with
      | .error violation => some (buffer, .error { expression, fault := .grammar violation })
      | .ok grown =>
        have := sub_lt_of_readToken? expression position start stop current token hskip hread
        readFrom? expression stop grown
termination_by byteSize expression - position

/-- Read an expression by byte offsets into a buffer. -/
def tokenizeBytes? (buffer : TokenBuffer) (expression : Text) :
    Option (TokenBuffer × Except ParseError (List Token)) :=
  readFrom? expression 0 buffer.reset

/-- Lexemes are admitted one by one. -/
theorem takeIn_cons (buffer : TokenBuffer) (expression : Text) (token : Token) (rest : Lexemes) :
    buffer.takeIn expression (.cons token rest) =
      match buffer.add token with
      | .error violation => (buffer, .error { expression, fault := .grammar violation })
      | .ok grown => grown.takeIn expression rest := by
  unfold takeIn Lexemes.cons
  dsimp only
  rw [addAll]
  cases buffer.add token <;> rfl

/-- Reading on is lexing what is left and admitting it. -/
theorem readFrom?_append (buffer : TokenBuffer) (front text : Text) :
    readFrom? (front ++ text) (byteSize front) buffer =
      some (buffer.takeIn (front ++ text) (lexFrom front.length text)) := by
  -- On the calls of the reader, with the offset at the end of a front in each of them.
  generalize hexpression : front ++ text = expression
  generalize hposition : byteSize front = position
  fun_induction readFrom? expression position buffer generalizing front text with
  | case1 position buffer hskip =>
      -- The offset is where the front ends, so there is something behind it.
      rw [← hexpression, ← hposition, skipWhiteSpace?_append] at hskip
      cases hskip
  | case2 position buffer start hskip violation hbuild =>
      rw [← hexpression, ← hposition] at hskip
      rw [lexFrom_of_skipWhiteSpace? front text start hskip]
      simp [takeIn, Lexemes.done, addAll, hbuild]
  | case3 position buffer start hskip tokens hbuild =>
      rw [← hexpression, ← hposition] at hskip
      rw [lexFrom_of_skipWhiteSpace? front text start hskip]
      simp [takeIn, Lexemes.done, addAll, hbuild]
  | case4 position buffer start current hskip hread =>
      subst hexpression hposition
      rcases exists_reading_of_skipWhiteSpace? front text start current hskip with
        ⟨gap, rest, reading, -, -, hreading, -⟩
      rw [hread] at hreading
      cases hreading
  | case5 position buffer start current hskip fault hread =>
      subst hexpression hposition
      rcases readsAlike_of_readToken? front text start current _ hskip hread with
        ⟨gap, rest, -, hskipped, halike⟩
      cases halike with
      | fault _ hlex => rw [hskipped, hlex]; rfl
  | case6 position buffer start current hskip token stop hread violation hadd =>
      subst hexpression hposition
      rcases readsAlike_of_readToken? front text start current _ hskip hread with
        ⟨gap, rest, -, hskipped, halike⟩
      cases halike with
      | token _ after _ _ hlex => rw [hskipped, hlex, takeIn_cons, hadd]
  | case7 position buffer start current hskip token stop hread grown hadd _ ih =>
      subst hexpression hposition
      rcases readsAlike_of_readToken? front text start current _ hskip hread with
        ⟨gap, rest, rfl, hskipped, halike⟩
      cases halike with
      | token _ after _ htext hlex =>
          rw [hskipped, hlex, takeIn_cons, hadd]
          exact ih (front ++ gap ++ token.spelling) after (by simp [htext]) rfl

/-- Reading an expression by byte offsets comes to the same as lexing it first. No text is
    ever cut out at an offset inside a character or beyond the end. -/
theorem tokenizeBytes?_eq (buffer : TokenBuffer) (expression : Text) :
    buffer.tokenizeBytes? expression = some (buffer.tokenize expression) :=
  buffer.reset.readFrom?_append [] expression

end TokenBuffer

end DirectiveStrip
