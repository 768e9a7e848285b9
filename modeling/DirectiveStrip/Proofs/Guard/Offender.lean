import DirectiveStrip.Proofs.Guard.Cursor

/-!
# Where an Expression Goes Wrong

An expression whose characters form no token is refused with a place in it. This
module says what stands at that place, and what stands in front of it.

Each kind of fault counts from somewhere else: from the first character of the
token, from its second one, or from the end of a name. So a fault is described
twice. `LexicalFault.Begins` looks at the text from the token at fault on, which
is what the lexer has in hand and what an induction along it can carry.
`LexicalFault.PointsAt` looks up places in the whole expression, which is what
somebody does who is shown the fault. They agree wherever the token begins
(`LexicalFault.pointsAt_of_begins`).

A reader by byte offsets finds each kind of fault at another offset as well, and turns it
into a position only then. `LexicalFault.FoundAt` says which offset that is. What is in
front of it has as many characters as the position says, however many bytes they take.

The text in front of the token at fault is in order. It renders the tokens that
were read before, and a lexical fault is only reported if all of these were
admitted. A buffer that has refused an expression for such a fault therefore
holds exactly the tokens in front of it.

## Main definitions

* `LexicalFault.Begins`: A text that begins with a token at fault.
* `LexicalFault.PointsAt`: What an expression holds where a fault points.
* `LexicalFault.FoundAt`: The byte offset at which a fault is found.
* `Lexemes.BreaksOff`: A text that is in order up to a token at fault.

## Theorems

* `LexicalFault.pointsAt_of_begins`: The places in the whole expression.
* `LexicalFault.exists_foundAt_of_begins`: Byte offsets and positions.
* `breaksOff_lexFrom`: Lexing breaks off at a token at fault.
* `TokenBuffer.lexical_of_tokenize`: What was admitted before a lexical fault.
* `TokenBuffer.lexical_fault_points_at_offender`: A lexical fault points at the
  character that is wrong, and all tokens in front of it were admitted.
-/

namespace DirectiveStrip

namespace LexicalFault

/-- A text that begins with a token at fault, if its first character is at
    `start` in the expression. -/
def Begins (start : Nat) (text : Text) : LexicalFault → Prop
  | invalidSymbolCharacter position character =>
      ∃ name rest, text = name ++ character :: rest ∧ position = start + name.length ∧
        isIdentifier name = true ∧ isSymbolContinue character = false ∧
        isSymbolTerminator character = false
  | unexpectedCharacter position character =>
      ∃ rest, text = character :: rest ∧ position = start ∧ isWhiteSpace character = false ∧
        isSymbolStart character = false ∧ character ∉ ['!', '&', '|', '(', ')']
  | malformedOperator operator position =>
      ∃ second rest, text = operator.character :: second :: rest ∧ position = start + 1 ∧
        second ≠ operator.character
  | unterminatedOperator operator position => text = [operator.character] ∧ position = start

/-- What an expression holds where a fault points, if the token at fault begins
    at `start`. Behind a name that is a character that neither continues nor
    ends it; where a token is due, one that begins none; and for an operator,
    its second character if there is one and its first if there is not. -/
def PointsAt (expression : Text) (start : Nat) : LexicalFault → Prop
  | invalidSymbolCharacter position character =>
      expression[position]? = some character ∧
        isIdentifier ((expression.take position).drop start) = true ∧
        isSymbolContinue character = false ∧ isWhiteSpace character = false ∧
        character ∉ ['&', '|', ')']
  | unexpectedCharacter position character =>
      expression[position]? = some character ∧ start = position ∧
        isWhiteSpace character = false ∧ isSymbolStart character = false ∧
        character ∉ ['!', '&', '|', '(', ')']
  | malformedOperator operator position =>
      start + 1 = position ∧ expression[start]? = some operator.character ∧
        ∃ second, expression[position]? = some second ∧ second ≠ operator.character
  | unterminatedOperator operator position =>
      start = position ∧ expression[position]? = some operator.character ∧
        expression.length = position + 1

/-- The position that a fault gives. -/
def position : LexicalFault → Nat
  | invalidSymbolCharacter position _ | unexpectedCharacter position _
  | malformedOperator _ position | unterminatedOperator _ position => position

/-- The byte offset at which a fault is found, if the token at fault begins at the byte
    offset `start`: behind a name, behind the first character of an operator, or where
    the token begins. -/
def FoundAt (expression : Text) (start offset : Nat) : LexicalFault → Prop
  | invalidSymbolCharacter _ _ =>
      ∃ name, slice? expression start offset = some name ∧ isIdentifier name = true
  | malformedOperator operator _ => offset = start + operator.character.utf8Size
  | unexpectedCharacter _ _ | unterminatedOperator _ _ => offset = start

/-- The first character behind a front stands at the length of that front. -/
theorem getElem?_length_append (front rest : Text) (c : Char) :
    (front ++ c :: rest)[front.length]? = some c := by
  rw [List.getElem?_append_right (Nat.le_refl _), Nat.sub_self, List.getElem?_cons_zero]

theorem pointsAt_of_begins (front rest : Text) (fault : LexicalFault)
    (h : fault.Begins front.length rest) : fault.PointsAt (front ++ rest) front.length := by
  cases fault with
  | invalidSymbolCharacter position character =>
      rcases h with ⟨name, after, rfl, rfl, hname, hcontinue, hterminator⟩
      simp only [isSymbolTerminator, Bool.or_eq_false_iff, beq_eq_false_iff_ne] at hterminator
      rcases hterminator with ⟨⟨⟨hspace, hand⟩, hor⟩, hclose⟩
      rw [← List.append_assoc, ← List.length_append]
      refine ⟨getElem?_length_append _ _ _, ?_, hcontinue, hspace, ?_⟩
      · rw [List.take_left, List.drop_left, hname]
      · simp only [List.mem_cons, List.not_mem_nil, or_false, not_or]
        exact ⟨hand, hor, hclose⟩
  | unexpectedCharacter position character =>
      rcases h with ⟨after, rfl, rfl, hspace, hstart, hmem⟩
      exact ⟨getElem?_length_append _ _ _, rfl, hspace, hstart, hmem⟩
  | malformedOperator operator position =>
      rcases h with ⟨second, after, rfl, rfl, hne⟩
      refine ⟨rfl, getElem?_length_append _ _ _, second, ?_, hne⟩
      rw [List.getElem?_append_right (Nat.le_succ _), Nat.succ_sub (Nat.le_refl _), Nat.sub_self]
      rfl
  | unterminatedOperator operator position =>
      rcases h with ⟨rfl, rfl⟩
      exact ⟨rfl, getElem?_length_append _ _ _, List.length_append⟩

theorem exists_foundAt_of_begins (front rest : Text) (fault : LexicalFault)
    (h : fault.Begins front.length rest) :
    ∃ offset, fault.FoundAt (front ++ rest) (byteSize front) offset ∧
      characterPosition? (front ++ rest) offset = some fault.position := by
  cases fault with
  | invalidSymbolCharacter position character =>
      rcases h with ⟨name, after, rfl, rfl, hname, -⟩
      refine ⟨byteSize front + byteSize name, ⟨name, slice?_append _ _ _, hname⟩, ?_⟩
      have hposition := characterPosition?_append (front ++ name) (character :: after)
      rwa [List.append_assoc, byteSize_append, List.length_append] at hposition
  | unexpectedCharacter position character =>
      rcases h with ⟨after, rfl, rfl, -⟩
      exact ⟨byteSize front, rfl, characterPosition?_append _ _⟩
  | malformedOperator operator position =>
      rcases h with ⟨second, after, rfl, rfl, -⟩
      refine ⟨byteSize front + operator.character.utf8Size, rfl, ?_⟩
      have hposition := characterPosition?_append (front ++ [operator.character]) (second :: after)
      rwa [List.append_assoc, byteSize_append, List.length_append] at hposition
  | unterminatedOperator operator position =>
      rcases h with ⟨rfl, rfl⟩
      exact ⟨byteSize front, rfl, characterPosition?_append _ _⟩

end LexicalFault

/-! ### Lexing up to a fault -/

/-- A text that renders the lexemes up to a token at fault. -/
def Lexemes.BreaksOff (lexemes : Lexemes) (position : Nat) (text : Text) (fault : LexicalFault) :
    Prop :=
  ∃ front rest, text = front ++ rest ∧
    (Rendering lexemes.tokens front ∧ NamesAreIdentifiers lexemes.tokens) ∧
    fault.Begins (position + front.length) rest

namespace Lexemes.BreaksOff

variable {position : Nat} {text : Text} {fault : LexicalFault}

/-- Nothing in front of the token at fault. -/
theorem stop (h : fault.Begins position text) :
    (Lexemes.stop fault).BreaksOff position text fault := by
  refine ⟨[], text, rfl, ⟨.nil [] rfl, ?_⟩, h⟩
  intro name hmem
  cases hmem

theorem whiteSpace {lexemes : Lexemes} (c : Char) (hc : isWhiteSpace c = true)
    (h : lexemes.BreaksOff (position + 1) text fault) :
    lexemes.BreaksOff position (c :: text) fault := by
  rcases h with ⟨front, rest, rfl, ⟨hrendering, hnames⟩, hbegins⟩
  have hgap : isBlank [c] = true := by
    rw [isBlank, List.all_cons, hc]
    rfl
  refine ⟨c :: front, rest, rfl, ⟨hrendering.blank_append [c] hgap, hnames⟩, ?_⟩
  rwa [List.length_cons, Nat.add_comm front.length, ← Nat.add_assoc]

theorem cons {lexemes : Lexemes} (token : Token)
    (hname : ∀ name, token = .symbol name → isIdentifier name = true)
    (h : lexemes.BreaksOff (position + token.spelling.length) text fault) :
    (lexemes.cons token).BreaksOff position (token.spelling ++ text) fault := by
  rcases h with ⟨front, rest, rfl, hfront, hbegins⟩
  refine ⟨token.spelling ++ front, rest, (List.append_assoc _ _ _).symm,
    rendering_and_names_cons token _ front hname hfront, ?_⟩
  rwa [List.length_append, ← Nat.add_assoc]

end Lexemes.BreaksOff

/-- The character behind a name that may not stand there. -/
theorem exists_of_filter_terminator (rest : Text) (d : Char)
    (h : (rest.dropWhile isSymbolContinue).head?.filter (fun d => !isSymbolTerminator d) = some d) :
    ∃ after, rest.dropWhile isSymbolContinue = d :: after ∧ isSymbolContinue d = false ∧
      isSymbolTerminator d = false := by
  rcases Option.filter_eq_some_iff.mp h with ⟨hhead, hterminator⟩
  rcases List.head?_eq_some_iff.mp hhead with ⟨after, hafter⟩
  have hstop := List.head?_dropWhile_not isSymbolContinue rest
  rw [hhead] at hstop
  exact ⟨after, hafter, by simpa using hstop, by simpa using hterminator⟩

theorem breaksOff_lexFrom (position : Nat) (text : Text) (fault : LexicalFault)
    (h : (lexFrom position text).fault = some fault) :
    (lexFrom position text).BreaksOff position text fault := by
  fun_induction lexFrom position text with
  | case1 position => cases h
  | case2 position c rest hspace ih => exact (ih h).whiteSpace c hspace
  -- Half an operator, or a whole one.
  | case3 position =>
      cases h
      exact .stop ⟨rfl, rfl⟩
  | case4 position rest _ ih => exact (ih h).cons .and (by simp)
  | case5 position d rest hne =>
      cases h
      exact .stop ⟨d, rest, rfl, rfl, hne⟩
  | case6 position =>
      cases h
      exact .stop ⟨rfl, rfl⟩
  | case7 position rest _ _ ih => exact (ih h).cons .or (by simp)
  | case8 position d rest hne =>
      cases h
      exact .stop ⟨d, rest, rfl, rfl, hne⟩
  -- A negation or a bracket.
  | case9 position rest _ _ _ ih => exact (ih h).cons .not (by simp)
  | case10 position rest _ _ _ _ ih => exact (ih h).cons .openBracket (by simp)
  | case11 position rest _ _ _ _ _ ih => exact (ih h).cons .closeBracket (by simp)
  -- A name, with or without something behind it that may not stand there.
  | case12 position c rest _ _ _ _ _ _ hstart name after d hbehind =>
      cases h
      rcases exists_of_filter_terminator rest d hbehind with
        ⟨after', hafter, hcontinue, hterminator⟩
      refine .stop ⟨name, after', ?_, rfl, isIdentifier_takeWhile c rest hstart, hcontinue,
        hterminator⟩
      rw [← hafter, List.cons_append, List.takeWhile_append_dropWhile]
  | case13 position c rest _ _ _ _ _ _ hstart name after _ ih =>
      have hsplit : c :: rest = name ++ after := by
        rw [List.cons_append, List.takeWhile_append_dropWhile]
      rw [hsplit]
      refine (ih h).cons (.symbol name) ?_
      intro name' heq
      rw [← Token.symbol.inj heq]
      exact isIdentifier_takeWhile c rest hstart
  | case14 position c rest hspace hand hor hnot hopen hclose hstart =>
      cases h
      refine .stop ⟨rest, rfl, rfl, by simpa using hspace, by simpa using hstart, ?_⟩
      simp only [List.mem_cons, List.not_mem_nil, or_false, not_or]
      exact ⟨hnot, hand, hor, hopen, hclose⟩

namespace TokenBuffer

/-- Before a lexical fault all tokens in front of it were admitted, and the
    buffer holds them. -/
theorem lexical_of_tokenize (buffer : TokenBuffer) (expression : Text) (error : ParseError)
    (fault : LexicalFault) (h : (buffer.tokenize expression).2 = .error error)
    (hfault : error.fault = .lexical fault) :
    error.expression = expression ∧ (lex expression).fault = some fault ∧
      ({} : TokenBuffer).addAll (lex expression).tokens
        = ((buffer.tokenize expression).1, .ok ()) := by
  have htokenized := buffer.tokenized expression
  generalize buffer.tokenize expression = reply at h htokenized ⊢
  cases htokenized with
  | faulty filled fault' hfilled hlex =>
      cases h
      cases hfault
      exact ⟨rfl, hlex, hfilled⟩
  | refused filled violation hfilled =>
      cases h
      cases hfault
  | unfinished filled violation hfilled hlex hbuild =>
      cases h
      cases hfault
  | finished filled tokens hfilled hlex hbuild => cases h

/-- An expression that is refused for its characters names the character that is
    wrong, or the place where an operator goes wrong. A reader by byte offsets refuses
    it in the same way. It finds the fault at an offset that depends on the kind of
    fault, and the position is the number of characters in front of that offset. The
    text in front of the token at fault renders tokens with identifiers for names,
    which a fresh buffer admits and which are left in the buffer. -/
theorem lexical_fault_points_at_offender (buffer : TokenBuffer) (expression : Text)
    (error : ParseError) (fault : LexicalFault)
    (h : (buffer.tokenize expression).2 = .error error) (hfault : error.fault = .lexical fault) :
    buffer.tokenizeBytes? expression = some (buffer.tokenize expression) ∧
    error.expression = expression ∧
    ∃ (start : Nat) (tokens : List Token),
      fault.PointsAt expression start ∧
      (∃ offset, fault.FoundAt expression (byteSize (expression.take start)) offset ∧
        characterPosition? expression offset = some fault.position) ∧
      Rendering tokens (expression.take start) ∧ NamesAreIdentifiers tokens ∧
      ({} : TokenBuffer).addAll tokens = ((buffer.tokenize expression).1, .ok ()) := by
  rcases buffer.lexical_of_tokenize expression error fault h hfault with
    ⟨hexpression, hlex, hadmitted⟩
  rcases breaksOff_lexFrom 0 expression fault hlex with
    ⟨front, rest, hsplit, ⟨hrendering, hnames⟩, hbegins⟩
  rw [Nat.zero_add] at hbegins
  have hfront : expression.take front.length = front := by rw [hsplit, List.take_left]
  refine ⟨buffer.tokenizeBytes?_eq expression, hexpression, front.length,
    (lex expression).tokens, ?_, ?_, ?_, hnames, hadmitted⟩
  · rw [hsplit]
    exact LexicalFault.pointsAt_of_begins front rest fault hbegins
  · rw [hfront, hsplit]
    exact LexicalFault.exists_foundAt_of_begins front rest fault hbegins
  · rw [hfront]
    exact hrendering

/-- A character behind a name, in a bracket and behind letters of two bytes. It has the
    offset 12 and the position 9. -/
theorem lexical_fault_points_at_offender_of_wide_letters :
    (({} : TokenBuffer).tokenize "!(ÄÖ || Ü-A)".toList).2
        = .error { expression := "!(ÄÖ || Ü-A)".toList
                   fault := .lexical (.invalidSymbolCharacter 9 '-') } ∧
      characterPosition? "!(ÄÖ || Ü-A)".toList 12 = some 9 ∧
      ({} : TokenBuffer).tokenizeBytes? "!(ÄÖ || Ü-A)".toList
        = some (({} : TokenBuffer).tokenize "!(ÄÖ || Ü-A)".toList) ∧
      ∃ (start : Nat) (tokens : List Token),
        (LexicalFault.invalidSymbolCharacter 9 '-').PointsAt "!(ÄÖ || Ü-A)".toList start ∧
        (∃ offset, (LexicalFault.invalidSymbolCharacter 9 '-').FoundAt "!(ÄÖ || Ü-A)".toList
            (byteSize ("!(ÄÖ || Ü-A)".toList.take start)) offset ∧
          characterPosition? "!(ÄÖ || Ü-A)".toList offset = some 9) ∧
        Rendering tokens ("!(ÄÖ || Ü-A)".toList.take start) ∧ NamesAreIdentifiers tokens ∧
        ({} : TokenBuffer).addAll tokens
          = ((({} : TokenBuffer).tokenize "!(ÄÖ || Ü-A)".toList).1, .ok ()) := by
  have hrefused : (({} : TokenBuffer).tokenize "!(ÄÖ || Ü-A)".toList).2
      = .error { expression := "!(ÄÖ || Ü-A)".toList
                 fault := .lexical (.invalidSymbolCharacter 9 '-') } := by
    decide +kernel
  have hpoints := lexical_fault_points_at_offender {} _ _ _ hrefused rfl
  exact ⟨hrefused, by decide +kernel, hpoints.1, hpoints.2.2⟩

end TokenBuffer

end DirectiveStrip
