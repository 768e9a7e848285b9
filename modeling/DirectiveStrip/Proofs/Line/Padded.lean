import DirectiveStrip.Line.Scan
import DirectiveStrip.Proofs.Guard.Padded

/-!
# White Space in a Directive

What a line says does not depend on the blanks at its end. They belong to neither keyword
nor token, and trailing text is looked at without them. Only the account of a malformed
guard may be another, because an operator that was cut off by the end of the line is then
one that goes on with a wrong character.

In the same way the blank between the keyword and the guard of an `#if` makes no
difference. It is part of the text that is parsed, and no part of the guard.

## Main definitions

* `DirectiveFault.SameKind`: Faults that may differ in what they quote.
* `AgreeUpTo`: Results that may differ in their errors.

## Theorems

* `directive?_concat`: The keyword and the text of a line with a blank at its end.
* `agree_ofContent_concat`: A line says the same with a blank at its end.
* `ofContent_if`: What an `#if` line says.
* `readGuard_cons_eq_ok_iff`: A guard is read the same with a blank in front.
-/

namespace DirectiveStrip

/-! ### Agreement -/

/-- Faults of the same kind. What a malformed guard is refused for may be different. -/
def DirectiveFault.SameKind : DirectiveFault → DirectiveFault → Prop
  | invalidExpression _, invalidExpression _ => True
  | fault, fault' => fault = fault'

theorem DirectiveFault.SameKind.refl (fault : DirectiveFault) : fault.SameKind fault := by
  cases fault with
  | invalidExpression source => exact trivial
  | _ => rfl

/-- Two results that are the same, or two errors that are related. -/
inductive AgreeUpTo {ε α : Type} (related : ε → ε → Prop) : Except ε α → Except ε α → Prop where
  | ok (value : α) : AgreeUpTo related (.ok value) (.ok value)
  | error (error error' : ε) (h : related error error') :
      AgreeUpTo related (.error error) (.error error')

theorem AgreeUpTo.map {ε α β : Type} {related : ε → ε → Prop} {result result' : Except ε α}
    (h : AgreeUpTo related result result') (f : α → β) :
    AgreeUpTo related (result.map f) (result'.map f) := by
  cases h with
  | ok value => exact .ok (f value)
  | error error error' h => exact .error error error' h

theorem AgreeUpTo.refl {ε α : Type} {related : ε → ε → Prop} (h : ∀ error, related error error)
    (result : Except ε α) : AgreeUpTo related result result := by
  rcases result with error | value
  · exact .error error error (h error)
  · exact .ok value

/-! ### A blank at the end of a line -/

theorem takeWhile_concat (p : Char → Bool) (c : Char) (h : p c = false) (text : Text) :
    (text ++ [c]).takeWhile p = text.takeWhile p := by
  rw [List.takeWhile_append, List.takeWhile_cons_of_neg (by simp [h]), List.append_nil]
  split
  · next hall => exact ((List.takeWhile_prefix p).eq_of_length hall).symm
  · rfl

theorem dropWhile_concat (p : Char → Bool) (c : Char) (h : p c = false) (text : Text) :
    (text ++ [c]).dropWhile p = text.dropWhile p ++ [c] := by
  rw [List.dropWhile_append, List.dropWhile_cons_of_neg (by simp [h])]
  split
  · next hall => rw [List.isEmpty_iff.mp hall, List.nil_append]
  · rfl

/-- The keyword and the text behind it are what follows the `#` and the blanks behind that. -/
theorem directive?_of_trimStart (content rest : Text) (h : trimStart content = '#' :: rest) :
    directive? content = some ((trimStart rest).takeWhile isSymbolContinue,
      (trimStart rest).dropWhile isSymbolContinue) := by
  rw [directive?, h]
  rfl

section Blank

variable (c : Char) (hc : isWhiteSpace c = true)

include hc

theorem isBlank_concat (text : Text) : isBlank (text ++ [c]) = isBlank text := by
  rw [isBlank_append]
  simp [isBlank, hc]

theorem trimStart_concat (text : Text) :
    trimStart (text ++ [c]) = if isBlank text then [] else trimStart text ++ [c] := by
  by_cases hblank : isBlank text
  · rw [if_pos hblank, trimStart_eq_nil_iff, isBlank_concat c hc, hblank]
  · rw [if_neg hblank, trimStart, List.dropWhile_append, if_neg]
    · rfl
    · rw [List.isEmpty_iff]
      exact fun hempty => hblank ((trimStart_eq_nil_iff text).mp hempty)

theorem trim_concat (text : Text) : trim (text ++ [c]) = trim text := by
  unfold trim
  rw [trimStart_concat c hc]
  by_cases hblank : isBlank text
  · rw [if_pos hblank, (trimStart_eq_nil_iff text).mpr hblank]
  · rw [if_neg hblank, trimEnd, trimEnd, List.reverse_concat, List.dropWhile_cons_of_pos hc]

/-- The blank belongs to the text behind the keyword, unless it is the `#` that is behind. -/
theorem directive?_concat (content : Text) :
    directive? (content ++ [c]) = directive? content ∨
      ∃ keyword text, directive? content = some (keyword, text) ∧
        directive? (content ++ [c]) = some (keyword, text ++ [c]) := by
  have hcontinue : isSymbolContinue c = false :=
    isSymbolContinue_of_isSymbolTerminator c (by simp [isSymbolTerminator, hc])
  have htrim := trimStart_concat c hc content
  by_cases hblank : isBlank content
  · rw [if_pos hblank] at htrim
    rw [directive?, directive?, htrim, (trimStart_eq_nil_iff content).mpr hblank]
    exact .inl rfl
  · rw [if_neg hblank] at htrim
    rcases hcontent : trimStart content with _ | ⟨d, rest⟩
    · exact absurd ((trimStart_eq_nil_iff content).mp hcontent) hblank
    · rw [hcontent, List.cons_append] at htrim
      by_cases hd : d = '#'
      · rw [hd] at hcontent htrim
        rw [directive?_of_trimStart _ _ hcontent, directive?_of_trimStart _ _ htrim,
          trimStart_concat c hc]
        by_cases hrest : isBlank rest
        · rw [if_pos hrest, (trimStart_eq_nil_iff rest).mpr hrest]
          exact .inl rfl
        · rw [if_neg hrest, takeWhile_concat _ c hcontinue, dropWhile_concat _ c hcontinue]
          exact .inr ⟨_, _, rfl, rfl⟩
      · left
        simp [directive?, htrim, hcontent, hd]

/-! ### Readings -/

variable (settings : Settings)

theorem agree_readGuard_concat (text : Text) :
    AgreeUpTo DirectiveFault.SameKind (readGuard settings text)
      (readGuard settings (text ++ [c])) := by
  unfold readGuard
  rw [isBlank_concat c hc]
  by_cases hblank : isBlank text
  · rw [if_pos hblank, if_pos hblank]
    exact .error _ _ rfl
  · rw [if_neg hblank, if_neg hblank]
    have hguard := (sameTokens_concat c hc text).parse_eq_ok_iff settings.nestingLimit
    -- What is accepted with the blank is accepted without, so both are malformed or neither.
    rcases hparse : Guard.parse settings.nestingLimit text with error | guard
    · rcases hparse' : Guard.parse settings.nestingLimit (text ++ [c]) with error' | guard
      · exact .error _ _ trivial
      · rw [(hguard guard).mp hparse'] at hparse
        cases hparse
    · rw [(hguard guard).mpr hparse]
      exact .ok guard

theorem readTrailing_concat (text : Text) :
    readTrailing settings (text ++ [c]) = readTrailing settings text := by
  unfold readTrailing
  rw [trim_concat c hc, isBlank_concat c hc]

/-- A line says the same with a blank at its end. -/
theorem agree_ofContent_concat (content : Text) :
    AgreeUpTo DirectiveFault.SameKind (LineKind.ofContent settings content)
      (LineKind.ofContent settings (content ++ [c])) := by
  unfold LineKind.ofContent
  rcases directive?_concat c hc content with hsame | ⟨keyword, text, hcontent, hconcat⟩
  · rw [hsame]
    exact .refl .refl _
  · rw [hcontent, hconcat]
    dsimp only
    rw [readTrailing_concat c hc settings text]
    split_ifs
    · exact (agree_readGuard_concat c hc settings text).map _
    · exact (agree_readGuard_concat c hc settings text).map _
    · exact .refl .refl _
    · exact .refl .refl _
    · exact .refl .refl _

end Blank

/-! ### The guard of an `#if` -/

theorem directive?_if (expression : Text) :
    directive? ("#if ".toList ++ expression) = some (['i', 'f'], ' ' :: expression) := by
  have hline : trimStart ("#if ".toList ++ expression) = '#' :: 'i' :: 'f' :: ' ' :: expression :=
    List.dropWhile_cons_of_neg (by decide)
  have hkeyword : trimStart ('i' :: 'f' :: ' ' :: expression) = 'i' :: 'f' :: ' ' :: expression :=
    List.dropWhile_cons_of_neg (by decide)
  have hi : isSymbolContinue 'i' = true := by decide +kernel
  have hf : isSymbolContinue 'f' = true := by decide +kernel
  have hblank : ¬ isSymbolContinue ' ' = true := by decide +kernel
  rw [directive?_of_trimStart _ _ hline, hkeyword, List.takeWhile_cons_of_pos hi,
    List.takeWhile_cons_of_pos hf, List.takeWhile_cons_of_neg hblank,
    List.dropWhile_cons_of_pos hi, List.dropWhile_cons_of_pos hf,
    List.dropWhile_cons_of_neg hblank]

theorem ofContent_if (settings : Settings) (expression : Text) :
    LineKind.ofContent settings ("#if ".toList ++ expression) =
      (readGuard settings (' ' :: expression)).map .ifLine := by
  rw [LineKind.ofContent, directive?_if]
  exact if_pos rfl

/-- A guard that is given with a blank in front is missing if there is nothing but blanks,
    and then there is no expression without the blank either. -/
theorem readGuard_cons_eq_ok_iff (settings : Settings) (c : Char) (hc : isWhiteSpace c = true)
    (expression : Text) (guard : Guard) :
    readGuard settings (c :: expression) = .ok guard ↔
      Guard.parse settings.nestingLimit expression = .ok guard := by
  have hsame := (sameTokens_cons c hc expression).parse_eq_ok_iff settings.nestingLimit guard
  rw [← hsame]
  unfold readGuard
  by_cases hblank : isBlank (c :: expression)
  · rw [if_pos hblank]
    rcases exists_error_of_isBlank _ hblank with ⟨error, herror⟩
    unfold Guard.parse
    rw [parse_of_tokenize_eq_error _ _ _ error herror]
    exact ⟨nofun, nofun⟩
  · rw [if_neg hblank]
    rcases Guard.parse settings.nestingLimit (c :: expression) with error | parsed
    · exact ⟨nofun, nofun⟩
    · simp

end DirectiveStrip
