import DirectiveStrip.Proofs.Guard.Parsing
import DirectiveStrip.Proofs.Resolve.Comparison

/-!
# Relaxed Settings

Settings can be relaxed: more nesting allowed, text behind `#else` and `#endif` ignored
and not rejected, other directives passed through. A source that is refused for one of
these things may then be accepted, or be refused for something else. For any other
source nothing changes, be it stripped or refused.

The limit is used in two places that have nothing to do with each other. Brackets in a
guard may nest as deep as the limit, and a chain may have as many chains around it. Both
fail with an error of their own, so both are excused, and where neither has failed more
room makes no difference.

## Main definitions

* `Settings.Relaxes`: Settings that allow at least as much.
* `DirectiveFault.isStrictness`: Faults that relaxed settings may do away with.
* `Persists`: A result that is the same under relaxed settings.

## Theorems

* `Guard.parse_of_le`: Parsing a guard under a larger limit.
* `persists_ofContent`: Reading a line under relaxed settings.
* `strip_relaxed`: Stripping under relaxed settings.
-/

namespace DirectiveStrip

open Resolution

/-- Settings that allow at least as much as others and end lines in the same way. How many
    tokens a guard is expected to have is left open. -/
structure Settings.Relaxes (settings relaxed : Settings) : Prop where
  lineEnding : relaxed.lineEnding = settings.lineEnding
  trailingText : relaxed.trailingText = settings.trailingText ∨ relaxed.trailingText = .ignore
  unknownDirectives : relaxed.unknownDirectives = settings.unknownDirectives ∨
    relaxed.unknownDirectives = .passThrough
  nestingLimit : settings.nestingLimit ≤ relaxed.nestingLimit

/-- A fault that is only one because the settings are as strict as they are. -/
def DirectiveFault.isStrictness : DirectiveFault → Bool
  | nestingTooDeep _ | trailingText | unknownDirective => true
  | invalidExpression ⟨_, .nestingTooDeep _⟩ => true
  | missingExpression | invalidExpression _ | unexpectedDirective | missingEndIf => false

/-! ### Reading lines -/

/-- A result that is the same under relaxed settings, unless it is a fault of strictness. -/
def Persists {α : Type} (result relaxed : Except DirectiveFault α) : Prop :=
  relaxed = result ∨ ∃ fault, result = .error fault ∧ fault.isStrictness

theorem Persists.map {α β : Type} {result relaxed : Except DirectiveFault α}
    (h : Persists result relaxed) (f : α → β) : Persists (result.map f) (relaxed.map f) := by
  rcases h with rfl | ⟨fault, rfl, hstrict⟩
  · exact .inl rfl
  · exact .inr ⟨fault, rfl, hstrict⟩

/-- A guard that is not refused for its nesting is parsed the same under a larger limit. -/
theorem Guard.parse_of_le (limit limit' : Nat) (h : limit ≤ limit') (expression : Text) :
    Guard.parse limit' expression = Guard.parse limit expression ∨
      Guard.parse limit expression = .error { expression, fault := .nestingTooDeep limit } := by
  unfold Guard.parse
  rcases htokens : tokenize expression with error | tokens
  · -- The limit comes in behind the tokens.
    left
    rw [parse_of_tokenize_eq_error _ _ _ error htokens,
      parse_of_tokenize_eq_error _ _ _ error htokens]
  · rcases exists_phrase_of_tokenize expression tokens htokens with ⟨phrase, rfl⟩
    rw [parse_eq_build _ _ _ phrase htokens, parse_eq_build _ _ _ phrase htokens]
    by_cases hdeep : limit < bracketNesting phrase.tokens
    · right
      rw [if_pos hdeep]
    · left
      rw [if_neg hdeep, if_neg (by omega)]

section Reading

variable {settings relaxed : Settings} (h : settings.Relaxes relaxed)

include h

theorem persists_readGuard (text : Text) :
    Persists (readGuard settings text) (readGuard relaxed text) := by
  unfold readGuard
  by_cases hblank : isBlank text
  · rw [if_pos hblank, if_pos hblank]
    exact .inl rfl
  · rw [if_neg hblank, if_neg hblank]
    rcases Guard.parse_of_le _ _ h.nestingLimit text with hsame | hdeep
    · rw [hsame]
      exact .inl rfl
    · rw [hdeep]
      exact .inr ⟨_, rfl, rfl⟩

/-- Where trailing text would be rejected there is none, so there is none to ignore. -/
theorem persists_readTrailing (text : Text) :
    Persists (readTrailing settings text) (readTrailing relaxed text) := by
  unfold readTrailing
  rcases h.trailingText with hsame | hignore
  · rw [hsame]
    exact .inl rfl
  · rw [hignore]
    rcases settings.trailingText with _ | _
    · exact .inl rfl
    · by_cases hblank : isBlank text
      · left
        dsimp only
        rw [if_pos hblank, (trim_eq_nil_iff text).mpr hblank]
      · right
        dsimp only
        rw [if_neg hblank]
        exact ⟨.trailingText, rfl, rfl⟩

theorem persists_ofContent (content : Text) :
    Persists (LineKind.ofContent settings content) (LineKind.ofContent relaxed content) := by
  unfold LineKind.ofContent
  split
  · exact .inl rfl
  · next keyword text _ =>
    by_cases hif : keyword = ['i', 'f']
    · rw [if_pos hif, if_pos hif]
      exact (persists_readGuard h text).map _
    · rw [if_neg hif, if_neg hif]
      by_cases helif : keyword = ['e', 'l', 'i', 'f']
      · rw [if_pos helif, if_pos helif]
        exact (persists_readGuard h text).map _
      · rw [if_neg helif, if_neg helif]
        by_cases helse : keyword = ['e', 'l', 's', 'e']
        · rw [if_pos helse, if_pos helse]
          exact (persists_readTrailing h text).map _
        · rw [if_neg helse, if_neg helse]
          by_cases hendif : keyword = ['e', 'n', 'd', 'i', 'f']
          · rw [if_pos hendif, if_pos hendif]
            exact (persists_readTrailing h text).map _
          · -- Another directive is the same to both, or it was rejected.
            rw [if_neg hendif, if_neg hendif]
            rcases h.unknownDirectives with hsame | hpass
            · rw [hsame]
              exact .inl rfl
            · rw [hpass]
              rcases settings.unknownDirectives with _ | _
              · exact .inr ⟨.unknownDirective, rfl, rfl⟩
              · exact .inl rfl

end Reading

/-! ### Stripping -/

/-- Nothing may differ, except behind an error for a fault of strictness. -/
def strictness : Comparison :=
  .ofErrors Eq fun error => error.fault.isStrictness

theorem alike_scan {settings relaxed : Settings} (h : settings.Relaxes relaxed) (source : Text) :
    List.Forall₂ strictness.Alike (scan settings source) (scan relaxed source) := by
  rw [scan, scan, scanFrom, scanFrom, h.lineEnding, List.forall₂_map_left_iff,
    List.forall₂_map_right_iff, List.forall₂_same]
  intro line _
  refine ⟨rfl, fun _ => rfl, ?_⟩
  show strictness.Reads line line (LineKind.ofContent settings line.content)
    (LineKind.ofContent relaxed line.content)
  rcases persists_ofContent h line.content with hsame | ⟨fault, hfault, hstrict⟩
  · rw [hsame]
    exact .refl (fun _ => rfl) _
  · rw [hfault]
    exact .excused fault _ hstrict

/-- Stripping under relaxed settings comes to the same result, in success and in failure,
    and asks for the same symbols, unless it has failed for a fault of strictness. -/
theorem strip_relaxed (settings relaxed : Settings) (h : settings.Relaxes relaxed)
    (defined : Text → Bool) (source : Text)
    (hresult : ∀ error, (strip settings defined source).outcome = .error error →
      ¬ error.fault.isStrictness) :
    (strip relaxed defined source).outcome = (strip settings defined source).outcome ∧
      asked (strip relaxed defined source) = asked (strip settings defined source) := by
  cases strictness.follows_strip settings relaxed defined source source h.nestingLimit
    (.inr fun _ => rfl) (alike_scan h source) with
  | excused error houtcome hexcused => exact absurd hexcused (hresult error houtcome)
  | fails error error' houtcome houtcome' herror hsees =>
      rw [houtcome, houtcome']
      exact ⟨congrArg _ herror.symm, hsees.asked.symm⟩
  | succeeds output output' houtcome houtcome' houtput hsees =>
      rw [houtcome, houtcome']
      exact ⟨congrArg _ houtput.symm, hsees.asked.symm⟩

/-- A guard and a chain at the limit, and a branch in disorder behind them. The blank
    behind the first `#else` is no text, and the last directive is never read. -/
theorem strip_relaxed_of_disorder :
    Settings.Relaxes { trailingText := .reject, nestingLimit := 1 }
        { unknownDirectives := .passThrough, nestingLimit := 2, tokenCapacity := 0 } ∧
      (strip { trailingText := .reject, nestingLimit := 1 } (· == ['A'])
        "#if (A && B)\n#else \n#if A\n#endif\n#endif\n#else\n#region\n".toList).outcome =
        .error ⟨6, "#else".toList, .unexpectedDirective⟩ ∧
      (strip { unknownDirectives := .passThrough, nestingLimit := 2, tokenCapacity := 0 }
        (· == ['A'])
        "#if (A && B)\n#else \n#if A\n#endif\n#endif\n#else\n#region\n".toList).outcome =
        .error ⟨6, "#else".toList, .unexpectedDirective⟩ ∧
      asked (strip { unknownDirectives := .passThrough, nestingLimit := 2, tokenCapacity := 0 }
        (· == ['A']) "#if (A && B)\n#else \n#if A\n#endif\n#endif\n#else\n#region\n".toList) =
        ["A".toList, "B".toList, "A".toList] := by
  have hrelaxes : Settings.Relaxes { trailingText := .reject, nestingLimit := 1 }
      { unknownDirectives := .passThrough, nestingLimit := 2, tokenCapacity := 0 } :=
    ⟨rfl, .inr rfl, .inr rfl, by decide⟩
  have hrun : (strip { trailingText := .reject, nestingLimit := 1 } (· == ['A'])
      "#if (A && B)\n#else \n#if A\n#endif\n#endif\n#else\n#region\n".toList).outcome =
        .error ⟨6, "#else".toList, .unexpectedDirective⟩ := by
    decide +kernel
  have hasked : asked (strip { trailingText := .reject, nestingLimit := 1 } (· == ['A'])
      "#if (A && B)\n#else \n#if A\n#endif\n#endif\n#else\n#region\n".toList) =
        ["A".toList, "B".toList, "A".toList] := by
    decide +kernel
  rcases strip_relaxed _ _ hrelaxes (· == ['A'])
    "#if (A && B)\n#else \n#if A\n#endif\n#endif\n#else\n#region\n".toList (by
      intro error herror
      rw [hrun, Except.error.injEq] at herror
      rw [← herror]
      decide) with ⟨houtcome, hsame⟩
  exact ⟨hrelaxes, hrun, houtcome.trans hrun, hsame.trans hasked⟩

end DirectiveStrip
