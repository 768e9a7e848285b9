import DirectiveStrip.Proofs.Line.Padded
import DirectiveStrip.Proofs.Line.Terminators
import DirectiveStrip.Proofs.Resolve.Comparison

/-!
# Stripping Under Other Terminators

A source that has its line feeds put in another way is stripped to the same output with its
line feeds put in that way, or it is refused with the same error. And two settings that end
the same lines strip a source to the same output.

Nearly all of it is the comparison of two runs line by line, since lines with the same
content say the same. The exception is a setting under which only a line feed ends a line.
It leaves the carriage return of a pair to the content, where it is one more blank at the
end. So a line still says the same, and only the account of a malformed guard may be
another.

## Main definitions

* `Comparison.ofTranslation`: A comparison under which outputs are translated.
* `Line.Translates`: A line with the content of another.
* `Line.KeepsReturn`: A line with the text of another.
* `DirectiveError.SameKind`: Errors that may differ in what they quote.

## Theorems

* `outcome_strip_of_translates`: Stripping a source with the contents of another.
* `strip_convertFeeds`: Stripping a source with its line feeds put in another way.
* `strip_lineEnding`: Stripping a source under another setting for the ends of lines.
-/

namespace DirectiveStrip

/-! ### Lines with the same contents -/

/-- A comparison by a translation. The second run puts out what the first puts out, but
    translated, or it fails with the same error. -/
def Comparison.ofTranslation (translate : Text → Text) (hnil : translate [] = [])
    (happend : ∀ before after, translate (before ++ after) = translate before ++ translate after) :
    Comparison where
  text text text' := text' = translate text
  error := Eq
  excused _ := False
  text_nil := hnil.symm
  text_append := by
    rintro before _ after _ rfl rfl
    exact (happend before after).symm

/-- The second line has the content of the first, and the text of it in translation. -/
structure Line.Translates (translate : Text → Text) (line line' : Line) : Prop where
  number : line'.number = line.number
  content : line'.content = line.content
  text : line'.text = translate line.text

/-- Offsets and terminators aside, nothing is read of a line but its content. -/
theorem outcome_strip_of_translates (settings : Settings) (ending : LineEnding)
    (defined : Text → Bool) (source source' : Text) (translate : Text → Text)
    (hnil : translate [] = [])
    (happend : ∀ before after, translate (before ++ after) = translate before ++ translate after)
    (h : List.Forall₂ (Line.Translates translate) (splitLines settings.lineEnding 1 0 source)
      (splitLines ending 1 0 source')) :
    (strip { settings with lineEnding := ending } defined source').outcome =
      (strip settings defined source).outcome.map translate := by
  have halike : List.Forall₂ (Comparison.ofTranslation translate hnil happend).Alike
      (scan settings source) (scan { settings with lineEnding := ending } source') := by
    rw [scan, scan, scanFrom, scanFrom, List.forall₂_map_left_iff, List.forall₂_map_right_iff]
    refine h.imp ?_
    rintro line line' ⟨hnumber, hcontent, htext⟩
    -- An error shows the number and the content of its line, and these are the same.
    have herror (fault : DirectiveFault) : line.error fault = line'.error fault := by
      rw [Line.error, Line.error, hnumber, hcontent]
    refine ⟨htext, herror, ?_⟩
    show Comparison.Reads _ line line' (LineKind.ofContent settings line.content)
      (LineKind.ofContent settings line'.content)
    rw [hcontent]
    exact .refl herror _
  cases Comparison.follows_strip settings { settings with lineEnding := ending } defined source
    source' (Nat.le_refl _) (.inl rfl) halike with
  | excused _ _ hexcused => exact hexcused.elim
  | fails error error' houtcome houtcome' herror =>
      rw [houtcome, houtcome']
      exact congrArg _ herror.symm
  | succeeds output output' houtcome houtcome' houtput =>
      rw [houtcome, houtcome']
      exact congrArg _ houtput

/-! ### Line feeds put in another way -/

section Convert

variable {terminator : Text} (hterm : terminator = ['\r', '\n'] ∨ terminator = ['\r'])

include hterm

theorem translates_splitLines_convertFeeds (source : Text) (hsource : '\r' ∉ source) :
    List.Forall₂ (Line.Translates (convertFeeds terminator)) (splitLines .auto 1 0 source)
      (splitLines .auto 1 0 (convertFeeds terminator source)) := by
  refine forall₂_splitLines (fun text text' => '\r' ∉ text ∧ text' = convertFeeds terminator text)
    ?_ ?_ 1 0 0 source _ ⟨hsource, rfl⟩
  · rintro text _ ⟨-, rfl⟩
    exact (convertFeeds_eq_nil_iff hterm text).symm
  · rintro text _ ⟨htext, rfl⟩
    rcases LineEnding.cut_convertFeeds hterm text htext with ⟨hcut, hcontent, hrest⟩
    rw [hcut]
    refine ⟨⟨hrest, rfl⟩, fun number start start' => ⟨rfl, rfl, ?_⟩⟩
    rw [Line.text, Line.text, convertFeeds_append, convertFeeds_of_isOneLine _ _ hcontent]

/-- Putting the line feeds of a source in another way puts those of the output in that way,
    and leaves every error as it is. -/
theorem strip_convertFeeds (settings : Settings) (hauto : settings.lineEnding = .auto)
    (defined : Text → Bool) (source : Text) (hsource : '\r' ∉ source) :
    (strip settings defined (convertFeeds terminator source)).outcome =
      (strip settings defined source).outcome.map (convertFeeds terminator) := by
  refine outcome_strip_of_translates settings settings.lineEnding defined source _ _ rfl
    (convertFeeds_append terminator) ?_
  rw [hauto]
  exact translates_splitLines_convertFeeds hterm source hsource

end Convert

/-- Blank lines and a chain inside a branch, put in each of the two ways. -/
theorem strip_convertFeeds_of_blank_lines :
    '\r' ∉ "\n\n#if A\n#if B\n#else\n\ny\n#endif\n#endif".toList ∧
      (strip {} (· == ['A'])
        "\r\n\r\n#if A\r\n#if B\r\n#else\r\n\r\ny\r\n#endif\r\n#endif".toList).outcome =
        .ok "\r\n\r\n\r\ny\r\n".toList ∧
      (strip {} (· == ['A']) "\r\r#if A\r#if B\r#else\r\ry\r#endif\r#endif".toList).outcome =
        .ok "\r\r\ry\r".toList := by
  have hsource : '\r' ∉ "\n\n#if A\n#if B\n#else\n\ny\n#endif\n#endif".toList := by decide
  have hrun : (strip {} (· == ['A'])
      "\n\n#if A\n#if B\n#else\n\ny\n#endif\n#endif".toList).outcome = .ok "\n\n\ny\n".toList := by
    decide +kernel
  refine ⟨hsource, ?_, ?_⟩
  · refine (strip_convertFeeds (.inl rfl) {} rfl (· == ['A']) _ hsource).trans ?_
    rw [hrun]
    rfl
  · refine (strip_convertFeeds (.inr rfl) {} rfl (· == ['A']) _ hsource).trans ?_
    rw [hrun]
    rfl

/-! ### Another setting -/

/-- Where carriage return and line feed only come together, the two of them end what any
    terminator ends. -/
theorem translates_splitLines_crLf (source : Text) (hreturns : ReturnsPaired source)
    (hfeeds : FeedsPaired source) :
    List.Forall₂ (Line.Translates id) (splitLines .auto 1 0 source)
      (splitLines .crLf 1 0 source) := by
  refine forall₂_splitLines
    (fun text text' => (ReturnsPaired text ∧ FeedsPaired text) ∧ text' = text)
    ?_ ?_ 1 0 0 source _ ⟨⟨hreturns, hfeeds⟩, rfl⟩
  · rintro text _ ⟨-, rfl⟩
    exact Iff.rfl
  · rintro text _ ⟨⟨hreturns, hfeeds⟩, rfl⟩
    rcases LineEnding.cut_crLf _ hreturns hfeeds with ⟨hcut, hrest⟩
    rw [hcut]
    exact ⟨⟨⟨LineEnding.returnsPaired_rest_cut _ _ hreturns, hrest⟩, rfl⟩,
      fun _ _ _ => ⟨rfl, rfl, rfl⟩⟩

/-- The second line has the text of the first, but the carriage return in it may have been
    left to the content. -/
structure Line.KeepsReturn (line line' : Line) : Prop where
  number : line'.number = line.number
  text : line'.text = line.text
  content : line'.content = line.content ∨ line'.content = line.content ++ ['\r']

theorem keepsReturn_splitLines_lf (source : Text) (h : ReturnsPaired source) :
    List.Forall₂ Line.KeepsReturn (splitLines .auto 1 0 source) (splitLines .lf 1 0 source) := by
  refine forall₂_splitLines (fun text text' => ReturnsPaired text ∧ text' = text) ?_ ?_
    1 0 0 source _ ⟨h, rfl⟩
  · rintro text _ ⟨-, rfl⟩
    exact Iff.rfl
  · rintro text _ ⟨h, rfl⟩
    rcases LineEnding.cut_lf _ h with hcut | ⟨hcut, hterm⟩
    · rw [hcut]
      exact ⟨⟨LineEnding.returnsPaired_rest_cut _ _ h, rfl⟩, fun _ _ _ => ⟨rfl, rfl, .inl rfl⟩⟩
    · rw [hcut, hterm]
      refine ⟨⟨LineEnding.returnsPaired_rest_cut _ _ h, rfl⟩, fun _ _ _ => ⟨rfl, ?_, .inr rfl⟩⟩
      exact List.append_assoc _ ['\r'] ['\n']

/-- Errors that name the same line and the same kind of fault. -/
structure DirectiveError.SameKind (error error' : DirectiveError) : Prop where
  line : error.line = error'.line
  fault : error.fault.SameKind error'.fault

/-- Outputs are the same, and errors are of the same kind. -/
def sameKind : Comparison :=
  .ofErrors DirectiveError.SameKind fun _ => False

theorem Line.KeepsReturn.alike {line line' : Line} (h : line.KeepsReturn line')
    (settings : Settings) : sameKind.Alike (line.scan settings) (line'.scan settings) := by
  have hkind (fault fault' : DirectiveFault) (hfault : fault.SameKind fault') :
      sameKind.error (line.error fault) (line'.error fault') :=
    ⟨h.number.symm, hfault⟩
  have hagree : AgreeUpTo DirectiveFault.SameKind (LineKind.ofContent settings line.content)
      (LineKind.ofContent settings line'.content) := by
    rcases h.content with hsame | hkept
    · rw [hsame]
      exact .refl .refl _
    · rw [hkept]
      exact agree_ofContent_concat '\r' (by decide) settings line.content
  refine ⟨h.text.symm, fun fault => hkind fault fault (.refl fault), ?_⟩
  unfold Line.scan
  generalize LineKind.ofContent settings line.content = reading,
    LineKind.ofContent settings line'.content = reading' at hagree
  cases hagree with
  | ok kind => exact .same kind
  | error fault fault' hfault => exact .fails fault fault' (hkind fault fault' hfault)

/-- Where every carriage return has a line feed behind it, it makes no difference whether
    any terminator ends a line or a line feed alone, except for the account of a malformed
    guard. If every line feed has a carriage return in front as well, there is no
    difference to the two of them as a terminator either. -/
theorem strip_lineEnding (settings : Settings) (defined : Text → Bool) (source : Text)
    (h : ReturnsPaired source) :
    (FeedsPaired source →
      (strip { settings with lineEnding := .crLf } defined source).outcome =
        (strip { settings with lineEnding := .auto } defined source).outcome) ∧
      AgreeUpTo DirectiveError.SameKind
        (strip { settings with lineEnding := .auto } defined source).outcome
        (strip { settings with lineEnding := .lf } defined source).outcome := by
  constructor
  · intro hfeeds
    have htranslated := outcome_strip_of_translates { settings with lineEnding := .auto } .crLf
      defined source source id rfl (fun _ _ => rfl) (translates_splitLines_crLf source h hfeeds)
    rwa [Except.map_id] at htranslated
  · have halike : List.Forall₂ sameKind.Alike (scan { settings with lineEnding := .auto } source)
        (scan { settings with lineEnding := .lf } source) := by
      rw [scan, scan, scanFrom, scanFrom, List.forall₂_map_left_iff, List.forall₂_map_right_iff]
      exact (keepsReturn_splitLines_lf source h).imp fun _ _ hline => hline.alike _
    cases Comparison.follows_strip { settings with lineEnding := .auto }
      { settings with lineEnding := .lf } defined source source (Nat.le_refl _) (.inl rfl)
      halike with
    | excused _ _ hexcused => exact hexcused.elim
    | fails error error' houtcome houtcome' herror =>
        rw [houtcome, houtcome']
        exact .error error error' herror
    | succeeds output output' houtcome houtcome' houtput =>
        rw [houtcome, houtcome', show output = output' from houtput]
        exact .ok output'

/-- A carriage return behind a guard, behind an `#else` and behind text that is copied. With
    a guard that is cut off, it is the carriage return that is reported. -/
theorem strip_lineEnding_of_pairs :
    ReturnsPaired (convertFeeds ['\r', '\n'] "#if A\nx\n#else\n#endif\n#if A &\n".toList) ∧
      FeedsPaired (convertFeeds ['\r', '\n'] "#if A\nx\n#else\n#endif\n#if A &\n".toList) ∧
      (strip { trailingText := .reject, lineEnding := .crLf } (· == ['A'])
        (convertFeeds ['\r', '\n'] "#if A\nx\n#else\n#endif\n#if A &\n".toList)).outcome =
        .error ⟨5, "#if A &".toList, .invalidExpression
          ⟨" A &".toList, .lexical (.unterminatedOperator .and 3)⟩⟩ ∧
      (strip { trailingText := .reject, lineEnding := .lf } (· == ['A'])
        (convertFeeds ['\r', '\n'] "#if A\nx\n#else\n#endif\n#if A &\n".toList)).outcome =
        .error ⟨5, "#if A &\r".toList, .invalidExpression
          ⟨" A &\r".toList, .lexical (.malformedOperator .and 4)⟩⟩ ∧
      AgreeUpTo DirectiveError.SameKind
        (strip { trailingText := .reject, lineEnding := .auto } (· == ['A'])
          (convertFeeds ['\r', '\n'] "#if A\nx\n#else\n#endif\n#if A &\n".toList)).outcome
        (strip { trailingText := .reject, lineEnding := .lf } (· == ['A'])
          (convertFeeds ['\r', '\n'] "#if A\nx\n#else\n#endif\n#if A &\n".toList)).outcome := by
  rcases paired_convertFeeds "#if A\nx\n#else\n#endif\n#if A &\n".toList (by decide) with
    ⟨hreturns, hfeeds⟩
  rcases strip_lineEnding { trailingText := .reject } (· == ['A']) _ hreturns with ⟨hcrLf, hlf⟩
  refine ⟨hreturns, hfeeds, (hcrLf hfeeds).trans ?_, ?_, hlf⟩
  · decide +kernel
  · decide +kernel

end DirectiveStrip
