import DirectiveStrip.Proofs.Command.Course
import DirectiveStrip.Proofs.Line.Padded
import DirectiveStrip.Proofs.Line.Terminators
import DirectiveStrip.Proofs.Resolve.Live

/-!
# Explaining a Guard

The command can explain a guard: it shows the value that the guard has for the symbols of
a run. That is of use if an `#if` with the same guard does what the value says, so the two
are compared here, on a source with a single line under an `#if`.

Both parse the same text, up to the blank behind the keyword, and both use the same
symbols. The nesting limit is where they part. An `#if` is held to the limit in the
settings, and an explanation always to the default. So they agree exactly about guards
that nest within both limits or beyond both, and about those that are malformed.

## Main definitions

* `HasValue`: The value of an expression, if there is one within a limit.
* `Decides`: Something that shows the value of a guard.
* `sampleText`: A source with a single line under an `#if`.
* `ShowsValue`: A run that succeeds and shows this value.
* `AgreesWithDirective`: An explanation that says what an `#if` does.

## Theorems

* `Decides.agree_iff`: When two limits lead to the same.
* `decides_sampleText`: An `#if` shows the value of its guard.
* `decides_explanation`: An explanation does as well.
* `agreesWithDirective_iff`: When the two agree.
* `explanation_past_nesting_limit`: A guard about which they do not.
-/

namespace DirectiveStrip

open Resolution

/-! ### Values -/

/-- The expression is accepted within the limit, and its guard has this value. -/
def HasValue (limit : Nat) (defined : Text → Bool) (expression : Text) (value : Bool) : Prop :=
  ∃ guard, Guard.parse limit expression = .ok guard ∧ guard.holds defined = value

/-- Nothing but the nesting depends on the limit. -/
theorem hasValue_iff_of_tokenize (limit : Nat) (defined : Text → Bool) (expression : Text)
    (value : Bool) (phrase : Phrase .disjunction)
    (htokens : tokenize expression = .ok phrase.tokens) :
    HasValue limit defined expression value ↔
      bracketNesting phrase.tokens ≤ limit ∧ phrase.guard.holds defined = value := by
  unfold HasValue Guard.parse
  rw [parse_eq_build _ _ _ phrase htokens]
  by_cases hdeep : limit < bracketNesting phrase.tokens
  · rw [if_pos hdeep]
    exact ⟨nofun, fun h => absurd h.1 (Nat.not_le.mpr hdeep)⟩
  · rw [if_neg hdeep]
    simp [Nat.not_lt.mp hdeep]

theorem not_hasValue_of_tokenize (limit : Nat) (defined : Text → Bool) (expression : Text)
    (value : Bool) (error : ParseError) (htokens : tokenize expression = .error error) :
    ¬ HasValue limit defined expression value := by
  rintro ⟨guard, hparse, -⟩
  unfold Guard.parse at hparse
  rw [parse_of_tokenize_eq_error _ _ _ error htokens] at hparse
  cases hparse

/-- Two limits give the same values exactly if the nesting is within both or beyond both. -/
theorem hasValue_congr_iff (limit limit' : Nat) (defined : Text → Bool) (expression : Text) :
    (∀ value, HasValue limit defined expression value ↔ HasValue limit' defined expression value) ↔
      ∀ tokens, tokenize expression = .ok tokens →
        (bracketNesting tokens ≤ limit ↔ bracketNesting tokens ≤ limit') := by
  rcases htokens : tokenize expression with error | tokens
  · have hnone (limit : Nat) (value : Bool) :=
      not_hasValue_of_tokenize limit defined expression value error htokens
    exact ⟨fun _ => nofun, fun _ value => iff_of_false (hnone limit value) (hnone limit' value)⟩
  · rcases exists_phrase_of_tokenize expression tokens htokens with ⟨phrase, rfl⟩
    have hvalue (limit : Nat) (value : Bool) :=
      hasValue_iff_of_tokenize limit defined expression value phrase htokens
    constructor
    · rintro hsame _ ⟨⟩
      have h := hsame (phrase.guard.holds defined)
      rwa [hvalue, hvalue, and_iff_left rfl, and_iff_left rfl] at h
    · intro hnesting value
      rw [hvalue, hvalue, hnesting _ rfl]

/-- Something that shows the value of a guard, and fails where there is no guard. -/
inductive Decides (limit : Nat) (defined : Text → Bool) (expression : Text)
    (shows : Bool → Prop) (fails : Prop) : Prop where
  | accepted (guard : Guard) (hparse : Guard.parse limit expression = .ok guard)
      (hshows : ∀ value, shows value ↔ guard.holds defined = value) (hfails : ¬ fails)
  | refused (error : ParseError) (hparse : Guard.parse limit expression = .error error)
      (hshows : ∀ value, ¬ shows value) (hfails : fails)

section Decides

variable {limit limit' : Nat} {defined : Text → Bool} {expression : Text}
  {shows shows' : Bool → Prop} {fails fails' : Prop}

theorem Decides.shows_iff (h : Decides limit defined expression shows fails) (value : Bool) :
    shows value ↔ HasValue limit defined expression value := by
  cases h with
  | accepted guard hparse hshows _ => simp [HasValue, hparse, hshows]
  | refused error hparse hshows _ => simp [HasValue, hparse, hshows]

theorem Decides.fails_iff (h : Decides limit defined expression shows fails) :
    fails ↔ ∀ value, ¬ HasValue limit defined expression value := by
  cases h with
  | accepted guard hparse _ hfails => simp [HasValue, hparse, hfails]
  | refused error hparse _ hfails => simp [HasValue, hparse, hfails]

/-- Two of them show the same exactly if their limits give the same values. -/
theorem Decides.agree_iff (h : Decides limit defined expression shows fails)
    (h' : Decides limit' defined expression shows' fails') :
    ((∀ value, shows value ↔ shows' value) ∧ (fails ↔ fails')) ↔
      ∀ tokens, tokenize expression = .ok tokens →
        (bracketNesting tokens ≤ limit ↔ bracketNesting tokens ≤ limit') := by
  rw [← hasValue_congr_iff limit limit' defined, h.fails_iff, h'.fails_iff]
  simp only [h.shows_iff, h'.shows_iff]
  constructor
  · exact And.left
  · intro hsame
    refine ⟨hsame, ?_⟩
    simp only [hsame]

end Decides

/-! ### What an `#if` does -/

/-- Three lines that come to an `X` if the guard holds and to nothing if it does not. -/
def sampleText (expression terminator : Text) : Text :=
  ["#if ".toList ++ expression, ['X'], "#endif".toList].flatMap (· ++ terminator)

/-- A chain with one line comes to that line or to nothing. -/
theorem resolveLines_single (defined : Text → Bool) (limit : Nat)
    (opening plain closing : ScannedLine) (guard : Guard)
    (hopening : opening.reading = .ok (.ifLine guard)) (hplain : plain.reading = .ok .source)
    (hclosing : closing.reading = .ok (.endifLine [])) :
    Runs (resolveLines defined limit 0 [opening, plain, closing]) True
      (if guard.holds defined then plain.line.text else []) := by
  -- Whether or not there is a branch to keep, nothing is put out before the copying.
  have hquiet : (chooseBranch defined opening.line guard [plain, closing]).events.flatMap
      Event.output = [] :=
    output_chooseBranch defined opening.line guard [plain, closing]
  have hend : Runs (resolveLines defined limit 0 []) True [] := by
    rw [resolveLines]
    exact ⟨⟨fun _ => trivial, fun _ => rfl⟩, fun _ => rfl⟩
  by_cases hholds : guard.holds defined
  · have hchoice : (chooseBranch defined opening.line guard [plain, closing]).outcome =
        .ok ⟨some ⟨opening.line.stop, closing.line.start, opening.line.number + 1, [plain], false⟩,
          []⟩ := by
      rw [Guard.holds] at hholds
      simp [chooseBranch, hholds, takeBranch, collectBody, hplain, hclosing, Trace.done,
        Trace.after, Trace.bind, Trace.map, Except.map, BranchBody.cons]
    rw [resolveLines_some _ _ _ _ _ guard hopening _ _ hchoice, if_pos hholds,
      if_neg Bool.false_ne_true]
    have hruns := (((hend.after [.copied opening.line.stop plain.line.text]).after
      [.keeping opening.line.stop closing.line.start opening.line.number]).after
      (chooseBranch defined opening.line guard [plain, closing]).events).after opening.notes
    simpa [output_notes, hquiet, Event.output] using hruns
  · have hchoice : (chooseBranch defined opening.line guard [plain, closing]).outcome =
        .ok ⟨none, []⟩ := by
      rw [Guard.holds] at hholds
      simp [chooseBranch, hholds, findBranch, hplain, hclosing, Trace.done]
    rw [resolveLines_none _ _ _ _ _ guard hopening _ hchoice, if_neg hholds]
    have hruns := (hend.after
      (chooseBranch defined opening.line guard [plain, closing]).events).after opening.notes
    rwa [output_notes, hquiet] at hruns

section Sample

variable (settings : Settings) (defined : Text → Bool) (expression terminator : Text)
  (hline : IsOneLine expression) (hmem : terminator ∈ settings.lineEnding.terminators)

include hline hmem

theorem scan_sampleText :
    ∃ start start', scan settings (sampleText expression terminator) =
      [⟨⟨1, 0, "#if ".toList ++ expression, terminator⟩,
          (readGuard settings (' ' :: expression)).map .ifLine⟩,
        ⟨⟨2, start, ['X'], terminator⟩, .ok .source⟩,
        ⟨⟨3, start', "#endif".toList, terminator⟩, .ok (.endifLine [])⟩] := by
  have hif : IsOneLine ("#if ".toList ++ expression) := by
    intro c hc
    rcases List.mem_append.mp hc with hkeyword | hexpression
    · exact (by decide : IsOneLine "#if ".toList) c hkeyword
    · exact hline c hexpression
  have htext : sampleText expression terminator = "#if ".toList ++ expression ++
      (terminator ++ (['X'] ++ (terminator ++ ("#endif".toList ++ (terminator ++ []))))) := by
    show ["#if ".toList ++ expression, ['X'], "#endif".toList].flatMap (· ++ terminator) = _
    simp only [List.flatMap_cons, List.flatMap_nil, List.append_assoc]
  have hendif : LineKind.ofContent settings "#endif".toList = .ok (.endifLine []) := by
    unfold LineKind.ofContent readTrailing
    rcases settings.trailingText with _ | _ <;> rfl
  rw [scan, scanFrom, htext, splitLines_isOneLine_append _ _ _ _ _ _ hif hmem (by simp),
    splitLines_isOneLine_append _ _ _ _ _ _ (by decide) hmem (by simp),
    splitLines_isOneLine_append _ _ _ _ _ _ (by decide) hmem (by simp), splitLines_nil,
    List.map_cons, List.map_cons, List.map_cons, List.map_nil, Line.scan, Line.scan, Line.scan,
    ofContent_if, hendif]
  exact ⟨_, _, rfl⟩

theorem outcome_strip_sampleText :
    (strip settings defined (sampleText expression terminator)).outcome =
      match readGuard settings (' ' :: expression) with
      | .ok guard => .ok (if guard.holds defined then 'X' :: terminator else [])
      | .error fault => .error ⟨1, "#if ".toList ++ expression, fault⟩ := by
  rcases scan_sampleText settings expression terminator hline hmem with ⟨start, start', hscan⟩
  rcases hguard : readGuard settings (' ' :: expression) with fault | guard
  · rw [outcome_strip_eq_map, hscan, hguard, resolveLines]
    rfl
  · rw [hguard] at hscan
    have hruns := resolveLines_single defined settings.nestingLimit
      ⟨⟨1, 0, "#if ".toList ++ expression, terminator⟩, .ok (.ifLine guard)⟩
      ⟨⟨2, start, ['X'], terminator⟩, .ok .source⟩
      ⟨⟨3, start', "#endif".toList, terminator⟩, .ok (.endifLine [])⟩ guard rfl rfl rfl
    have hok := hruns.succeeds_iff.mpr trivial
    refine (outcome_strip _ _ _ _).mpr ?_
    rw [hscan]
    exact ⟨hok, (hruns.output_eq hok).symm⟩

/-- An `#if` is decided within the limit in the settings. -/
theorem decides_sampleText :
    Decides settings.nestingLimit defined expression
      (fun value => (strip settings defined (sampleText expression terminator)).outcome =
        .ok (if value then 'X' :: terminator else []))
      (∃ error,
        (strip settings defined (sampleText expression terminator)).outcome = .error error) := by
  rw [outcome_strip_sampleText settings defined expression terminator hline hmem]
  have hread := readGuard_cons_eq_ok_iff settings ' ' (by decide) expression
  rcases hguard : readGuard settings (' ' :: expression) with fault | guard
  · rcases hparse : Guard.parse settings.nestingLimit expression with error | guard
    · exact .refused error hparse (fun _ => nofun) ⟨_, rfl⟩
    · rw [(hread guard).mpr hparse] at hguard
      cases hguard
  · refine .accepted guard ((hread guard).mp hguard) ?_ nofun
    intro value
    cases value <;> cases hholds : guard.holds defined <;> simp [hholds]

end Sample

/-! ### What an explanation shows -/

/-- How the output of an explanation ends. -/
def Options.valueLine (options : Options) (value : Bool) : Text :=
  if options.json then ("  \"value\": " ++ toString value ++ "\n\x7d\n").toList
  else (toString value ++ "\n").toList

/-- The run succeeds, and the value is the last thing it shows. -/
structure ShowsValue (toolkit : Toolkit) (invocation : Invocation) (options : Options)
    (value : Bool) : Prop where
  exitCode : (toolkit.run invocation).exitCode = 0
  output : options.valueLine value <:+ (toolkit.run invocation).standardOutput

theorem Options.valueLine_inj (options : Options) (value value' : Bool) (text : Text)
    (h : options.valueLine value <:+ text) (h' : options.valueLine value' <:+ text) :
    value = value' := by
  -- One of the two would be the end of the other, and neither is.
  have hends := List.suffix_or_suffix_of_suffix h h'
  clear h h'
  unfold valueLine at hends
  revert hends
  generalize options.json = json
  revert value value' json
  decide

section Explain

variable (toolkit : Toolkit) (invocation : Invocation) (options : Options) (plan : Plan)
  (expression : Text)

/-- An accepted guard is explained in one of three forms, all with the value at the end. -/
theorem explainGuard_of_parse_eq_ok (before : Effects) (guard : Guard)
    (h : Guard.parse defaultNestingLimit expression = .ok guard) :
    ∃ after, (toolkit.explainGuard options plan expression).run before = .ok () after ∧
      options.valueLine (guard.holds plan.defined) <:+ after.standardOutput := by
  unfold Toolkit.explainGuard Options.valueLine
  rw [h]
  dsimp only
  by_cases hjson : options.json
  · rw [if_pos hjson, if_pos hjson]
    refine ⟨_, rfl, List.IsSuffix.trans ?_ (List.suffix_append before.standardOutput _)⟩
    rcases toolkit.report.fieldLine_suffix [("canonical", .text guard.render),
      ("expression", .text expression), ("referenced_symbols", .texts guard.symbols),
      ("symbols", .texts plan.symbols)] "value" (.flag (guard.holds plan.defined)) with
      ⟨start, hreport⟩
    refine ⟨start, ?_⟩
    rw [List.cons_append, List.cons_append, List.cons_append, List.cons_append,
      List.nil_append] at hreport
    rw [← hreport, List.append_assoc]
    congr 1
    cases guard.holds plan.defined <;> decide
  · rw [if_neg hjson, if_neg hjson]
    split
    · exact ⟨_, rfl, List.suffix_append _ _⟩
    · exact ⟨_, rfl, List.suffix_append _ _⟩

variable (hparse : toolkit.parseArguments invocation.arguments = .ok options)
  (hvalid : validateOptions invocation.files options = .ok ())
  (hplan : (toolkit.loadPlan invocation.files options).outcome = .ok plan)
  (hexplain : options.explain? = some expression)

include hparse hvalid hplan hexplain

/-- A guard is explained within the default limit, whatever the settings say. -/
theorem decides_explanation :
    Decides defaultNestingLimit plan.defined expression (ShowsValue toolkit invocation options)
      ((toolkit.run invocation).exitCode = 3) := by
  rcases run_perform_of_explain hvalid hplan hexplain with ⟨log, hperform⟩
  have hrun := run_of_parse_eq_ok hparse
  rcases hguard : Guard.parse defaultNestingLimit expression with error | guard
  · rw [Toolkit.explainGuard, hguard] at hperform
    rw [execute_of_eq_error hperform] at hrun
    have hexit : (toolkit.run invocation).exitCode = 3 := by
      rw [hrun]
      rfl
    refine .refused error hguard (fun value hvalue => ?_) hexit
    have hok := hvalue.exitCode
    rw [hexit] at hok
    cases hok
  · rcases explainGuard_of_parse_eq_ok toolkit options plan expression
      (invocation.start.note log) guard hguard with ⟨after, hexplained, hshown⟩
    rw [hexplained] at hperform
    rw [execute_of_eq_ok hperform] at hrun
    refine .accepted guard hguard (fun value => ⟨?_, ?_⟩) (by rw [hrun]; nofun)
    · intro hvalue
      have houtput := hvalue.output
      rw [hrun] at houtput
      exact options.valueLine_inj _ _ _ hshown houtput
    · rintro rfl
      exact ⟨by rw [hrun], by rw [hrun]; exact hshown⟩

end Explain

/-! ### The two together -/

/-- An explanation of a guard says what an `#if` with that guard does in this run. It shows
    the value that decides the `#if`, and it fails if the `#if` is refused. -/
structure AgreesWithDirective (toolkit : Toolkit) (invocation : Invocation) (options : Options)
    (plan : Plan) (expression terminator : Text) : Prop where
  shows_iff : ∀ value, ShowsValue toolkit invocation options value ↔
    (strip plan.settings plan.defined (sampleText expression terminator)).outcome =
      .ok (if value then 'X' :: terminator else [])
  fails_iff : (toolkit.run invocation).exitCode = 3 ↔
    ∃ error,
      (strip plan.settings plan.defined (sampleText expression terminator)).outcome = .error error

/-- An explanation agrees with an `#if` exactly if the expression is malformed, or nests
    within the default limit and the limit in the settings, or beyond both. -/
theorem agreesWithDirective_iff (toolkit : Toolkit) (invocation : Invocation) (options : Options)
    (plan : Plan) (expression terminator : Text)
    (hparse : toolkit.parseArguments invocation.arguments = .ok options)
    (hvalid : validateOptions invocation.files options = .ok ())
    (hplan : (toolkit.loadPlan invocation.files options).outcome = .ok plan)
    (hexplain : options.explain? = some expression) (hline : IsOneLine expression)
    (hmem : terminator ∈ plan.settings.lineEnding.terminators) :
    AgreesWithDirective toolkit invocation options plan expression terminator ↔
      ∀ tokens, tokenize expression = .ok tokens →
        (bracketNesting tokens ≤ defaultNestingLimit ↔
          bracketNesting tokens ≤ plan.settings.nestingLimit) := by
  have hexplains := decides_explanation toolkit invocation options plan expression hparse hvalid
    hplan hexplain
  have hstrips := decides_sampleText plan.settings plan.defined expression terminator hline hmem
  rw [← hexplains.agree_iff hstrips]
  exact ⟨fun h => ⟨h.shows_iff, h.fails_iff⟩, fun h => ⟨h.1, h.2⟩⟩

/-- A guard that nests as deep as a lower limit in the settings allows. -/
theorem agreesWithDirective_at_nesting_limit :
    ∃ invocation options plan,
      invocation.arguments = ["--explain", "(A || B) && C", "-D", "A,C", "--nesting-limit", "1"].map
          String.toList ∧
        Options.parse invocation.arguments = .ok options ∧
        validateOptions invocation.files options = .ok () ∧
        (Toolkit.standard.loadPlan invocation.files options).outcome = .ok plan ∧
        options.explain? = some "(A || B) && C".toList ∧ IsOneLine "(A || B) && C".toList ∧
        ['\r', '\n'] ∈ plan.settings.lineEnding.terminators ∧
        AgreesWithDirective .standard invocation options plan "(A || B) && C".toList
          ['\r', '\n'] := by
  have htokens : tokenize "(A || B) && C".toList = .ok [.openBracket, .symbol ['A'], .or,
      .symbol ['B'], .closeBracket, .and, .symbol ['C']] := by
    decide +kernel
  have hparse : Options.parse (["--explain", "(A || B) && C", "-D", "A,C", "--nesting-limit",
      "1"].map String.toList) = .ok { symbols := [['A'], ['C']], nestingLimit? := some 1
                                      explain? := some "(A || B) && C".toList } := by
    decide +kernel
  have hplan : (Toolkit.standard.loadPlan ⟨[], []⟩
      { symbols := [['A'], ['C']], nestingLimit? := some 1
        explain? := some "(A || B) && C".toList }).outcome =
      .ok ⟨{ nestingLimit := 1 }, [['A'], ['C']]⟩ := by
    decide +kernel
  refine ⟨{ arguments := _, files := ⟨[], []⟩ }, _, _, rfl, hparse, by decide +kernel, hplan, rfl,
    by decide, by decide, ?_⟩
  refine Iff.mpr (agreesWithDirective_iff .standard _ _ _ _ _ hparse (by decide +kernel) hplan rfl
    (by decide) (by decide)) ?_
  intro tokens h
  rw [htokens] at h
  cases h
  decide

/-- A guard that nests within the default limit and beyond the one in the settings. -/
theorem explanation_past_nesting_limit :
    ∃ invocation options plan,
      invocation.arguments = ["--explain", "((A || B) && C) || D", "-D", "A,C", "--nesting-limit",
          "1"].map String.toList ∧
        Options.parse invocation.arguments = .ok options ∧
        validateOptions invocation.files options = .ok () ∧
        (Toolkit.standard.loadPlan invocation.files options).outcome = .ok plan ∧
        options.explain? = some "((A || B) && C) || D".toList ∧
        ['\n'] ∈ plan.settings.lineEnding.terminators ∧
        ShowsValue .standard invocation options true ∧
        (strip plan.settings plan.defined (sampleText "((A || B) && C) || D".toList
          ['\n'])).outcome =
            .error ⟨1, "#if ((A || B) && C) || D".toList, .invalidExpression
              ⟨" ((A || B) && C) || D".toList, .nestingTooDeep 1⟩⟩ ∧
        ¬ AgreesWithDirective .standard invocation options plan "((A || B) && C) || D".toList
          ['\n'] := by
  have hstrip : (strip { nestingLimit := 1 } (Plan.defined ⟨{ nestingLimit := 1 }, [['A'], ['C']]⟩)
      (sampleText "((A || B) && C) || D".toList ['\n'])).outcome =
        .error ⟨1, "#if ((A || B) && C) || D".toList, .invalidExpression
          ⟨" ((A || B) && C) || D".toList, .nestingTooDeep 1⟩⟩ := by
    decide +kernel
  refine ⟨{ arguments := _, files := ⟨[], []⟩ },
    { symbols := [['A'], ['C']], nestingLimit? := some 1
      explain? := some "((A || B) && C) || D".toList },
    ⟨{ nestingLimit := 1 }, [['A'], ['C']]⟩, rfl, by decide +kernel, by decide +kernel,
    by decide +kernel, rfl, by decide, ⟨by decide +kernel, by decide +kernel⟩, hstrip, ?_⟩
  intro hagrees
  have hexit := hagrees.fails_iff.mpr ⟨_, hstrip⟩
  revert hexit
  decide +kernel

end DirectiveStrip
