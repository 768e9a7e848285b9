import DirectiveStrip.Proofs.Line.Span
import DirectiveStrip.Proofs.Resolve.Live
import DirectiveStrip.Proofs.Resolve.Outline

/-!
# What an Error Says of Its Line

An error names a line by its number in the whole source and quotes it. Both are right
wherever the error arises, also inside a branch that is resolved in its turn, and what
the error says is true of that line in the list of all lines.

Most errors are faults of the line alone. Two are about its place among the others. A
chain that is nested too deep is a live one, and a missing `#endif` is missed by an
`#if` that was opened outside of every chain and is open to the end. The second is so
because a branch is only entered when its chain has ended. Its lines are balanced, so
nothing can be left open in it.

An error is followed outward by the lines around the part in which it arose. In front
of the part are balanced lines, so the counts and the liveness of its own positions
stay what they are.

## Main definitions

* `DirectiveFault.isOfLine`: A fault that a line has by itself.
* `Causes`: What makes a line the one that an error names.
* `BreaksOff`: What keeps a chain from being read through.
* `IsCaused`: An error names one of some lines and quotes it, and rightly so.

## Theorems

* `error_of_skipChain`: Why a chain cannot be read through.
* `isCaused_of_chosen`: An error in a kept branch, seen from outside.
* `isCaused_of_resolveLines`: The errors of resolving.
* `strip_error_is_caused`: The errors of stripping.
-/

namespace DirectiveStrip

/-- A fault that a line has by itself, whatever is around it. -/
def DirectiveFault.isOfLine : DirectiveFault → Bool
  | unknownDirective | missingExpression | invalidExpression _ | trailingText => true
  | unexpectedDirective | missingEndIf | nestingTooDeep _ => false

/-- What makes the line at a position the one that an error names. -/
inductive Causes (defined : Text → Bool) (limit : Nat) (lines : List ScannedLine) (i : Nat)
    (scanned : ScannedLine) : DirectiveFault → Prop where
  /-- The line cannot be read, and this is why. -/
  | unread (fault : DirectiveFault) (isOfLine : fault.isOfLine)
      (reading : scanned.reading = .error fault) : Causes defined limit lines i scanned fault
  /-- A directive that only makes sense inside a chain, or inside another. -/
  | misplaced (kind : scanned.separates ∨ scanned.closes) :
      Causes defined limit lines i scanned .unexpectedDirective
  /-- A live `#if`. -/
  | tooDeep (opens : scanned.opens) (live : IsLive defined lines i) :
      Causes defined limit lines i scanned (.nestingTooDeep limit)
  /-- An `#if` outside of every chain that is open from there to the end. -/
  | unclosed (opens : scanned.opens) (outside : openCount lines i = 0)
      (stays : ∀ j ≤ lines.length, i < j → 1 ≤ openCount lines j) :
      Causes defined limit lines i scanned .missingEndIf

/-- An error names one of the lines and quotes it, and that line is its cause. -/
def IsCaused (defined : Text → Bool) (limit : Nat) (lines : List ScannedLine)
    (error : DirectiveError) : Prop :=
  ∃ i scanned fault, lines[i]? = some scanned ∧ error = scanned.line.error fault ∧
    Causes defined limit lines i scanned fault

/-- The faults that reading has found are faults of a line. -/
def ReadFaults (lines : List ScannedLine) : Prop :=
  ∀ scanned ∈ lines, ∀ fault, scanned.reading = .error fault → fault.isOfLine

theorem ReadFaults.of_subset {lines part : List ScannedLine} (h : ReadFaults lines)
    (hpart : part ⊆ lines) : ReadFaults part :=
  fun scanned hmem => h scanned (hpart hmem)

/-! ### Chains that cannot be read through -/

/-- What keeps a chain from being read through, inside `nested` inner chains of it: a line
    that is refused, or that it is open to the end. -/
def BreaksOff (opening : Line) (nested : Nat) (lines : List ScannedLine)
    (error : DirectiveError) : Prop :=
  (∃ (i : Nat) (scanned : ScannedLine), lines[i]? = some scanned ∧ scanned.next 0 = none ∧
      error = scanned.line.error scanned.refusal) ∨
    (error = opening.error .missingEndIf ∧
      ∀ i ≤ lines.length, 0 ≤ (nested : Int) + openCount lines i)

/-- What is found behind a line is one position further on, under the count behind it. -/
theorem BreaksOff.cons {opening : Line} {nested' : Nat} {lines : List ScannedLine}
    {error : DirectiveError} (h : BreaksOff opening nested' lines error) (nested : Nat)
    (scanned : ScannedLine) (hweight : (nested' : Int) = nested + scanned.weight) :
    BreaksOff opening nested (scanned :: lines) error := by
  rcases h with ⟨i, line, hget, hfound⟩ | ⟨hmissing, hstays⟩
  · exact .inl ⟨i + 1, line, hget, hfound⟩
  · refine .inr ⟨hmissing, ?_⟩
    intro i hi
    rcases i with _ | i
    · rw [openCount_zero]
      omega
    · have := hstays i (by simpa using hi)
      rw [openCount_cons]
      omega

theorem error_of_skipChain (opening : Line) (afterElse : Bool) (nested : Nat)
    (lines : List ScannedLine) (error : DirectiveError)
    (h : (skipChain opening afterElse nested lines).outcome = .error error) :
    BreaksOff opening nested lines error := by
  induction lines generalizing afterElse nested with
  | nil =>
      cases h
      refine .inr ⟨rfl, ?_⟩
      intro i hi
      rw [Nat.le_zero.mp hi, openCount_zero]
      omega
  | cons scanned rest ih =>
      rcases hnext : scanned.next nested with _ | nested'
      · rcases scanned.refused_cases nested hnext with ⟨fault, hreading⟩ | ⟨rfl, hsep | hclose⟩
        · -- A line in error is refused under any count.
          rw [skipChain, Trace.outcome_after, hreading] at h
          cases h
          refine .inl ⟨0, scanned, rfl, ?_, ?_⟩
          · rw [ScannedLine.next, hreading]
          · rw [ScannedLine.refusal, hreading]
        · rw [skipChain_separator _ _ _ _ hsep] at h
          split at h
          · cases h
            refine .inl ⟨0, scanned, rfl, hnext, ?_⟩
            rcases scanned.separates_cases hsep with ⟨guard, hreading⟩ | ⟨ignored, hreading⟩ <;>
              rw [ScannedLine.refusal, hreading]
          · refine (ih _ 0 h).cons 0 scanned ?_
            rw [scanned.weight_of_separates hsep]
            rfl
        · rw [skipChain_closing _ _ _ _ hclose] at h
          cases h
      · rw [skipChain_cons _ _ _ _ _ _ hnext] at h
        exact (ih _ nested' h).cons nested scanned
          ((scanned.next_eq_some_iff nested nested').mp hnext).2.2

/-! ### Causes -/

section Causes

variable (defined : Text → Bool) (limit : Nat)

/-- A line that is refused outside of every chain causes the error of its refusal. -/
theorem causes_refusal (lines : List ScannedLine) (i : Nat) (scanned : ScannedLine)
    (hfaults : ∀ fault, scanned.reading = .error fault → fault.isOfLine)
    (h : scanned.next 0 = none) :
    Causes defined limit lines i scanned scanned.refusal := by
  unfold ScannedLine.refusal
  rcases scanned.refused_cases 0 h with ⟨fault, hreading⟩ | ⟨-, hkind⟩
  · rw [hreading]
    exact .unread fault (hfaults fault hreading) hreading
  · have hmisplaced : Causes defined limit lines i scanned .unexpectedDirective :=
      .misplaced hkind
    rcases hkind with hsep | hclose
    · rcases scanned.separates_cases hsep with ⟨guard, hreading⟩ | ⟨ignored, hreading⟩ <;>
        · rw [hreading]
          exact hmisplaced
    · rcases scanned.closes_cases hclose with ⟨ignored, hreading⟩
      rw [hreading]
      exact hmisplaced

/-- An error in a kept branch has the same cause among all lines. -/
theorem isCaused_of_chosen {chain : Chain} (before rest : List ScannedLine)
    (hbefore : Balanced before) (horder : chain.InOrder) (place : chain.Place)
    (hchosen : place.Chosen defined) (error : DirectiveError)
    (h : IsCaused defined limit place.clause.body error) :
    IsCaused defined limit (before ++ (chain.lines ++ rest)) error := by
  rcases h with ⟨i, scanned, fault, hget, herror, hcauses⟩
  have hi : i < place.clause.body.length := (List.getElem?_eq_some_iff.mp hget).1
  have hstop := place.stop_lt_length
  refine ⟨before.length + (place.start + 1 + i), scanned, fault, ?_, herror, ?_⟩
  · rw [getElem?_context before chain.lines rest _ (by omega), place.getElem?_body i hi]
    exact hget
  · cases hcauses with
    | unread _ hfault hreading => exact .unread _ hfault hreading
    | misplaced hkind => exact .misplaced hkind
    | tooDeep hopens hlive =>
        refine .tooDeep hopens ?_
        -- In front of the chain nothing is open, and the chain keeps the branch.
        rw [isLive_between defined before rest hbefore chain.balanced_lines _ (by omega)]
        exact (place.isLive_body_iff defined horder i hi).mpr ⟨hchosen, hlive⟩
    | unclosed hopens houtside hstays =>
        -- A branch is balanced, so no chain in it is open to its end.
        have hend := hstays place.clause.body.length (Nat.le_refl _) hi
        rw [place.balanced_body.closed] at hend
        omega

/-- An error of resolving lines behind balanced ones is caused by one of all the lines. -/
theorem isCaused_of_resolveLines (lines : List ScannedLine) :
    ∀ (depth : Nat) (before : List ScannedLine) (error : DirectiveError), Balanced before →
      ReadFaults lines → (resolveLines defined limit depth lines).outcome = .error error →
      IsCaused defined limit (before ++ lines) error := by
  induction lines using resolving_induction defined with
  | nil =>
      intro depth before error _ _ h
      rw [resolveLines] at h
      cases h
  | source scanned rest hreading ih =>
      intro depth before error hbefore hfaults h
      rw [resolveLines_source _ _ _ _ _ hreading] at h
      rw [List.append_cons]
      exact ih depth (before ++ [scanned]) error
        (hbefore.append.mpr (balanced_singleton scanned hreading))
        (hfaults.of_subset (List.subset_cons_self _ _)) h
  | refused scanned rest hnext =>
      intro depth before error _ hfaults h
      rw [resolveLines_refused _ _ _ _ _ hnext] at h
      cases h
      refine ⟨before.length, scanned, _, by simp, rfl, ?_⟩
      exact causes_refusal defined limit _ _ scanned (hfaults scanned List.mem_cons_self) hnext
  | broken scanned guard rest error' hreading hskip =>
      intro depth before error hbefore hfaults h
      rw [resolveLines_broken defined limit depth scanned guard rest error' hreading hskip] at h
      cases h
      rcases error_of_skipChain scanned.line false 0 rest _ hskip with
        ⟨i, line, hget, hrefused, herror⟩ | ⟨herror, hstays⟩
      · refine ⟨before.length + (i + 1), line, _, ?_, herror, ?_⟩
        · rw [List.getElem?_append_right (by omega), Nat.add_sub_cancel_left]
          exact hget
        · refine causes_refusal defined limit _ _ line ?_ hrefused
          exact hfaults line (List.mem_cons_of_mem _ (List.mem_of_getElem? hget))
      · have hopens : scanned.opens := by
          rw [ScannedLine.opens, hreading]
        refine ⟨before.length, scanned, _, by simp, herror, ?_⟩
        refine .unclosed hopens ?_ ?_
        · rw [openCount_append_of_le before _ _ (Nat.le_refl _)]
          exact hbefore.closed
        · -- Behind the `#if` the count is one more than that of the rest, which is never negative.
          intro j hj hlt
          have hstay := hstays (j - before.length - 1) (by simp at hj; omega)
          rw [show j = before.length + (j - before.length - 1 + 1) by omega, openCount_append,
            hbefore.closed, openCount_cons, scanned.weight_of_opens hopens]
          omega
  | dropped chain rest horder hnone ih =>
      intro depth before error hbefore hfaults h
      rw [chain.outcome_of_not_chosen defined limit depth horder rest hnone] at h
      rw [← List.append_assoc]
      exact ih depth (before ++ chain.lines) error (hbefore.append.mpr chain.balanced_lines)
        (hfaults.of_subset (List.subset_append_right _ _)) h
  | kept chain rest place horder hchosen ihBody ihRest =>
      intro depth before error hbefore hfaults h
      -- What follows the chain is behind balanced lines again.
      have hrest (h : (resolveLines defined limit depth rest).outcome = .error error) :
          IsCaused defined limit (before ++ (chain.lines ++ rest)) error := by
        rw [← List.append_assoc]
        exact ihRest depth (before ++ chain.lines) error (hbefore.append.mpr chain.balanced_lines)
          (hfaults.of_subset (List.subset_append_right _ _)) h
      rw [chain.outcome_of_chosen defined limit depth horder rest place hchosen] at h
      split at h
      · split at h
        · cases h
          refine ⟨before.length, chain.first.head, _, ?_, rfl, .tooDeep chain.opens ?_⟩
          · simp [chain.lines_eq_cons]
          · have hpos : 0 < chain.lines.length := by simp [chain.lines_eq_cons]
            have hlive := isLive_between defined before rest hbefore chain.balanced_lines 0 hpos
            rw [Nat.add_zero] at hlive
            refine hlive.mpr ?_
            exact fun first hfirst => absurd hfirst (Nat.not_lt_zero first)
        · rcases hbody :
            (resolveLines defined limit (depth + 1) place.clause.body).outcome with error' | _
          · rw [hbody] at h
            cases h
            refine isCaused_of_chosen defined limit before rest hbefore horder place hchosen
              error ?_
            refine ihBody (depth + 1) [] error balanced_nil ?_ hbody
            refine hfaults.of_subset ?_
            rw [place.lines_eq]
            intro line hline
            simp [hline]
          · rw [hbody] at h
            exact hrest h
      · exact hrest h

end Causes

/-! ### Errors of a source -/

/-- Reading a line finds only faults of the line. -/
theorem isOfLine_of_ofContent (settings : Settings) (content : Text) (fault : DirectiveFault)
    (h : LineKind.ofContent settings content = .error fault) : fault.isOfLine := by
  have hguard (text : Text) (kind : Guard → LineKind)
      (hread : (readGuard settings text).map kind = .error fault) : fault.isOfLine := by
    unfold readGuard at hread
    split at hread
    · cases hread
      rfl
    · split at hread
      · cases hread
      · cases hread
        rfl
  have htrailing (text : Text) (kind : Text → LineKind)
      (hread : (readTrailing settings text).map kind = .error fault) : fault.isOfLine := by
    unfold readTrailing at hread
    split at hread
    · cases hread
    · split at hread
      · cases hread
      · cases hread
        rfl
  unfold LineKind.ofContent at h
  split at h
  · cases h
  · split at h
    · exact hguard _ _ h
    · split at h
      · exact hguard _ _ h
      · split at h
        · exact htrailing _ _ h
        · split at h
          · exact htrailing _ _ h
          · split at h
            · cases h
              rfl
            · cases h

theorem readFaults_scan (settings : Settings) (source : Text) :
    ReadFaults (scan settings source) := by
  intro scanned hmem fault hreading
  rw [scan, scanFrom, List.mem_map] at hmem
  rcases hmem with ⟨line, -, rfl⟩
  exact isOfLine_of_ofContent settings line.content fault hreading

/-- An error of stripping names a line of the source by its number and quotes its content,
    and what the error says holds of that line among all lines of the source. -/
theorem strip_error_is_caused (settings : Settings) (defined : Text → Bool) (source : Text)
    (error : DirectiveError) (h : (strip settings defined source).outcome = .error error) :
    ∃ i scanned, (scan settings source)[i]? = some scanned ∧ scanned.line.number = i + 1 ∧
      error.line = i + 1 ∧ error.text = scanned.line.content ∧
      Causes defined settings.nestingLimit (scan settings source) i scanned error.fault := by
  have hrun : (resolveLines defined settings.nestingLimit 0 (scan settings source)).outcome =
      .error error := by
    rw [outcome_strip_eq_map] at h
    rcases hout :
      (resolveLines defined settings.nestingLimit 0 (scan settings source)).outcome with error' | _
    · rw [hout] at h
      cases h
      rfl
    · rw [hout] at h
      cases h
  rcases isCaused_of_resolveLines defined settings.nestingLimit (scan settings source) 0 [] error
    balanced_nil (readFaults_scan settings source) hrun with
    ⟨i, scanned, fault, hget, rfl, hcauses⟩
  rw [List.nil_append] at hget hcauses
  have hnumber := number_of_scan settings source i scanned hget
  exact ⟨i, scanned, hget, hnumber, hnumber, rfl, hcauses⟩

/-- A second `#else` in a chain that is only read as part of a kept branch. It is on the
    sixth line of the source, and on the fourth of the branch. -/
theorem strip_error_is_caused_of_inner_else :
    (strip {} (· == ['A'])
        "x\n#if A\ny\n#if B\n#else\n#else\n#endif\n#endif\n".toList).outcome =
      .error ⟨6, "#else".toList, .unexpectedDirective⟩ ∧
    ∃ i scanned,
      (scan {} "x\n#if A\ny\n#if B\n#else\n#else\n#endif\n#endif\n".toList)[i]? = some scanned ∧
        scanned.line.number = i + 1 ∧ 6 = i + 1 ∧ "#else".toList = scanned.line.content ∧
        Causes (· == ['A']) defaultNestingLimit
          (scan {} "x\n#if A\ny\n#if B\n#else\n#else\n#endif\n#endif\n".toList) i scanned
          .unexpectedDirective :=
  ⟨by decide +kernel,
    strip_error_is_caused {} (· == ['A']) _ ⟨6, "#else".toList, .unexpectedDirective⟩
      (by decide +kernel)⟩

end DirectiveStrip
