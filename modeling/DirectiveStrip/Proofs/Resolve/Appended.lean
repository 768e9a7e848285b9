import DirectiveStrip.Proofs.Line.Appended
import DirectiveStrip.Proofs.Resolve.Comparison
import DirectiveStrip.Proofs.Resolve.Outline

/-!
# One Source Behind Another

Sources can be stripped one by one and the outputs put together, if each ends where a line
ends. A source that is stripped leaves no chain open, so whatever comes behind it is
resolved as if it stood alone. Its lines are further down, which is to be seen in the
line number of an error and nowhere else.

A source that fails makes everything behind it fail, and with the same error. The only
exception is an `#if` without `#endif`, since the `#endif` may still come.

## Main definitions

* `Resolution.result`: The output of a part of stripping, or its error.
* `DirectiveError.shift`: An error further down.
* `furtherDown`: Runs on the same lines further down.

## Theorems

* `skipChain_append_of_error`: A chain that cannot be read through, with more behind it.
* `result_of_chosen`, `result_of_not_chosen`: The step over a chain.
* `result_append`: Resolving lines with more lines behind them.
* `result_shift`: Resolving lines further down.
* `strip_append`: Stripping a source with another behind it.
-/

namespace DirectiveStrip

open Resolution

/-! ### Results -/

/-- The output of a part of stripping, or its error. -/
def Resolution.result (resolution : Resolution Unit) : Except DirectiveError Text :=
  resolution.outcome.map fun () => output resolution

section Result

variable {resolution : Resolution Unit}

theorem result_of_error (error : DirectiveError) (h : resolution.outcome = .error error) :
    result resolution = .error error := by
  rw [result, h]
  rfl

theorem result_of_ok (text : Text) (h : resolution.outcome = .ok ())
    (houtput : output resolution = text) : result resolution = .ok text := by
  rw [result, h, houtput]
  rfl

/-- A part with some output in front comes out as it would without. -/
theorem result_of_output {other : Resolution Unit} (text : Text)
    (houtcome : resolution.outcome = other.outcome)
    (houtput : output resolution = text ++ output other) :
    result resolution = (result other).map (text ++ ·) := by
  rw [result, result, houtcome, houtput]
  rcases other.outcome with error | _ <;> rfl

/-- One part and, unless it fails, another. -/
theorem result_of_bind {first second : Resolution Unit}
    (houtcome : resolution.outcome = first.outcome.bind fun () => second.outcome)
    (houtput : output resolution = output (first.bind fun () => second)) :
    result resolution = (result first).bind fun text => (result second).map (text ++ ·) := by
  rcases hfirst : first.outcome with error | _
  · rw [result_of_error error hfirst]
    exact result_of_error error (by rw [houtcome, hfirst]; rfl)
  · rw [result_of_ok _ hfirst rfl]
    refine result_of_output _ ?_ ?_
    · rw [houtcome, hfirst]
      rfl
    · rw [houtput, output_bind_of_eq_ok _ hfirst]

end Result

section Steps

variable (defined : Text → Bool) (limit depth : Nat)

theorem result_source (scanned : ScannedLine) (rest : List ScannedLine)
    (h : scanned.reading = .ok .source) :
    result (resolveLines defined limit depth (scanned :: rest)) =
      (result (resolveLines defined limit depth rest)).map (scanned.line.text ++ ·) := by
  refine result_of_output _ ?_ ?_
  · rw [resolveLines_source _ _ _ _ _ h]
    rfl
  · exact view_source _ Event.output_of_isChoosing _ _ _ _ _ h

variable {chain : Chain} (horder : chain.InOrder) (rest : List ScannedLine)

include horder

theorem result_of_not_chosen (hnone : ∀ place : chain.Place, ¬ place.Chosen defined) :
    result (resolveLines defined limit depth (chain.lines ++ rest)) =
      result (resolveLines defined limit depth rest) := by
  rw [result, result, chain.outcome_of_not_chosen defined limit depth horder rest hnone]
  have houtput := view_of_not_chosen _ Event.output_of_isChoosing defined limit depth horder rest
    hnone
  exact congrArg (fun text => Except.map (fun _ => text) _) houtput

theorem result_of_chosen (place : chain.Place) (hchosen : place.Chosen defined) :
    result (resolveLines defined limit depth (chain.lines ++ rest)) =
      if place.clause.body.any ScannedLine.opens then
        if limit ≤ depth then .error (chain.first.head.line.error (.nestingTooDeep limit))
        else
          (result (resolveLines defined limit (depth + 1) place.clause.body)).bind fun text =>
            (result (resolveLines defined limit depth rest)).map (text ++ ·)
      else
        (result (resolveLines defined limit depth rest)).map
          (scannedText place.clause.body ++ ·) := by
  have houtcome := chain.outcome_of_chosen defined limit depth horder rest place hchosen
  rcases chain.first.head.opens_cases chain.opens with ⟨guard, hguard⟩
  rcases view_of_chosen _ Event.output_of_isChoosing defined limit depth horder rest guard hguard
    place hchosen with ⟨branch, -, -, houtput⟩
  -- Of what happens around the branch nothing is put out.
  simp only [Event.output, List.nil_append] at houtput
  split
  · next hopens =>
    rw [if_pos hopens] at houtcome houtput
    split
    · next hdeep =>
      rw [if_pos hdeep] at houtcome
      exact result_of_error _ houtcome
    · next hdeep =>
      rw [if_neg hdeep] at houtcome houtput
      exact result_of_bind houtcome houtput
  · next hopens =>
    rw [if_neg hopens] at houtcome houtput
    refine result_of_output _ houtcome ?_
    rw [scannedText_eq_flatMap]
    exact houtput

end Steps

/-! ### More lines behind -/

/-- What keeps a chain from being read through still does so with more lines behind,
    unless it is that they have come to their end. -/
theorem skipChain_append_of_error (opening : Line) (afterElse : Bool) (nested : Nat)
    (lines more : List ScannedLine) (error : DirectiveError)
    (h : (skipChain opening afterElse nested lines).outcome = .error error)
    (hfault : error.fault ≠ .missingEndIf) :
    (skipChain opening afterElse nested (lines ++ more)).outcome = .error error := by
  induction lines generalizing afterElse nested with
  | nil =>
      cases h
      exact absurd rfl hfault
  | cons scanned rest ih =>
      rw [List.cons_append]
      rcases hnext : scanned.next nested with _ | nested'
      · rcases scanned.refused_cases nested hnext with ⟨fault, hreading⟩ | ⟨rfl, hsep | hclose⟩
        · rw [skipChain, Trace.outcome_after, hreading] at h ⊢
          exact h
        · rw [skipChain_separator _ _ _ _ hsep] at h ⊢
          by_cases hflag : afterElse
          · rw [if_pos hflag] at h ⊢
            exact h
          · rw [if_neg hflag] at h ⊢
            exact ih _ 0 h
        · rw [skipChain_closing _ _ _ _ hclose] at h
          cases h
      · rw [skipChain_cons _ _ _ _ _ _ hnext] at h ⊢
        exact ih _ nested' h

/-- Output in front of two parts is output in front of the first. -/
theorem map_append_bind (text : Text) (first second : Except DirectiveError Text) :
    (first.bind fun text' => second.map (text' ++ ·)).map (text ++ ·) =
      (first.map (text ++ ·)).bind fun text' => second.map (text' ++ ·) := by
  rcases first with error | text'
  · rfl
  · rcases second with error | text''
    · rfl
    · exact congrArg Except.ok (List.append_assoc text text' text'').symm

/-- More lines behind lines are resolved for themselves, if the lines are resolved, and do
    not matter if they are not. Only for a missing `#endif` they do. -/
theorem result_append (defined : Text → Bool) (limit depth : Nat) (lines more : List ScannedLine)
    (h : ∀ error, result (resolveLines defined limit depth lines) = .error error →
      error.fault ≠ .missingEndIf) :
    result (resolveLines defined limit depth (lines ++ more)) =
      (result (resolveLines defined limit depth lines)).bind fun text =>
        (result (resolveLines defined limit depth more)).map (text ++ ·) := by
  -- Everything is a matter of what is in front, so both sides make the same step.
  induction lines using resolving_induction defined with
  | nil =>
      have hdone : result (resolveLines defined limit depth []) = .ok [] := by
        rw [resolveLines]
        rfl
      rw [hdone, List.nil_append]
      rcases result (resolveLines defined limit depth more) with error | text <;> rfl
  | source scanned rest hreading ih =>
      rw [result_source _ _ _ _ _ hreading] at h
      rw [List.cons_append, result_source _ _ _ _ _ hreading, result_source _ _ _ _ _ hreading,
        ih fun error herror => h error (by rw [herror]; rfl), map_append_bind]
  | refused scanned rest hnext =>
      rw [List.cons_append, resolveLines_refused _ _ _ _ _ hnext,
        resolveLines_refused _ _ _ _ _ hnext]
      rfl
  | broken scanned guard rest error hreading hskip =>
      rw [resolveLines_broken defined limit depth _ guard rest error hreading hskip] at h ⊢
      have hmore := skipChain_append_of_error _ _ _ rest more error hskip (h error rfl)
      rw [List.cons_append,
        resolveLines_broken defined limit depth _ guard (rest ++ more) error hreading hmore]
      rfl
  | dropped chain rest horder hnone ih =>
      rw [result_of_not_chosen defined limit depth horder _ hnone] at h
      rw [List.append_assoc, result_of_not_chosen defined limit depth horder _ hnone,
        result_of_not_chosen defined limit depth horder _ hnone, ih h]
  | kept chain rest place horder hchosen ihBody ihRest =>
      rw [result_of_chosen defined limit depth horder _ place hchosen] at h
      rw [List.append_assoc, result_of_chosen defined limit depth horder _ place hchosen,
        result_of_chosen defined limit depth horder _ place hchosen]
      by_cases hopens : place.clause.body.any ScannedLine.opens
      · rw [if_pos hopens] at h
        rw [if_pos hopens, if_pos hopens]
        by_cases hdeep : limit ≤ depth
        · rw [if_pos hdeep, if_pos hdeep]
          rfl
        · rw [if_neg hdeep] at h
          rw [if_neg hdeep, if_neg hdeep]
          -- The branch is the same, and if it fails nothing behind it matters.
          rcases hbody :
            result (resolveLines defined limit (depth + 1) place.clause.body) with error | text
          · rfl
          · rw [hbody] at h
            rw [ihRest fun error herror => h error (by rw [herror]; rfl)]
            exact map_append_bind text _ _
      · rw [if_neg hopens] at h
        rw [if_neg hopens, if_neg hopens, ihRest fun error herror => h error (by rw [herror]; rfl),
          map_append_bind]

/-! ### Lines further down -/

/-- The same error of a line further down. -/
def DirectiveError.shift (lines : Nat) (error : DirectiveError) : DirectiveError :=
  { error with line := error.line + lines }

/-- Errors name lines so many further down, and nothing else differs. -/
def furtherDown (lines : Nat) : Comparison :=
  .ofErrors (fun error error' => error' = error.shift lines) fun _ => False

theorem alike_shift (lines bytes : Nat) (scanned : ScannedLine) :
    (furtherDown lines).Alike scanned (scanned.shift lines bytes) :=
  ⟨rfl, fun _ => rfl, .refl (fun _ => rfl) scanned.reading⟩

/-- Lines further down give the same output, or an error further down. -/
theorem result_shift (defined : Text → Bool) (limit depth lines bytes : Nat)
    (part : List ScannedLine) :
    result (resolveLines defined limit depth (part.map (ScannedLine.shift lines bytes))) =
      (result (resolveLines defined limit depth part)).mapError (DirectiveError.shift lines) := by
  have halike : List.Forall₂ (furtherDown lines).Alike part
      (part.map (ScannedLine.shift lines bytes)) := by
    rw [List.forall₂_map_right_iff, List.forall₂_same]
    intro scanned _
    exact alike_shift lines bytes scanned
  cases (furtherDown lines).follows_resolveLines defined limit limit (Nat.le_refl _) (.inl rfl)
    depth _ _ halike with
  | excused error houtcome hexcused => exact absurd hexcused id
  | fails error error' houtcome houtcome' herror hsees =>
      rw [result_of_error error houtcome, result_of_error error' houtcome', herror]
      rfl
  | succeeds _ _ houtcome houtcome' _ hsees =>
      rw [result_of_ok _ houtcome rfl, result_of_ok _ houtcome' hsees.output.symm]
      rfl

/-! ### Stripping -/

/-- A source that is stripped leaves the one behind it to be stripped as if alone. The
    outputs are put together, and an error is further down by the lines in front. A source
    that is refused makes the whole be refused for the same error, unless that is an `#if`
    without `#endif`. -/
theorem strip_append (settings : Settings) (defined : Text → Bool) (first second : Text)
    (h : settings.lineEnding.KeepsApart first second) :
    (∀ output, (strip settings defined first).outcome = .ok output →
      (strip settings defined (first ++ second)).outcome =
        match (strip settings defined second).outcome with
        | .ok output' => .ok (output ++ output')
        | .error error => .error { error with line := error.line + (scan settings first).length }) ∧
      ∀ error, (strip settings defined first).outcome = .error error →
        error.fault ≠ .missingEndIf →
          (strip settings defined (first ++ second)).outcome = .error error := by
  have hresult (source : Text) : (strip settings defined source).outcome =
      result (resolveLines defined settings.nestingLimit 0 (scan settings source)) :=
    outcome_strip_eq_map settings defined source
  have happend := result_append defined settings.nestingLimit 0 (scan settings first)
    ((scan settings second).map (ScannedLine.shift (scan settings first).length (byteSize first)))
  rw [result_shift, ← scan_of_keepsApart settings first second h, ← hresult, ← hresult, ← hresult]
    at happend
  refine ⟨?_, ?_⟩
  · intro output hfirst
    rw [happend (by rw [hfirst]; simp), hfirst]
    rcases (strip settings defined second).outcome with error | output' <;> rfl
  · intro error hfirst hfault
    rw [happend (by rw [hfirst]; simpa using hfault), hfirst]
    rfl

/-- A first source whose last line ends in a bare carriage return, and a second that
    begins with an empty line and has an `#else` of no chain. -/
theorem strip_append_of_stray_else :
    LineEnding.auto.KeepsApart "#if A\r\nx\n#endif\ny\r".toList "\r#else".toList ∧
      (strip {} (· == ['A']) "#if A\r\nx\n#endif\ny\r".toList).outcome = .ok "x\ny\r".toList ∧
      (strip {} (· == ['A']) "\r#else".toList).outcome =
        .error ⟨2, "#else".toList, .unexpectedDirective⟩ ∧
      (strip {} (· == ['A'])
        ("#if A\r\nx\n#endif\ny\r".toList ++ "\r#else".toList)).outcome =
        .error ⟨6, "#else".toList, .unexpectedDirective⟩ := by
  have hapart : LineEnding.auto.KeepsApart "#if A\r\nx\n#endif\ny\r".toList "\r#else".toList :=
    ⟨.inr ⟨['\r'], by decide, by decide⟩, by decide⟩
  have hfirst : (strip {} (· == ['A']) "#if A\r\nx\n#endif\ny\r".toList).outcome =
      .ok "x\ny\r".toList := by
    decide +kernel
  have hsecond : (strip {} (· == ['A']) "\r#else".toList).outcome =
      .error ⟨2, "#else".toList, .unexpectedDirective⟩ := by
    decide +kernel
  have hlength : (scan {} "#if A\r\nx\n#endif\ny\r".toList).length = 4 := by
    decide +kernel
  have hboth := (strip_append {} (· == ['A']) _ "\r#else".toList hapart).1 _ hfirst
  rw [hsecond, hlength] at hboth
  exact ⟨hapart, hfirst, hsecond, hboth⟩

end DirectiveStrip
