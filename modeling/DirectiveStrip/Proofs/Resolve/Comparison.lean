import DirectiveStrip.Proofs.Resolve.Live
import Mathlib.Data.List.Forall2

/-!
# Two Runs Side by Side

The same source may be stripped under other settings, or another source may have lines
that say the same things somewhere else, or in front of other terminators. Then the two
runs go the same way, and what comes out of them is as alike as the lines are.

What is alike differs from case to case: errors may have to be equal, or to name lines
that are so many apart, and texts may have to be equal or only to correspond. So a
comparison says which texts and which errors are alike, and it may excuse errors of the
first run. After an excused error the second run may do anything, because it is the
first that has ended for a reason of its own.

Two lines are alike if they say the same and what can be copied or reported of them is
alike. Lists of lines are compared line by line. Nothing in a run asks for more than
that, so the walks over a chain are gone through once, for all comparisons.

## Main definitions

* `Comparison`: Which texts and which errors are alike, and which errors are excused.
* `Comparison.ofErrors`: A comparison under which outputs are the same.
* `Comparison.Alike`: Lines that are alike.
* `Comparison.Follows`: A run that comes out like another.
* `Comparison.BodyAlike`, `Comparison.BranchAlike`, `Comparison.SelectionAlike`: What the
  walks over a chain give for lines that are alike.

## Theorems

* `Comparison.Follows.after`, `Comparison.Follows.map`, `Comparison.Follows.bind`: Runs put
  together from parts that follow each other.
* `Comparison.follows_skipChain`, `Comparison.follows_collectBody`,
  `Comparison.follows_takeBranch`, `Comparison.follows_findBranch`,
  `Comparison.follows_chooseBranch`: The walks over lines that are alike.
* `Comparison.follows_resolveLines`: Resolving lines that are alike.
* `Comparison.follows_strip`: Stripping sources with lines that are alike.
-/

namespace DirectiveStrip

open Resolution

theorem asked_notes (scanned : ScannedLine) : scanned.notes.flatMap Event.asked = [] := by
  refine flatMap_notes Event.asked ?_ scanned
  intro event hnote
  cases event with
  | evaluated directive line guard evaluation => cases hnote
  | _ => rfl

/-- How two runs are compared. -/
structure Comparison where
  /-- Texts that are alike. -/
  text : Text → Text → Prop
  /-- Errors that are alike. -/
  error : DirectiveError → DirectiveError → Prop
  /-- Errors of the first run that excuse the second from following it. -/
  excused : DirectiveError → Prop
  text_nil : text [] []
  text_append : ∀ before before' after after', text before before' → text after after' →
    text (before ++ after) (before' ++ after')

namespace Comparison

/-- A comparison by errors alone: whatever is put out has to be the same. -/
def ofErrors (error : DirectiveError → DirectiveError → Prop) (excused : DirectiveError → Prop) :
    Comparison where
  text := Eq
  error := error
  excused := excused
  text_nil := rfl
  text_append := by
    rintro before _ after _ rfl rfl
    rfl

variable (comparison : Comparison)

/-- Readings of two lines that are alike. -/
inductive Reads (line line' : Line) :
    Except DirectiveFault LineKind → Except DirectiveFault LineKind → Prop where
  | same (kind : LineKind) : Reads line line' (.ok kind) (.ok kind)
  | fails (fault fault' : DirectiveFault)
      (error : comparison.error (line.error fault) (line'.error fault')) :
      Reads line line' (.error fault) (.error fault')
  | excused (fault : DirectiveFault) (reading' : Except DirectiveFault LineKind)
      (excused : comparison.excused (line.error fault)) :
      Reads line line' (.error fault) reading'

variable {comparison} in
/-- Lines whose errors are alike may have the same reading. -/
theorem Reads.refl {line line' : Line}
    (h : ∀ fault, comparison.error (line.error fault) (line'.error fault))
    (reading : Except DirectiveFault LineKind) :
    comparison.Reads line line' reading reading := by
  rcases reading with fault | kind
  · exact .fails fault fault (h fault)
  · exact .same kind

/-- Lines that are alike: in their texts, in errors that name them and in what they say. -/
structure Alike (scanned scanned' : ScannedLine) : Prop where
  text : comparison.text scanned.line.text scanned'.line.text
  error : ∀ fault, comparison.error (scanned.line.error fault) (scanned'.line.error fault)
  reading : comparison.Reads scanned.line scanned'.line scanned.reading scanned'.reading

/-- Two parts of stripping put out texts that are alike and ask for the same symbols. -/
structure Sees {α β : Type} (run : Resolution α) (run' : Resolution β) : Prop where
  output : comparison.text (output run) (output run')
  asked : asked run = asked run'

/-- The second part of stripping comes out like the first, in success with values that
    are related, unless the first has failed with an excused error. -/
inductive Follows {α β : Type} (value : α → β → Prop) (run : Resolution α)
    (run' : Resolution β) : Prop where
  | excused (error : DirectiveError) (outcome : run.outcome = .error error)
      (excused : comparison.excused error)
  | fails (error error' : DirectiveError) (outcome : run.outcome = .error error)
      (outcome' : run'.outcome = .error error') (alike : comparison.error error error')
      (sees : comparison.Sees run run')
  | succeeds (first : α) (second : β) (outcome : run.outcome = .ok first)
      (outcome' : run'.outcome = .ok second) (related : value first second)
      (sees : comparison.Sees run run')

/-! ### Runs put together from parts -/

section Parts

variable {comparison} {α β γ δ : Type} {run : Resolution α} {run' : Resolution β}
  {value : α → β → Prop}

theorem Sees.after (h : comparison.Sees run run') (events events' : List Event)
    (houtput : comparison.text (events.flatMap Event.output) (events'.flatMap Event.output))
    (hasked : events.flatMap Event.asked = events'.flatMap Event.asked) :
    comparison.Sees (run.after events) (run'.after events') := by
  refine ⟨?_, ?_⟩
  · rw [output_after, output_after]
    exact comparison.text_append _ _ _ _ houtput h.output
  · calc Resolution.asked (run.after events)
        = events.flatMap Event.asked ++ Resolution.asked run := view_after Event.asked events run
      _ = events'.flatMap Event.asked ++ Resolution.asked run' := by rw [hasked, h.asked]
      _ = Resolution.asked (run'.after events') := (view_after Event.asked events' run').symm

namespace Follows

theorem fail (error error' : DirectiveError) (h : comparison.error error error') :
    comparison.Follows value (.fail error) (.fail error') :=
  .fails error error' rfl rfl h ⟨comparison.text_nil, rfl⟩

theorem done (first : α) (second : β) (h : value first second) :
    comparison.Follows value (.done first) (.done second) :=
  .succeeds first second rfl rfl h ⟨comparison.text_nil, rfl⟩

theorem after (h : comparison.Follows value run run') (events events' : List Event)
    (houtput : comparison.text (events.flatMap Event.output) (events'.flatMap Event.output))
    (hasked : events.flatMap Event.asked = events'.flatMap Event.asked) :
    comparison.Follows value (run.after events) (run'.after events') := by
  cases h with
  | excused error houtcome hexcused => exact .excused error houtcome hexcused
  | fails error error' houtcome houtcome' herror hsees =>
      exact .fails error error' houtcome houtcome' herror (hsees.after _ _ houtput hasked)
  | succeeds first second houtcome houtcome' hvalue hsees =>
      exact .succeeds first second houtcome houtcome' hvalue (hsees.after _ _ houtput hasked)

/-- What reading a line reports is neither output nor a look-up. -/
theorem after_notes (h : comparison.Follows value run run') (scanned scanned' : ScannedLine) :
    comparison.Follows value (run.after scanned.notes) (run'.after scanned'.notes) := by
  refine h.after _ _ ?_ ?_
  · rw [output_notes, output_notes]
    exact comparison.text_nil
  · rw [asked_notes, asked_notes]

theorem map {value' : γ → δ → Prop} (h : comparison.Follows value run run') (f : α → γ)
    (g : β → δ) (hvalue : ∀ first second, value first second → value' (f first) (g second)) :
    comparison.Follows value' (run.map f) (run'.map g) := by
  cases h with
  | excused error houtcome hexcused =>
      exact .excused error (by rw [Trace.outcome_map, houtcome]; rfl) hexcused
  | fails error error' houtcome houtcome' herror hsees =>
      exact .fails error error' (by rw [Trace.outcome_map, houtcome]; rfl)
        (by rw [Trace.outcome_map, houtcome']; rfl) herror ⟨hsees.output, hsees.asked⟩
  | succeeds first second houtcome houtcome' hfirst hsees =>
      exact .succeeds (f first) (g second) (by rw [Trace.outcome_map, houtcome]; rfl)
        (by rw [Trace.outcome_map, houtcome']; rfl) (hvalue first second hfirst)
        ⟨hsees.output, hsees.asked⟩

theorem bind {value' : γ → δ → Prop} (h : comparison.Follows value run run')
    (next : α → Resolution γ) (next' : β → Resolution δ)
    (hnext : ∀ first second, value first second →
      comparison.Follows value' (next first) (next' second)) :
    comparison.Follows value' (run.bind next) (run'.bind next') := by
  cases h with
  | excused error houtcome hexcused =>
      exact .excused error (by rw [Trace.bind, houtcome]) hexcused
  | fails error error' houtcome houtcome' herror hsees =>
      rw [Trace.bind, Trace.bind, houtcome, houtcome']
      exact .fails error error' rfl rfl herror ⟨hsees.output, hsees.asked⟩
  | succeeds first second houtcome houtcome' hvalue hsees =>
      rw [Trace.bind, Trace.bind, houtcome, houtcome']
      exact (hnext first second hvalue).after _ _ hsees.output hsees.asked

theorem ite (condition : Prop) [Decidable condition] {other : Resolution α}
    {other' : Resolution β} (hpos : comparison.Follows value run run')
    (hneg : comparison.Follows value other other') :
    comparison.Follows value (if condition then run else other)
      (if condition then run' else other') := by
  split
  · exact hpos
  · exact hneg

end Follows

end Parts

/-! ### Walking over a chain -/

/-- Branches collected from lines that are alike. The line that ends a branch can be read. -/
structure BodyAlike (body body' : BranchBody) : Prop where
  lines : List.Forall₂ comparison.Alike body.lines body'.lines
  opensChain : body.opensChain = body'.opensChain
  closing : ∀ fault,
    comparison.error (body.closing.line.error fault) (body'.closing.line.error fault)
  reading : body.closing.reading = body'.closing.reading
  rest : List.Forall₂ comparison.Alike body.rest body'.rest

/-- Branches that are kept. Where they stand may differ. -/
structure BranchAlike (branch branch' : Branch) : Prop where
  lines : List.Forall₂ comparison.Alike branch.lines branch'.lines
  opensChain : branch.opensChain = branch'.opensChain

/-- Outcomes of two chains. -/
structure SelectionAlike (selection selection' : Selection) : Prop where
  branch? : Option.Rel comparison.BranchAlike selection.branch? selection'.branch?
  rest : List.Forall₂ comparison.Alike selection.rest selection'.rest

section Walks

variable {comparison} {opening opening' : Line}
  (hopening : ∀ fault, comparison.error (opening.error fault) (opening'.error fault))

include hopening

theorem follows_skipChain (afterElse : Bool) (nested : Nat) (lines lines' : List ScannedLine)
    (h : List.Forall₂ comparison.Alike lines lines') :
    comparison.Follows (List.Forall₂ comparison.Alike) (skipChain opening afterElse nested lines)
      (skipChain opening' afterElse nested lines') := by
  induction h generalizing afterElse nested with
  | nil => exact .fail _ _ (hopening _)
  | @cons scanned scanned' rest rest' halike hrest ih =>
      rw [skipChain, skipChain]
      refine Follows.after_notes ?_ scanned scanned'
      rcases halike with ⟨-, herror, hreading⟩
      generalize scanned.reading = reading, scanned'.reading = reading' at hreading ⊢
      cases hreading with
      | excused fault _ hexcused => exact .excused _ rfl hexcused
      | fails fault fault' hfault => exact .fail _ _ hfault
      | same kind =>
          cases kind with
          | source => exact ih afterElse nested
          | ifLine guard => exact ih afterElse (nested + 1)
          | elifLine guard =>
              exact .ite _ (.ite _ (.fail _ _ (herror _)) (ih false nested)) (ih afterElse nested)
          | elseLine ignored =>
              exact .ite _ (.ite _ (.fail _ _ (herror _)) (ih true nested)) (ih afterElse nested)
          | endifLine ignored => exact .ite _ (.done _ _ hrest) (ih afterElse (nested - 1))

theorem follows_collectBody (nested : Nat) (lines lines' : List ScannedLine)
    (h : List.Forall₂ comparison.Alike lines lines') :
    comparison.Follows comparison.BodyAlike (collectBody opening nested lines)
      (collectBody opening' nested lines') := by
  induction h generalizing nested with
  | nil => exact .fail _ _ (hopening _)
  | @cons scanned scanned' rest rest' halike hrest ih =>
      -- One more line in front of the branch, or the branch ends at it.
      have hcons (nested : Nat) : comparison.Follows comparison.BodyAlike
          ((collectBody opening nested rest).map (.cons scanned))
          ((collectBody opening' nested rest').map (.cons scanned')) :=
        (ih nested).map _ _ fun body body' hbody =>
          ⟨.cons halike hbody.lines, hbody.opensChain, hbody.closing, hbody.reading, hbody.rest⟩
      have hstop (hreading : scanned.reading = scanned'.reading) :
          comparison.Follows comparison.BodyAlike
            (.done ⟨[], false, scanned, rest⟩) (.done ⟨[], false, scanned', rest'⟩) :=
        .done _ _ ⟨.nil, rfl, halike.error, hreading, hrest⟩
      rw [collectBody, collectBody]
      refine Follows.after_notes ?_ scanned scanned'
      have hreading := halike.reading
      generalize hfirst : scanned.reading = reading, hsecond : scanned'.reading = reading'
        at hreading ⊢
      cases hreading with
      | excused fault _ hexcused => exact .excused _ rfl hexcused
      | fails fault fault' hfault => exact .fail _ _ hfault
      | same kind =>
          have hsame := hfirst.trans hsecond.symm
          cases kind with
          | source => exact hcons nested
          | ifLine guard =>
              exact (ih (nested + 1)).map _ _ fun body body' hbody =>
                ⟨.cons halike hbody.lines, rfl, hbody.closing, hbody.reading, hbody.rest⟩
          | elifLine guard => exact .ite _ (hstop hsame) (hcons nested)
          | elseLine ignored => exact .ite _ (hstop hsame) (hcons nested)
          | endifLine ignored => exact .ite _ (hstop hsame) (hcons (nested - 1))

theorem follows_takeBranch (head head' : Line) (afterElse : Bool)
    (lines lines' : List ScannedLine) (h : List.Forall₂ comparison.Alike lines lines') :
    comparison.Follows comparison.SelectionAlike (takeBranch opening head afterElse lines)
      (takeBranch opening' head' afterElse lines') := by
  rw [takeBranch, takeBranch]
  refine (follows_collectBody hopening 0 lines lines' h).bind _ _ ?_
  intro body body' hbody
  have hbranch : comparison.BranchAlike
      { start := head.stop, stop := body.closing.line.start, firstLine := head.number + 1
        lines := body.lines, opensChain := body.opensChain }
      { start := head'.stop, stop := body'.closing.line.start, firstLine := head'.number + 1
        lines := body'.lines, opensChain := body'.opensChain } :=
    ⟨hbody.lines, hbody.opensChain⟩
  -- The rest of the chain is passed over, or the branch is the last.
  have hskip (afterElse : Bool) :=
    (follows_skipChain hopening afterElse 0 _ _ hbody.rest).map
      (fun rest => (⟨some _, rest⟩ : Selection)) (fun rest => (⟨some _, rest⟩ : Selection))
      fun rest rest' hrest =>
        (⟨.some hbranch, hrest⟩ : comparison.SelectionAlike ⟨some _, rest⟩ ⟨some _, rest'⟩)
  have hdone : comparison.Follows comparison.SelectionAlike
      (.done ⟨some _, body.rest⟩) (.done ⟨some _, body'.rest⟩) :=
    .done _ _ ⟨.some hbranch, hbody.rest⟩
  dsimp only
  rw [← hbody.reading]
  split
  · exact .ite _ (.fail _ _ (hbody.closing _)) (hskip false)
  · exact .ite _ (.fail _ _ (hbody.closing _)) (hskip true)
  · exact hdone

theorem follows_findBranch (defined : Text → Bool) (nested : Nat)
    (lines lines' : List ScannedLine) (h : List.Forall₂ comparison.Alike lines lines') :
    comparison.Follows comparison.SelectionAlike (findBranch defined opening nested lines)
      (findBranch defined opening' nested lines') := by
  induction h generalizing nested with
  | nil => exact .fail _ _ (hopening _)
  | @cons scanned scanned' rest rest' halike hrest ih =>
      have htake (afterElse : Bool) :=
        follows_takeBranch hopening scanned.line scanned'.line afterElse rest rest' hrest
      rw [findBranch, findBranch]
      refine Follows.after_notes ?_ scanned scanned'
      rcases halike with ⟨-, herror, hreading⟩
      generalize scanned.reading = reading, scanned'.reading = reading' at hreading ⊢
      cases hreading with
      | excused fault _ hexcused => exact .excused _ rfl hexcused
      | fails fault fault' hfault => exact .fail _ _ hfault
      | same kind =>
          cases kind with
          | source => exact ih nested
          | ifLine guard => exact ih (nested + 1)
          | elifLine guard =>
              refine .ite _ ?_ (ih nested)
              exact Follows.after (.ite _ (htake false) (ih nested)) _ _ comparison.text_nil rfl
          | elseLine ignored =>
              exact .ite _ ((htake true).after _ _ comparison.text_nil rfl) (ih nested)
          | endifLine ignored =>
              refine .ite _ ?_ (ih (nested - 1))
              exact Follows.after (.done _ _ ⟨.none, hrest⟩) _ _ comparison.text_nil rfl

theorem follows_chooseBranch (defined : Text → Bool) (guard : Guard)
    (lines lines' : List ScannedLine) (h : List.Forall₂ comparison.Alike lines lines') :
    comparison.Follows comparison.SelectionAlike (chooseBranch defined opening guard lines)
      (chooseBranch defined opening' guard lines') := by
  rw [chooseBranch, chooseBranch]
  refine Follows.after (.ite _ ?_ ?_) _ _ comparison.text_nil rfl
  · exact follows_takeBranch hopening opening opening' false lines lines' h
  · exact follows_findBranch hopening defined 0 lines lines' h

end Walks

/-! ### Resolving -/

variable {comparison}

/-- The texts of lines that are alike are alike. -/
theorem text_flatMap (lines lines' : List ScannedLine)
    (h : List.Forall₂ comparison.Alike lines lines') :
    comparison.text (lines.flatMap (·.line.text)) (lines'.flatMap (·.line.text)) := by
  induction h with
  | nil => exact comparison.text_nil
  | cons halike _ ih =>
      rw [List.flatMap_cons, List.flatMap_cons]
      exact comparison.text_append _ _ _ _ halike.text ih

section Resolve

variable (defined : Text → Bool) (limit limit' : Nat) (hle : limit ≤ limit')
  (hlimit : limit = limit' ∨
    ∀ line : Line, comparison.excused (line.error (.nestingTooDeep limit)))

include hle hlimit

/-- The step over a chain, if that is what resolving does with fewer lines. -/
theorem follows_chain (depth : Nat) (scanned scanned' : ScannedLine)
    (halike : comparison.Alike scanned scanned') (guard : Guard)
    (hguard : scanned.reading = .ok (.ifLine guard))
    (hguard' : scanned'.reading = .ok (.ifLine guard)) (rest rest' : List ScannedLine)
    (hrest : List.Forall₂ comparison.Alike rest rest')
    (hresolve : ∀ (depth : Nat) (lines lines' : List ScannedLine), lines.length ≤ rest.length →
      List.Forall₂ comparison.Alike lines lines' →
      comparison.Follows (fun _ _ => True) (resolveLines defined limit depth lines)
        (resolveLines defined limit' depth lines')) :
    comparison.Follows (fun _ _ => True) (resolveLines defined limit depth (scanned :: rest))
      (resolveLines defined limit' depth (scanned' :: rest')) := by
  cases follows_chooseBranch halike.error defined guard rest rest' hrest with
  | excused error houtcome hexcused =>
      refine .excused error ?_ hexcused
      rw [resolveLines_error _ _ _ _ _ guard hguard error houtcome]
      rfl
  | fails error error' houtcome houtcome' herror hsees =>
      rw [resolveLines_error _ _ _ _ _ guard hguard error houtcome,
        resolveLines_error _ _ _ _ _ guard hguard' error' houtcome']
      refine Follows.after_notes ?_ scanned scanned'
      exact .fails error error' rfl rfl herror ⟨hsees.output, hsees.asked⟩
  | succeeds selection selection' houtcome houtcome' hselection hsees =>
      have hwithin := length_chooseBranch houtcome
      rcases selection with ⟨branch?, tail⟩
      rcases selection' with ⟨branch?', tail'⟩
      rcases hselection with ⟨hbranch?, htail⟩
      have hbehind := hresolve depth tail tail' hwithin.1 htail
      cases hbranch? with
      | none =>
          rw [resolveLines_none _ _ _ _ _ guard hguard tail houtcome,
            resolveLines_none _ _ _ _ _ guard hguard' tail' houtcome']
          exact (hbehind.after _ _ hsees.output hsees.asked).after_notes scanned scanned'
      | @some branch branch' hbranch =>
          rw [resolveLines_some _ _ _ _ _ guard hguard branch tail houtcome,
            resolveLines_some _ _ _ _ _ guard hguard' branch' tail' houtcome',
            ← hbranch.opensChain]
          refine Follows.after_notes ?_ scanned scanned'
          refine Follows.after ?_ _ _ hsees.output hsees.asked
          refine Follows.after (.ite _ ?_ ?_) _ _ comparison.text_nil rfl
          · by_cases hdeep : limit ≤ depth
            · -- Both are too deep, or only the first is and has its excuse.
              rw [if_pos hdeep]
              rcases hlimit with rfl | hexcused
              · rw [if_pos hdeep]
                exact .fail _ _ (halike.error _)
              · exact .excused _ rfl (hexcused _)
            · rw [if_neg hdeep, if_neg (by omega)]
              have hbody := hresolve (depth + 1) _ _ (hwithin.2 branch rfl) hbranch.lines
              exact Follows.after (hbody.bind _ _ fun _ _ _ => hbehind) _ _ comparison.text_nil rfl
          · refine hbehind.after _ _ ?_ rfl
            simpa [Event.output] using text_flatMap branch.lines branch'.lines hbranch.lines

/-- Resolving lines that are alike, under the same limit or under a larger one. That there
    is more room is no matter if the first run is excused where it has too little. -/
theorem follows_resolveLines (depth : Nat) (lines lines' : List ScannedLine)
    (h : List.Forall₂ comparison.Alike lines lines') :
    comparison.Follows (fun _ _ => True) (resolveLines defined limit depth lines)
      (resolveLines defined limit' depth lines') := by
  -- On the number of lines, since neither a branch nor what follows a chain is a tail.
  induction hlen : lines.length using Nat.strong_induction_on generalizing depth lines lines' with
  | _ n ih =>
      cases h with
      | nil =>
          rw [resolveLines, resolveLines]
          exact .done _ _ trivial
      | @cons scanned scanned' rest rest' halike hrest =>
          rw [List.length_cons] at hlen
          have hreading := halike.reading
          generalize hfirst : scanned.reading = reading, hsecond : scanned'.reading = reading'
            at hreading
          cases hreading with
          | excused fault _ hexcused =>
              refine .excused _ ?_ hexcused
              rw [resolveLines, hfirst]
              rfl
          | fails fault fault' hfault =>
              rw [resolveLines, resolveLines, hfirst, hsecond]
              exact Follows.after_notes (.fail _ _ hfault) scanned scanned'
          | same kind =>
              cases kind with
              | source =>
                  rw [resolveLines_source _ _ _ _ _ hfirst, resolveLines_source _ _ _ _ _ hsecond]
                  refine Follows.after_notes ?_ scanned scanned'
                  refine (ih rest.length (by omega) depth rest rest' hrest rfl).after _ _ ?_ rfl
                  simpa [Event.output] using halike.text
              | ifLine guard =>
                  exact follows_chain defined limit limit' hle hlimit depth scanned scanned' halike
                    guard hfirst hsecond rest rest' hrest fun depth lines lines' hlines h =>
                      ih lines.length (by omega) depth lines lines' h rfl
              | elifLine guard | elseLine ignored | endifLine ignored =>
                  rw [resolveLines, resolveLines, hfirst, hsecond]
                  exact Follows.after_notes (.fail _ _ (halike.error _)) scanned scanned'

end Resolve

/-- Stripping two sources whose lines are alike. -/
theorem follows_strip (settings settings' : Settings) (defined : Text → Bool)
    (source source' : Text) (hle : settings.nestingLimit ≤ settings'.nestingLimit)
    (hlimit : settings.nestingLimit = settings'.nestingLimit ∨
      ∀ line : Line, comparison.excused (line.error (.nestingTooDeep settings.nestingLimit)))
    (h : List.Forall₂ comparison.Alike (scan settings source) (scan settings' source')) :
    comparison.Follows comparison.text (strip settings defined source)
      (strip settings' defined source') := by
  -- Around resolving the lines nothing is put out and nothing is asked for.
  have hsees (hlines : comparison.Sees
      (resolveLines defined settings.nestingLimit 0 (scan settings source))
      (resolveLines defined settings'.nestingLimit 0 (scan settings' source'))) :
      comparison.Sees (strip settings defined source) (strip settings' defined source') := by
    rcases hlines with ⟨houtput, hasked⟩
    refine ⟨?_, ?_⟩
    · unfold Resolution.output at houtput ⊢
      rw [← view, ← view, view_strip _ _ _ _ rfl fun _ _ => rfl,
        view_strip _ _ _ _ rfl fun _ _ => rfl]
      exact houtput
    · unfold Resolution.asked at hasked ⊢
      rw [← view, ← view, view_strip _ _ _ _ rfl fun _ _ => rfl,
        view_strip _ _ _ _ rfl fun _ _ => rfl]
      exact hasked
  cases follows_resolveLines defined _ _ hle hlimit 0 _ _ h with
  | excused error houtcome hexcused =>
      refine .excused error ?_ hexcused
      rw [outcome_strip_eq_map, houtcome]
      rfl
  | fails error error' houtcome houtcome' herror hlines =>
      refine .fails error error' ?_ ?_ herror (hsees hlines)
      · rw [outcome_strip_eq_map, houtcome]
        rfl
      · rw [outcome_strip_eq_map, houtcome']
        rfl
  | succeeds _ _ houtcome houtcome' _ hlines =>
      refine .succeeds _ _ ?_ ?_ hlines.output (hsees hlines)
      · rw [outcome_strip_eq_map, houtcome]
        rfl
      · rw [outcome_strip_eq_map, houtcome']
        rfl

end Comparison

end DirectiveStrip
