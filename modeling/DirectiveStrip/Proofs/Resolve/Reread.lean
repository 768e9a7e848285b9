import DirectiveStrip.Proofs.Resolve.Output
import DirectiveStrip.Proofs.Resolve.Span

/-!
# Stripping by Byte Offsets

A kept branch can be handed on without its lines. Two offsets and the number of the
first line are enough, since the source is still there: a branch without chains is cut
out of it, and one with chains is read out of it again. This could go wrong in two more
ways. Offsets may not lie between characters of the source, and what is read again may
be numbered or divided differently.

Neither happens. The offsets of a branch are those of lines of the source, and so are
the offsets of a branch inside it, because the lines that are read again are lines of
the source as well. Stripping by offsets therefore does the same as stripping lines that
were read once, step by step, and meets the same error.

It ends whatever is read on the way: each descent comes one level closer to the nesting
limit, and behind each chain fewer lines are left.

## Main definitions

* `SpanFault`: Why stripping by offsets ends without output.
* `resolveSpan`: Resolve a stretch of the source that is given by its offsets.
* `resolveRead`: Resolve lines that were read from a stretch.
* `emitSpan`: Put out the stretch of a branch.
* `stripSpan`: Strip a source by offsets.
* `Resolution.onSpans`: A run on lines, as a run on offsets.

## Theorems

* `emitSpan_eq`: A branch is put out alike by its lines and by its offsets.
* `resolveRead_eq`: Lines of the source are resolved alike.
* `stripSpan_eq`: A source is stripped alike.
* `stripSpan_in_range`: Every offset lies between characters of the source.
-/

namespace DirectiveStrip

/-- Why stripping by offsets ends without output. -/
inductive SpanFault where
  /-- An error of the source. -/
  | directive (error : DirectiveError)
  /-- An offset that does not lie between characters of the source. -/
  | outOfRange
deriving DecidableEq, Repr

mutual

/-- Resolve a stretch that lies inside `depth` chains. Its lines are read from the source. -/
def resolveSpan (settings : Settings) (defined : Text → Bool) (source : Text)
    (depth start stop firstLine : Nat) : Trace Event SpanFault Unit :=
  .after [.resolving depth start stop firstLine] <|
    match (scanSpan settings source start stop firstLine).lines? with
    | none => .fail .outOfRange
    | some lines => resolveRead settings defined source depth lines
termination_by (settings.nestingLimit - depth, 1, 0)

/-- Resolve the lines that were read from a stretch. Of a branch that is kept, only the offsets
    and the number of its first line are handed on, and whether a chain is opened in it. -/
def resolveRead (settings : Settings) (defined : Text → Bool) (source : Text) (depth : Nat)
    (lines : List ScannedLine) : Trace Event SpanFault Unit :=
  match lines with
  | [] => .done ()
  | scanned :: rest =>
    .after scanned.notes <|
      match scanned.reading with
      | .error fault => .fail (.directive (scanned.line.error fault))
      | .ok .source =>
        .after [.copied scanned.line.start scanned.line.text]
          (resolveRead settings defined source depth rest)
      | .ok (.ifLine guard) =>
        let choice := chooseBranch defined scanned.line guard rest
        .after choice.events <|
          match _hchoice : choice.outcome with
          | .error error => .fail (.directive error)
          | .ok ⟨none, rest'⟩ => resolveRead settings defined source depth rest'
          | .ok ⟨some ⟨start, stop, firstLine, _, opensChain⟩, rest'⟩ =>
            (emitSpan settings defined source depth scanned.line start stop firstLine
              opensChain).bind fun () => resolveRead settings defined source depth rest'
      | .ok (.elifLine _) | .ok (.elseLine _) | .ok (.endifLine _) =>
        .fail (.directive (scanned.line.error .unexpectedDirective))
termination_by (settings.nestingLimit - depth, 0, lines.length)
decreasing_by
  · exact .right _ (.right _ (Nat.lt_succ_self _))
  · exact .right _ (.right _ (Nat.lt_succ_of_le (length_chooseBranch _hchoice).1))
  · exact .right _ (.right _ (Nat.succ_pos _))
  · exact .right _ (.right _ (Nat.lt_succ_of_le (length_chooseBranch _hchoice).1))

/-- Put out the stretch of a branch. It is resolved if a chain is opened in it, and otherwise cut
    out of the source. -/
def emitSpan (settings : Settings) (defined : Text → Bool) (source : Text) (depth : Nat)
    (opening : Line) (start stop firstLine : Nat) (opensChain : Bool) :
    Trace Event SpanFault Unit :=
  .after [.keeping start stop opening.number] <|
    if opensChain then
      if settings.nestingLimit ≤ depth then
        .fail (.directive (opening.error (.nestingTooDeep settings.nestingLimit)))
      else resolveSpan settings defined source (depth + 1) start stop firstLine
    else
      match slice? source start stop with
      | none => .fail .outOfRange
      | some text => .emit (.copied start text)
termination_by (settings.nestingLimit - depth, 0, 0)
decreasing_by exact .left _ _ (by omega)

end

/-- Strip a source by offsets: the output is everything that was copied. -/
def stripSpan (settings : Settings) (defined : Text → Bool) (source : Text) :
    Trace Event SpanFault Text :=
  let run := resolveSpan settings defined source 0 0 (byteSize source) 1
  let output := run.events.flatMap Event.output
  run.bind fun () => .after [.finished (byteSize output) (byteSize source)] (.done output)

/-! ### The same runs -/

/-- A run on lines, as a run on offsets that has met no bad one. -/
def Resolution.onSpans {α : Type} (run : Resolution α) : Trace Event SpanFault α :=
  ⟨run.events, run.outcome.mapError .directive⟩

namespace Resolution

variable {α β : Type}

@[simp] theorem onSpans_done (value : α) : onSpans (.done value) = .done value := rfl

@[simp] theorem onSpans_after (events : List Event) (run : Resolution α) :
    onSpans (run.after events) = (onSpans run).after events := rfl

theorem onSpans_bind (run : Resolution α) (next : α → Resolution β) :
    onSpans (run.bind next) = (onSpans run).bind fun value => onSpans (next value) := by
  rcases run with ⟨events, error | value⟩ <;> rfl

/-- Behind a part that succeeds comes the next, and of the first only its events are left. -/
theorem onSpans_bind_of_eq_ok {run : Resolution α} {value : α}
    (next : α → Trace Event SpanFault β) (h : run.outcome = .ok value) :
    (onSpans run).bind next = (next value).after run.events := by
  rw [Trace.bind, onSpans, h]
  rfl

end Resolution

/-! ### Steps of resolving -/

section Steps

variable (settings : Settings) (defined : Text → Bool) (source : Text) (depth : Nat)

/-- At a chain its branch is put out, if one is kept, and then everything behind it. -/
theorem resolveRead_ifLine (scanned : ScannedLine) (lines : List ScannedLine) (guard : Guard)
    (h : scanned.reading = .ok (.ifLine guard)) :
    resolveRead settings defined source depth (scanned :: lines) =
      .after scanned.notes
        ((chooseBranch defined scanned.line guard lines).onSpans.bind fun selection =>
          match selection.branch? with
          | none => resolveRead settings defined source depth selection.rest
          | some branch =>
            (emitSpan settings defined source depth scanned.line branch.start branch.stop
              branch.firstLine branch.opensChain).bind fun () =>
                resolveRead settings defined source depth selection.rest) := by
  rw [resolveRead]
  simp only [h, Trace.bind, Resolution.onSpans]
  split
  · next hfail =>
    rw [hfail]
    simp [Except.mapError, Trace.after, Trace.fail]
  · next hnone =>
    rw [hnone]
    rfl
  · next hsome =>
    rw [hsome]
    rfl

/-- A branch whose stretch gives its lines and its text is put out alike. -/
theorem emitSpan_eq (opening : Line) (branch : Branch)
    (hlines : (scanSpan settings source branch.start branch.stop branch.firstLine).lines? =
      some branch.lines)
    (htext : slice? source branch.start branch.stop = some (scannedText branch.lines))
    (hresolve : resolveRead settings defined source (depth + 1) branch.lines =
      (resolveLines defined settings.nestingLimit (depth + 1) branch.lines).onSpans) :
    emitSpan settings defined source depth opening branch.start branch.stop branch.firstLine
        branch.opensChain =
      .after [.keeping branch.start branch.stop opening.number]
        (Resolution.onSpans
          (if branch.opensChain then
            if settings.nestingLimit ≤ depth then
              .fail (opening.error (.nestingTooDeep settings.nestingLimit))
            else
              .after [.resolving (depth + 1) branch.start branch.stop branch.firstLine]
                (resolveLines defined settings.nestingLimit (depth + 1) branch.lines)
          else .emit (.copied branch.start (scannedText branch.lines)))) := by
  rw [emitSpan, htext]
  split
  · split
    · rfl
    · rw [resolveSpan, hlines, Resolution.onSpans_after, ← hresolve]
  · rfl

end Steps

/-- Lines that stand in a row in the source are resolved alike, whether their branches are
    handed on by lines or by offsets. -/
theorem resolveRead_eq (settings : Settings) (defined : Text → Bool) (source : Text)
    (depth : Nat) (lines : List ScannedLine) :
    ∀ before after, scan settings source = before ++ (lines ++ after) →
      resolveRead settings defined source depth lines =
        (resolveLines defined settings.nestingLimit depth lines).onSpans := by
  -- On the calls of `resolveLines`. The lines of every call stand in the source, those of a
  -- branch as well as those behind a chain, and that is all that reading again depends on.
  induction depth, lines using resolveLines.induct defined with
  | case1 depth =>
      intro before after _
      rw [resolveRead, resolveLines, Resolution.onSpans_done]
  | case2 depth scanned rest ihSource ihNone ihBranch ihRest =>
      intro before after hscan
      rcases hreading : scanned.reading with fault | kind
      · rw [resolveRead, resolveLines, hreading]
        rfl
      · cases kind with
        | source =>
            rw [resolveRead, resolveLines_source _ _ _ _ _ hreading, hreading]
            rw [ihSource (before ++ [scanned]) after (by rw [hscan]; simp)]
            rfl
        | ifLine guard =>
            rw [resolveRead_ifLine _ _ _ _ _ _ guard hreading]
            rcases hchoice : (chooseBranch defined scanned.line guard rest).outcome with
              error | selection
            · rw [resolveLines_error _ _ _ _ _ guard hreading error hchoice]
              simp [Resolution.onSpans, Trace.bind, hchoice, Trace.after, Except.mapError]
            · rw [Resolution.onSpans_bind_of_eq_ok _ hchoice]
              -- What is left behind the chain stands in the source too.
              rcases cuts_of_chooseBranch defined scanned guard rest _ hchoice with
                ⟨walked, hwalked, -⟩
              have hleft : scan settings source =
                  (before ++ walked) ++ (selection.rest ++ after) := by
                rw [hscan, hwalked]
                simp
              rcases selection with ⟨_ | branch, tail⟩
              · rw [resolveLines_none _ _ _ _ _ guard hreading tail hchoice]
                simp only [ihNone guard tail hchoice _ after hleft, Resolution.onSpans_after]
              · -- So does the branch, and its offsets give its lines and its text.
                rcases position_of_chooseBranch settings defined source before rest after scanned
                  guard hscan branch tail hchoice with ⟨earlier, later, hplace, -⟩
                rcases span_of_chooseBranch settings defined source before rest after scanned
                  guard hscan branch tail hchoice with ⟨hlines, htext⟩
                have hbranch := emitSpan_eq settings defined source depth scanned.line branch
                  hlines htext (ihBranch guard branch tail hchoice earlier later hplace)
                have hbehind := ihRest guard branch tail hchoice _ after hleft
                rw [resolveLines_some _ _ _ _ _ guard hreading branch tail hchoice]
                simp only [hbranch, hbehind, ← scannedText_eq_flatMap]
                split
                · split
                  · rfl
                  · simp only [Resolution.onSpans_after, Resolution.onSpans_bind, Trace.after_bind]
                · rfl
        | elifLine guard | elseLine ignored | endifLine ignored =>
            rw [resolveRead, resolveLines, hreading]
            rfl

/-- Stripping by offsets does what stripping lines that were read once does. The events
    and the output are the same, and so is the error. -/
theorem stripSpan_eq (settings : Settings) (defined : Text → Bool) (source : Text) :
    stripSpan settings defined source = (strip settings defined source).onSpans := by
  -- The whole source is a stretch of itself, with nothing before or behind it.
  have hwhole := scanSpan_of_scan settings source [] (scan settings source) [] (by simp)
  rw [scannedText_scan, scannedText_nil, byteSize_nil, Nat.zero_add, List.length_nil,
    Nat.zero_add] at hwhole
  have hrun : resolveSpan settings defined source 0 0 (byteSize source) 1 =
      Resolution.onSpans (.after [.resolving 0 0 (byteSize source) 1]
        (resolveLines defined settings.nestingLimit 0 (scan settings source))) := by
    rw [resolveSpan, hwhole]
    dsimp only
    rw [resolveRead_eq settings defined source 0 _ [] [] (by simp)]
    rfl
  rw [stripSpan, hrun, strip, Resolution.onSpans_bind]
  rfl

/-- Whatever the source, every stretch that is cut out or read again lies between
    characters of it. -/
theorem stripSpan_in_range (settings : Settings) (defined : Text → Bool) (source : Text) :
    (stripSpan settings defined source).outcome ≠ .error .outOfRange := by
  rw [stripSpan_eq, Resolution.onSpans]
  rcases (strip settings defined source).outcome with error | output <;> simp [Except.mapError]

end DirectiveStrip
