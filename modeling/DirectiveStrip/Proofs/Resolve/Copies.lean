import DirectiveStrip.Proofs.Resolve.Outline
import DirectiveStrip.Proofs.Resolve.Live
import DirectiveStrip.Proofs.Resolve.Span

/-!
# What Is Copied From Where

Output comes about by copying stretches of the source, a line or a branch at a time.
The stretches are taken from front to back, and no part of the source is taken twice.
So the output never grows longer than the source, at no point of a run, and a buffer
of the size of the source is large enough from the start.

When a branch is copied, the walk over its chain has already come to the `#endif`. The
text behind the branch was passed over by then, and nothing of it is taken later. What
a run copies from some lines is therefore a matter of these lines alone: pieces of their
text, in order. Lines one after another give the pieces of the first and then those of
the others, and a branch is one stretch of the lines of its chain.

A run that fails has copied pieces in order as well, it has only copied fewer of them.

## Main definitions

* `Copy`: A stretch of the source that becomes output.
* `Resolution.copies`: What a part of stripping copies.
* `PiecesOf`: Copies that are pieces of a text, in order.

## Theorems

* `PiecesOf.slice`: A piece is what stands in the source between its offsets.
* `PiecesOf.pairwise`: Pieces are in order and do not overlap.
* `PiecesOf.byteSize_le`: Together they are no longer than the text.
* `piecesOf_resolveLines`: What is copied from lines are pieces of their text.
* `strip_copies_in_order`: What stripping copies, and how much of it there is at most.
-/

namespace DirectiveStrip

open Resolution

/-- A stretch of the source that becomes output: where it begins, and what it is. -/
structure Copy where
  start : Nat
  text : Text
deriving DecidableEq, Repr

/-- Byte offset just past the stretch. -/
def Copy.stop (copy : Copy) : Nat :=
  copy.start + byteSize copy.text

/-- The copy that an event makes, if it makes one. -/
def Event.copies : Event → List Copy
  | copied start text => [⟨start, text⟩]
  | _ => []

/-- What a part of stripping copies, in the order in which it is copied. -/
def Resolution.copies {α : Type} (resolution : Resolution α) : List Copy :=
  view Event.copies resolution

/-- The output of a part is what it copies. -/
theorem output_eq_flatMap_copies {α : Type} (resolution : Resolution α) :
    output resolution = (copies resolution).flatMap Copy.text := by
  have hevent (event : Event) : event.output = event.copies.flatMap Copy.text := by
    cases event with
    | copied start text => exact (List.append_nil _).symm
    | _ => rfl
  unfold output copies view
  rw [List.flatMap_assoc, ← funext hevent]

theorem Event.copies_of_isChoosing (event : Event) (h : event.isChoosing) :
    event.copies = [] := by
  cases event with
  | copied start text => cases h
  | _ => rfl

/-! ### Pieces of a text -/

/-- Copies that are pieces of a text, in order, where the text begins at an offset. -/
inductive PiecesOf : Nat → Text → List Copy → Prop where
  /-- Of the rest nothing is taken. -/
  | nothing (start : Nat) (text : Text) : PiecesOf start text []
  /-- Some text is passed over. -/
  | pass {start : Nat} (passed : Text) {text : Text} {copies : List Copy} :
      PiecesOf (start + byteSize passed) text copies → PiecesOf start (passed ++ text) copies
  /-- Some text is taken. -/
  | take {start : Nat} (piece : Text) {text : Text} {copies : List Copy} :
      PiecesOf (start + byteSize piece) text copies →
        PiecesOf start (piece ++ text) (⟨start, piece⟩ :: copies)

namespace PiecesOf

variable {start : Nat} {text : Text} {copies : List Copy}

theorem append (h : PiecesOf start text copies) {more : Text} {later : List Copy}
    (hmore : PiecesOf (start + byteSize text) more later) :
    PiecesOf start (text ++ more) (copies ++ later) := by
  induction h with
  | nothing start text => exact .pass text hmore
  | pass passed _ ih =>
      rw [byteSize_append, ← Nat.add_assoc] at hmore
      rw [List.append_assoc]
      exact .pass passed (ih hmore)
  | take piece _ ih =>
      rw [byteSize_append, ← Nat.add_assoc] at hmore
      rw [List.append_assoc]
      exact .take piece (ih hmore)

/-- No piece begins before the text. -/
theorem le_start (h : PiecesOf start text copies) : ∀ copy ∈ copies, start ≤ copy.start := by
  induction h with
  | nothing start text => simp
  | pass passed _ ih =>
      intro copy hcopy
      have := ih copy hcopy
      omega
  | take piece _ ih =>
      intro copy hcopy
      rcases List.mem_cons.mp hcopy with rfl | hcopy
      · exact Nat.le_refl _
      · have := ih copy hcopy
        omega

theorem pairwise (h : PiecesOf start text copies) :
    copies.Pairwise fun copy later => copy.stop ≤ later.start := by
  induction h with
  | nothing start text => exact List.Pairwise.nil
  | pass passed _ ih => exact ih
  | take piece hrest ih => exact List.pairwise_cons.mpr ⟨hrest.le_start, ih⟩

theorem byteSize_le (h : PiecesOf start text copies) :
    byteSize (copies.flatMap Copy.text) ≤ byteSize text := by
  induction h with
  | nothing start text => exact Nat.zero_le _
  | pass passed _ ih =>
      rw [byteSize_append]
      omega
  | take piece _ ih =>
      rw [List.flatMap_cons, byteSize_append, byteSize_append]
      exact Nat.add_le_add_left ih _

/-- Where the text stands in a longer one, each piece is what stands there between its
    offsets. -/
theorem slice (h : PiecesOf start text copies) (before after : Text)
    (hstart : byteSize before = start) :
    ∀ copy ∈ copies,
      slice? (before ++ (text ++ after)) copy.start copy.stop = some copy.text := by
  induction h generalizing before with
  | nothing start text => simp
  | pass passed _ ih =>
      intro copy hcopy
      have := ih (before ++ passed) (by rw [byteSize_append, hstart]) copy hcopy
      rw [List.append_assoc] at this ⊢
      exact this
  | take piece _ ih =>
      intro copy hcopy
      rw [List.append_assoc]
      rcases List.mem_cons.mp hcopy with rfl | hcopy
      · rw [Copy.stop, ← hstart]
        exact slice?_append before piece _
      · have := ih (before ++ piece) (by rw [byteSize_append, hstart]) copy hcopy
        rw [List.append_assoc] at this
        exact this

end PiecesOf

/-! ### What a run copies -/

/-- What is copied from lines of a source are pieces of their text, in order. -/
theorem piecesOf_resolveLines (settings : Settings) (source : Text) (defined : Text → Bool)
    (limit : Nat) (lines : List ScannedLine) :
    ∀ (depth : Nat) (before after : List ScannedLine),
      scan settings source = before ++ (lines ++ after) →
        PiecesOf (byteSize (scannedText before)) (scannedText lines)
          (copies (resolveLines defined limit depth lines)) := by
  induction lines using resolving_induction defined with
  | nil =>
      intro depth before after _
      rw [resolveLines]
      exact .nothing _ _
  | source scanned rest hreading ih =>
      intro depth before after hscan
      have hstart := (position_of_scan settings source before (rest ++ after) scanned hscan).2
      have hrest := ih depth (before ++ [scanned]) after (by rw [hscan]; simp)
      rw [scannedText_append, scannedText_cons, scannedText_nil, List.append_nil,
        byteSize_append] at hrest
      rw [copies, view_source _ Event.copies_of_isChoosing _ _ _ _ _ hreading, hstart]
      exact .take scanned.line.text hrest
  | refused scanned rest hnext =>
      intro depth before after _
      rw [copies, view_refused _ Event.copies_of_isChoosing _ _ _ _ _ hnext]
      exact .nothing _ _
  | broken scanned guard rest error hreading hskip =>
      intro depth before after _
      rw [copies, view_broken _ Event.copies_of_isChoosing _ _ _ _ guard _ error hreading hskip]
      exact .nothing _ _
  | dropped chain rest horder hnone ih =>
      intro depth before after hscan
      have hrest := ih depth (before ++ chain.lines) after (by rw [hscan]; simp)
      rw [scannedText_append, byteSize_append] at hrest
      rw [copies, view_of_not_chosen _ Event.copies_of_isChoosing defined limit depth horder rest
        hnone, scannedText_append]
      exact .pass (scannedText chain.lines) hrest
  | kept chain rest place horder hchosen ihBody ihRest =>
      intro depth before after hscan
      rcases chain.first.head.opens_cases chain.opens with ⟨guard, hguard⟩
      rcases view_of_chosen _ Event.copies_of_isChoosing defined limit depth horder rest guard
        hguard place hchosen with ⟨branch, hlines, hchoice, heq⟩
      rcases chain.exists_position settings defined source guard before rest after hscan branch
        hchoice with ⟨opener, closer, hcut, hstart, -⟩
      rw [hlines] at hcut
      have hbody := ihBody (depth + 1) (before ++ opener) (closer ++ (rest ++ after))
        (by rw [hscan, hcut]; simp)
      have hrest := ihRest depth (before ++ chain.lines) after (by rw [hscan]; simp)
      rw [scannedText_append before opener, byteSize_append] at hbody hstart
      rw [hcut] at hrest
      rw [copies, heq, hcut, ← scannedText_eq_flatMap, hstart]
      simp only [scannedText_append, List.append_assoc, byteSize_append, ← Nat.add_assoc] at hrest ⊢
      refine .pass (scannedText opener) ?_
      -- Behind the branch comes the rest of the chain, of which nothing is taken.
      have hbehind := PiecesOf.pass (scannedText closer) hrest
      split
      · split
        · exact .nothing _ _
        · rw [view_bind]
          refine hbody.append ?_
          split
          · exact hbehind
          · exact .nothing _ _
      · exact .take (scannedText place.clause.body) hbehind

/-- What stripping copies are stretches of the source, in order and without overlap, in
    success and in failure. At no point is more copied than the source is long, so what
    the output leaves of the source is no negative number of bytes. -/
theorem strip_copies_in_order (settings : Settings) (defined : Text → Bool) (source : Text) :
    (∀ copy ∈ copies (strip settings defined source),
        slice? source copy.start copy.stop = some copy.text) ∧
      (copies (strip settings defined source)).Pairwise
        (fun copy later => copy.stop ≤ later.start) ∧
      (∀ earlier copy later, copies (strip settings defined source) = earlier ++ copy :: later →
        byteSize (earlier.flatMap Copy.text) + byteSize copy.text ≤ byteSize source) ∧
      ∀ output, (strip settings defined source).outcome = .ok output →
        output = (copies (strip settings defined source)).flatMap Copy.text ∧
          byteSize output ≤ byteSize source := by
  have hpieces : PiecesOf 0 source (copies (strip settings defined source)) := by
    rw [copies, view_strip Event.copies settings defined source rfl fun _ _ => rfl]
    have h := piecesOf_resolveLines settings source defined settings.nestingLimit
      (scan settings source) 0 [] [] (by simp)
    rw [scannedText_scan] at h
    exact h
  have hsize := hpieces.byteSize_le
  refine ⟨?_, hpieces.pairwise, ?_, ?_⟩
  · have hslice := hpieces.slice [] [] rfl
    rw [List.nil_append, List.append_nil] at hslice
    exact hslice
  · -- What has been copied up to some point is part of all that is copied.
    intro earlier copy later heq
    rw [heq, List.flatMap_append, List.flatMap_cons, byteSize_append, byteSize_append] at hsize
    omega
  · intro output hrun
    have houtput : output = (copies (strip settings defined source)).flatMap Copy.text := by
      rw [((outcome_strip settings defined source output).mp hrun).2, output_eq_flatMap_copies,
        copies, copies, view_strip Event.copies settings defined source rfl fun _ _ => rfl]
    exact ⟨houtput, by rw [houtput]; exact hsize⟩

/-- A line, a kept branch with a chain in it, and one more line. The first character is
    two bytes long, and the branch is copied in two pieces. -/
theorem strip_copies_in_order_of_nested_chain :
    copies (strip {} (· == ['A'])
        "é\n#if A\nx\n#if B\n#else\ny\n#endif\n#elif A\n#endif\nz".toList) =
      [⟨0, "é\n".toList⟩, ⟨9, "x\n".toList⟩] ++ ⟨23, "y\n".toList⟩ :: [⟨47, "z".toList⟩] ∧
    (strip {} (· == ['A'])
        "é\n#if A\nx\n#if B\n#else\ny\n#endif\n#elif A\n#endif\nz".toList).outcome =
      .ok "é\nx\ny\nz".toList ∧
    slice? "é\n#if A\nx\n#if B\n#else\ny\n#endif\n#elif A\n#endif\nz".toList 23 25 =
      some "y\n".toList ∧
    byteSize "é\nx\n".toList + byteSize "y\n".toList ≤
      byteSize "é\n#if A\nx\n#if B\n#else\ny\n#endif\n#elif A\n#endif\nz".toList ∧
    byteSize "é\nx\ny\nz".toList ≤
      byteSize "é\n#if A\nx\n#if B\n#else\ny\n#endif\n#elif A\n#endif\nz".toList := by
  have hcopies : copies (strip {} (· == ['A'])
        "é\n#if A\nx\n#if B\n#else\ny\n#endif\n#elif A\n#endif\nz".toList) =
      [⟨0, "é\n".toList⟩, ⟨9, "x\n".toList⟩] ++ ⟨23, "y\n".toList⟩ :: [⟨47, "z".toList⟩] := by
    decide +kernel
  have hrun : (strip {} (· == ['A'])
        "é\n#if A\nx\n#if B\n#else\ny\n#endif\n#elif A\n#endif\nz".toList).outcome =
      .ok "é\nx\ny\nz".toList := by
    decide +kernel
  rcases strip_copies_in_order {} (· == ['A'])
    "é\n#if A\nx\n#if B\n#else\ny\n#endif\n#elif A\n#endif\nz".toList with
    ⟨hslice, -, hfits, houtput⟩
  exact ⟨hcopies, hrun, hslice ⟨23, "y\n".toList⟩ (by rw [hcopies]; simp), hfits _ _ _ hcopies,
    (houtput _ hrun).2⟩

end DirectiveStrip
