import DirectiveStrip.Proofs.Line.Joined
import DirectiveStrip.Proofs.Resolve.Reached

/-!
# Stripping Again

A text without conditional directives is stripped to itself, whatever symbols are
defined, and no symbol is looked up. The output of stripping is such a text, so
stripping it once more changes nothing.

The output is made of lines that were no directives, but it is split into lines anew,
and not always into the lines that were put out. It is enough that what its lines
contain is what lines of the source contained.

## Main definitions

* `IsPlain`: A text in which no line is a conditional directive.

## Theorems

* `resolveLines_of_isSource`, `asked_of_isSource`: Lines that are no directives are copied.
* `strip_of_isPlain`: Such a text is stripped to itself.
* `isPlain_of_sublist`: Putting together lines that are no directives gives such a text.
* `isPlain_of_strip`: The output of stripping is such a text.
* `strip_idempotent`: The output of stripping is stripped to itself.
-/

namespace DirectiveStrip

open Resolution

/-- No line of the text is a conditional directive, or wrong. -/
def IsPlain (settings : Settings) (text : Text) : Prop :=
  ∀ scanned ∈ scan settings text, scanned.isSource

instance (settings : Settings) (text : Text) : Decidable (IsPlain settings text) :=
  inferInstanceAs (Decidable (∀ scanned ∈ scan settings text, _))

theorem ScannedLine.isSource_iff (scanned : ScannedLine) :
    scanned.isSource ↔ scanned.reading = .ok .source := by
  unfold isSource
  split
  · next h => simp [h]
  · next h => exact iff_of_false Bool.false_ne_true h

/-! ### Plain texts -/

/-- Lines that are no directives are copied one by one. -/
theorem resolveLines_of_isSource (defined : Text → Bool) (limit depth : Nat)
    (lines : List ScannedLine) (h : ∀ scanned ∈ lines, scanned.isSource) :
    (resolveLines defined limit depth lines).outcome = .ok () ∧
      output (resolveLines defined limit depth lines) = lines.flatMap (·.line.text) := by
  induction lines with
  | nil =>
      rw [resolveLines]
      exact ⟨rfl, rfl⟩
  | cons scanned rest ih =>
      rcases ih fun other hmem => h other (List.mem_cons_of_mem _ hmem) with ⟨hrun, houtput⟩
      have hreading := scanned.isSource_iff.mp (h scanned List.mem_cons_self)
      rw [resolveLines_source _ _ _ _ _ hreading]
      refine ⟨hrun, ?_⟩
      rw [output_after, output_notes, output_after, List.flatMap_singleton, houtput,
        List.flatMap_cons]
      rfl

/-- Lines that are no directives have no guard, so no symbol is looked up. -/
theorem asked_of_isSource (defined : Text → Bool) (limit depth : Nat) (lines : List ScannedLine)
    (h : ∀ scanned ∈ lines, scanned.isSource) :
    asked (resolveLines defined limit depth lines) = [] := by
  have hnone : lines.flatMap (·.verdicts defined) = [] := by
    rw [List.flatMap_eq_nil_iff]
    intro scanned hmem
    rw [ScannedLine.verdicts, scanned.isSource_iff.mp (h scanned hmem)]
  have hsub := verdicts_resolveLines_sublist defined limit lines depth
  rw [hnone, List.sublist_nil] at hsub
  rw [asked_eq_flatMap_verdicts, hsub]
  rfl

/-- A text without directives is stripped to itself, and no symbol is looked up. -/
theorem strip_of_isPlain (settings : Settings) (defined : Text → Bool) (text : Text)
    (h : IsPlain settings text) :
    (strip settings defined text).outcome = .ok text ∧
      asked (strip settings defined text) = [] := by
  constructor
  · rcases resolveLines_of_isSource defined settings.nestingLimit 0 _ h with ⟨hrun, houtput⟩
    rw [outcome_strip]
    refine ⟨hrun, ?_⟩
    rw [houtput, ← scannedText_eq_flatMap, scannedText_scan]
  · have hnone := asked_of_isSource defined settings.nestingLimit 0 _ h
    rw [asked_eq_flatMap_verdicts] at hnone ⊢
    rw [verdicts_strip]
    exact hnone

/-! ### What is put out -/

/-- Lines of a source that are no directives make a text without directives, however
    they are split again. -/
theorem isPlain_of_sublist (settings : Settings) (source : Text) (kept : List ScannedLine)
    (hkept : kept.Sublist (scan settings source)) (hsource : ∀ scanned ∈ kept, scanned.isSource) :
    IsPlain settings (scannedText kept) := by
  have hlines : (scan settings source).map ScannedLine.line =
      splitLines settings.lineEnding 1 0 source := by
    rw [scan, scanFrom, List.map_map]
    exact List.map_id _
  have hstack : Stackable settings.lineEnding (kept.map ScannedLine.line) := by
    refine (stackable_splitLines settings.lineEnding 1 0 source _ rfl).sublist ?_
    rw [← hlines]
    exact hkept.map ScannedLine.line
  intro scanned hscanned
  rcases List.mem_map.mp hscanned with ⟨line, hline, rfl⟩
  -- The content of the line was that of a line that was kept, and was read as no directive.
  rcases List.mem_map.mp (hstack.content_mem 1 0 line hline) with ⟨same, hsame, hcontent⟩
  rcases List.mem_map.mp hsame with ⟨origin, horigin, rfl⟩
  rcases List.mem_map.mp (hkept.subset horigin) with ⟨before, -, hbefore⟩
  have hreading := origin.isSource_iff.mp (hsource origin horigin)
  rw [← hbefore] at hreading hcontent
  rw [ScannedLine.isSource_iff, Line.scan]
  dsimp only
  rw [← hcontent]
  exact hreading

theorem liveLines_sublist (defined : Text → Bool) (lines : List ScannedLine) :
    (liveLines defined lines).Sublist lines := by
  have h := (List.filter_sublist (p := fun line => line.1.isSource && IsLive defined lines line.2)
    (l := lines.zipIdx)).map Prod.fst
  rw [List.zipIdx_map_fst] at h
  exact h

theorem isSource_of_mem_liveLines (defined : Text → Bool) (lines : List ScannedLine)
    (scanned : ScannedLine) (h : scanned ∈ liveLines defined lines) : scanned.isSource := by
  rcases List.mem_map.mp h with ⟨line, hline, rfl⟩
  have := (List.mem_filter.mp hline).2
  rw [Bool.and_eq_true] at this
  exact this.1

/-- The output of stripping has no directive left, not even one that was discarded. -/
theorem isPlain_of_strip (settings : Settings) (defined : Text → Bool) (source output : Text)
    (h : (strip settings defined source).outcome = .ok output) : IsPlain settings output := by
  rcases (outcome_strip settings defined source output).mp h with ⟨hrun, rfl⟩
  have hbalanced := (balance_iff_balanced _).mp (balance_of_resolveLines defined _ 0 _ hrun)
  have hruns := resolveLines_runs defined settings.nestingLimit 0 (Nat.zero_le _) _ hbalanced
  have htext : Resolution.output
      (resolveLines defined settings.nestingLimit 0 (scan settings source)) =
        scannedText (liveLines defined (scan settings source)) := by
    rw [hruns.output_eq hrun, scannedText, lineText, List.flatMap_map]
  rw [htext]
  exact isPlain_of_sublist settings source _ (liveLines_sublist defined _)
    (isSource_of_mem_liveLines defined _)

/-- What stripping puts out is stripped to itself under any symbols, and none of them is
    looked up. -/
theorem strip_idempotent (settings : Settings) (defined defined' : Text → Bool)
    (source output : Text) (h : (strip settings defined source).outcome = .ok output) :
    (strip settings defined' output).outcome = .ok output ∧
      asked (strip settings defined' output) = [] :=
  strip_of_isPlain settings defined' output (isPlain_of_strip settings defined source output h)

/-- Of the lines that are kept, the first ends in a carriage return and the next is a line
    feed. In the output they are one line. -/
theorem strip_idempotent_of_joined_terminators :
    (strip {} (fun _ => false) "a\r#if A\nb\n#endif\n\nc".toList).outcome =
      .ok "a\r\nc".toList ∧
    (scan {} "a\r\nc".toList).map (·.line.text) = ["a\r\n".toList, "c".toList] ∧
    (strip {} (fun _ => true) "a\r\nc".toList).outcome = .ok "a\r\nc".toList :=
  ⟨by decide +kernel, by decide +kernel,
    (strip_idempotent {} (fun _ => false) (fun _ => true) "a\r#if A\nb\n#endif\n\nc".toList _
      (by decide +kernel)).1⟩

end DirectiveStrip
