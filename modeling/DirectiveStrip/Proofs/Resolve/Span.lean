import DirectiveStrip.Proofs.Line.Span
import DirectiveStrip.Proofs.Resolve.Clause
import DirectiveStrip.Proofs.Resolve.Walk

/-!
# Branches as Stretches of the Source

A kept branch is handed on as lines, and reported as a stretch of the source by
two offsets and a line number. Both say the same. The branch stands behind the
directive that begins it and in front of the one that ends it, so reading the
reported stretch again gives the lines that are handed on.

This is said of any lines that stand in a row in the source. The lines of the
branch do so as well, which is why it holds at every depth. The branch also stands
in front of everything that is left behind its chain, and so what is done with the
branch comes before what is done with the rest, in the source as in the run.

## Main definitions

* `Branch.StandsIn`: A branch is part of some lines, and reported where it is.
* `Selection.Cuts`: The branch is among the lines that were walked.

## Theorems

* `cuts_of_chooseBranch`: A chosen branch is part of the lines of its chain.
* `Branch.StandsIn.position`: Where a branch is in the source.
* `position_of_chooseBranch`: A chosen branch is reported at its place in the source.
* `span_of_chooseBranch`: Reading the reported stretch gives the branch.
* `Chain.exists_position`: Where the branch of a chain is.
-/

namespace DirectiveStrip

/-- A branch is part of some lines, between two directives, and it is reported by the
    offsets and the number that these give. -/
def Branch.StandsIn (branch : Branch) (lines : List ScannedLine) : Prop :=
  ∃ before head closing after, lines = before ++ head :: (branch.lines ++ closing :: after) ∧
    branch.start = head.line.stop ∧ branch.stop = closing.line.start ∧
    branch.firstLine = head.line.number + 1

theorem Branch.StandsIn.cons {branch : Branch} {lines : List ScannedLine}
    (h : branch.StandsIn lines) (scanned : ScannedLine) : branch.StandsIn (scanned :: lines) := by
  rcases h with ⟨before, head, closing, after, rfl, hreport⟩
  exact ⟨scanned :: before, head, closing, after, rfl, hreport⟩

/-- Collecting takes lines apart and loses none. -/
theorem lines_of_collectBody (opening : Line) (nested : Nat) (lines : List ScannedLine)
    (body : BranchBody) (h : (collectBody opening nested lines).outcome = .ok body) :
    lines = body.lines ++ body.closing :: body.rest := by
  induction lines generalizing nested body with
  | nil => cases h
  | cons scanned tail ih =>
      rcases hnext : scanned.next nested with _ | nested'
      · rcases scanned.refused_cases nested hnext with ⟨fault, hreading⟩ | ⟨rfl, hkind⟩
        · rw [collectBody, Trace.outcome_after, hreading] at h
          cases h
        · rw [collectBody_closing _ _ _ hkind] at h
          cases h
          rfl
      · rw [collectBody_cons _ _ _ _ _ hnext] at h
        rcases hinner : (collectBody opening nested' tail).outcome with error | inner
        · rw [hinner] at h
          cases h
        · rw [hinner] at h
          cases h
          rw [ih nested' inner hinner]
          rfl

/-- A selection cuts lines in two: those that were walked, with the branch among them, and
    those behind the chain. -/
def Selection.Cuts (selection : Selection) (lines : List ScannedLine) : Prop :=
  ∃ walked, lines = walked ++ selection.rest ∧
    ∀ branch ∈ selection.branch?, branch.StandsIn walked

theorem Selection.Cuts.cons {selection : Selection} {lines : List ScannedLine}
    (h : selection.Cuts lines) (scanned : ScannedLine) : selection.Cuts (scanned :: lines) := by
  rcases h with ⟨walked, rfl, hbranch⟩
  exact ⟨scanned :: walked, rfl, fun branch hmem => (hbranch branch hmem).cons scanned⟩

theorem cuts_of_takeBranch (opening : Line) (head : ScannedLine) (afterElse : Bool)
    (lines : List ScannedLine) (selection : Selection)
    (h : (takeBranch opening head.line afterElse lines).outcome = .ok selection) :
    selection.Cuts (head :: lines) := by
  rw [takeBranch] at h
  rcases Trace.outcome_bind_eq_ok h with ⟨body, hbody, h⟩
  have hlines := lines_of_collectBody opening 0 lines body hbody
  -- However the walk ends, the branch is reported by the two lines around it.
  have hcuts (skipped rest : List ScannedLine) (hrest : body.rest = skipped ++ rest) :
      Selection.Cuts
        ⟨some { start := head.line.stop, stop := body.closing.line.start
                firstLine := head.line.number + 1
                lines := body.lines, opensChain := body.opensChain }, rest⟩
        (head :: lines) := by
    refine ⟨head :: (body.lines ++ body.closing :: skipped), by simp [hlines, hrest], ?_⟩
    intro branch hbranch
    cases hbranch
    exact ⟨[], head, body.closing, skipped, rfl, rfl, rfl, rfl⟩
  have hskip (afterElse : Bool) (rest : List ScannedLine)
      (hrest : (skipChain opening afterElse 0 body.rest).outcome = .ok rest) :
      ∃ skipped, body.rest = skipped ++ rest := by
    rcases walked_of_skipChain opening afterElse 0 body.rest rest hrest with ⟨skipped, heq, -⟩
    exact ⟨skipped, heq⟩
  dsimp only at h
  split at h
  · split at h
    · cases h
    · rcases Trace.outcome_map_eq_ok h with ⟨rest, hrest, rfl⟩
      rcases hskip false rest hrest with ⟨skipped, heq⟩
      exact hcuts skipped rest heq
  · split at h
    · cases h
    · rcases Trace.outcome_map_eq_ok h with ⟨rest, hrest, rfl⟩
      rcases hskip true rest hrest with ⟨skipped, heq⟩
      exact hcuts skipped rest heq
  · cases h
    exact hcuts [] body.rest rfl

theorem cuts_of_findBranch (defined : Text → Bool) (opening : Line) (nested : Nat)
    (lines : List ScannedLine) (selection : Selection)
    (h : (findBranch defined opening nested lines).outcome = .ok selection) :
    selection.Cuts lines := by
  induction lines generalizing nested with
  | nil => cases h
  | cons scanned tail ih =>
      rcases hnext : scanned.next nested with _ | nested'
      · rcases scanned.refused_cases nested hnext with ⟨fault, hreading⟩ | ⟨rfl, hsep | hclose⟩
        · rw [findBranch, Trace.outcome_after, hreading] at h
          cases h
        · rw [findBranch_separator _ _ _ _ hsep] at h
          split at h
          · exact cuts_of_takeBranch opening scanned _ tail selection h
          · exact (ih 0 h).cons scanned
        · rw [findBranch_closing _ _ _ _ hclose] at h
          cases h
          exact ⟨[scanned], rfl, by simp⟩
      · rw [findBranch_cons _ _ _ _ _ _ hnext] at h
        exact (ih nested' h).cons scanned

theorem cuts_of_chooseBranch (defined : Text → Bool) (scanned : ScannedLine) (guard : Guard)
    (lines : List ScannedLine) (selection : Selection)
    (h : (chooseBranch defined scanned.line guard lines).outcome = .ok selection) :
    selection.Cuts (scanned :: lines) := by
  rw [chooseBranch, Trace.outcome_after] at h
  split at h
  · exact cuts_of_takeBranch scanned.line scanned false lines selection h
  · exact (cuts_of_findBranch defined _ 0 lines selection h).cons scanned

/-! ### Where a branch is in a source -/

/-- A branch among lines of a source is reported at the offsets and the number that it
    has in the source. -/
theorem Branch.StandsIn.position (settings : Settings) (source : Text)
    (before lines after : List ScannedLine) (h : scan settings source = before ++ (lines ++ after))
    (branch : Branch) (hbranch : branch.StandsIn lines) :
    ∃ opener closer, lines = opener ++ (branch.lines ++ closer) ∧
      branch.start = byteSize (scannedText (before ++ opener)) ∧
      branch.stop = byteSize (scannedText (before ++ opener)) +
        byteSize (scannedText branch.lines) ∧
      branch.firstLine = (before ++ opener).length + 1 := by
  rcases hbranch with ⟨skipped, head, closing, rest, rfl, hstart, hstop, hnumber⟩
  -- The positions of the two directives around the branch give those of the branch.
  have hhead : scan settings source =
      (before ++ skipped) ++ head :: (branch.lines ++ closing :: (rest ++ after)) := by
    rw [h]
    simp
  have hclosing : scan settings source =
      (before ++ (skipped ++ [head]) ++ branch.lines) ++ closing :: (rest ++ after) := by
    rw [h]
    simp
  have hheadAt := position_of_scan settings source _ _ head hhead
  have hclosingAt := position_of_scan settings source _ _ closing hclosing
  -- The branch begins where its head ends, terminator included.
  have hbytes : byteSize (scannedText (before ++ (skipped ++ [head]))) =
      byteSize (scannedText (before ++ skipped)) + byteSize head.line.text := by
    rw [← List.append_assoc, scannedText_append, byteSize_append]
    simp [scannedText, lineText]
  refine ⟨skipped ++ [head], closing :: rest, by simp, ?_, ?_, ?_⟩
  · rw [hstart, Line.stop, hheadAt.2, hbytes]
  · rw [hstop, hclosingAt.2, scannedText_append, byteSize_append]
  · rw [hnumber, hheadAt.1]
    simp only [List.length_append, List.length_singleton, Nat.add_assoc]

section Chosen

variable (settings : Settings) (defined : Text → Bool) (source : Text)
  (before lines after : List ScannedLine) (scanned : ScannedLine) (guard : Guard)
  (h : scan settings source = before ++ (scanned :: lines ++ after)) (branch : Branch)
  (rest : List ScannedLine)
  (hchoice : (chooseBranch defined scanned.line guard lines).outcome = .ok ⟨some branch, rest⟩)

include h hchoice

/-- A chosen branch consists of lines of the source, and is reported at their place. -/
theorem position_of_chooseBranch :
    ∃ earlier later, scan settings source = earlier ++ (branch.lines ++ later) ∧
      branch.start = byteSize (scannedText earlier) ∧
      branch.stop = byteSize (scannedText earlier) + byteSize (scannedText branch.lines) ∧
      branch.firstLine = earlier.length + 1 := by
  rcases cuts_of_chooseBranch defined scanned guard lines _ hchoice with ⟨walked, hwalked, hstands⟩
  rw [hwalked, List.append_assoc] at h
  rcases (hstands branch rfl).position settings source before walked _ h with
    ⟨opener, closer, rfl, hposition⟩
  exact ⟨before ++ opener, closer ++ (rest ++ after), by rw [h]; simp, hposition⟩

/-- Reading the stretch that is reported for a chosen branch gives the lines of the
    branch, and cutting it out gives their text. -/
theorem span_of_chooseBranch :
    (scanSpan settings source branch.start branch.stop branch.firstLine).lines? =
        some branch.lines ∧
      slice? source branch.start branch.stop = some (scannedText branch.lines) := by
  rcases position_of_chooseBranch settings defined source before lines after scanned guard h branch
    rest hchoice with ⟨earlier, later, hscan, hstart, hstop, hnumber⟩
  -- The reported stretch is the one between the lines before the branch and those behind.
  rw [hstart, hstop, hnumber]
  refine ⟨scanSpan_of_scan settings source earlier branch.lines later hscan, ?_⟩
  rw [(scanFrom_part settings 1 0 source earlier branch.lines later hscan).2]
  exact slice?_append _ _ _

end Chosen

/-- Where the branch of a chain is in the source: it is a stretch of the lines of the
    chain. -/
theorem Chain.exists_position (settings : Settings) (defined : Text → Bool) (source : Text)
    (chain : Chain) (guard : Guard) (before rest after : List ScannedLine)
    (h : scan settings source = before ++ (chain.lines ++ rest ++ after)) (branch : Branch)
    (hchoice : (chooseBranch defined chain.first.head.line guard (chain.behind ++ rest)).outcome =
      .ok ⟨some branch, rest⟩) :
    ∃ opener closer, chain.lines = opener ++ (branch.lines ++ closer) ∧
      branch.start = byteSize (scannedText (before ++ opener)) ∧
      branch.stop = byteSize (scannedText (before ++ opener)) +
        byteSize (scannedText branch.lines) ∧
      branch.firstLine = (before ++ opener).length + 1 := by
  rcases cuts_of_chooseBranch defined chain.first.head guard _ _ hchoice with
    ⟨walked, hwalked, hstands⟩
  -- What was walked is the chain, so the branch stands in it.
  rw [← List.cons_append, ← chain.lines_eq_cons] at hwalked
  have hchain : chain.lines = walked := List.append_cancel_right hwalked
  subst hchain
  rw [List.append_assoc] at h
  exact (hstands branch rfl).position settings source before _ _ h

end DirectiveStrip
