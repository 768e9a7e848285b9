import DirectiveStrip.Proofs.Resolve.Output

/-!
# Reading from the Front

Stripping any lines, balanced or not, goes from the front. In front there is a line
that is no directive, or a chain that can be read through and is in order, and then
the same is asked of what follows. Otherwise something is wrong at the front already:
a line is refused, or an `#if` has a chain that cannot be read through.

Which of these it is does not depend on any guard. So there is one induction over the
lines for everything that stripping does, in success and in failure, and the guards
only decide which branch of a chain is resolved on the way.

## Theorems

* `exists_chain_of_skipChain`: A chain that can be read through is in order.
* `reading_induction`: Induction on lines as they are read.
* `resolving_induction`: Induction on lines as they are resolved.
* `resolveLines_broken`: A chain that cannot be read through ends everything.
* `Chain.resolveLines_of_not_chosen`, `Chain.resolveLines_of_chosen`: The step over a
  chain.
* `Chain.outcome_of_not_chosen`, `Chain.outcome_of_chosen`: What becomes of that step.
* `Resolution.view_of_not_chosen`, `Resolution.view_of_chosen`: What is seen of it, to a
  look that sees nothing of choosing.
-/

namespace DirectiveStrip

/-! ### Chains that can be read through -/

theorem exists_chain_of_skipChain (opening : ScannedLine) (hopens : opening.opens)
    (lines rest : List ScannedLine)
    (h : (skipChain opening.line false 0 lines).outcome = .ok rest) :
    ∃ chain : Chain, chain.first.head = opening ∧ chain.InOrder ∧
      lines = chain.behind ++ rest := by
  rcases walked_of_skipChain opening.line false 0 lines rest h with ⟨walked, rfl, hwalked⟩
  rcases exists_clauses_of_balance walked hwalked with
    ⟨body, later, closing, tail, rfl, hbody, hlater, hclose, -⟩
  -- The walk stops at the first `#endif` of the chain, so nothing is left behind it.
  rw [List.append_assoc, List.append_assoc, List.cons_append,
    skipChain_append opening.line _ 0 0 _ _ ((balance_iff_balanced body).mpr hbody),
    skipChain_clauses opening.line closing hclose _ later false hlater] at h
  rcases h with ⟨horder, hrest⟩
  have htail : tail = [] := List.append_left_eq_self.mp hrest.symm
  have hbalanced (clause : Clause) (hclause : clause ∈ ⟨opening, body⟩ :: later) :
      Balanced clause.body := by
    rcases List.mem_cons.mp hclause with rfl | hclause
    · exact hbody
    · exact (hlater clause hclause).2
  refine ⟨⟨⟨opening, body⟩, later, closing, hopens, fun clause hmem => (hlater clause hmem).1,
    hclose, hbalanced⟩, rfl, ?_, ?_⟩
  · exact (Chain.inOrderBehind_later_iff _).mp horder
  · simp [Chain.behind, htail]

/-- Induction on lines as they are read from the front, and on the branches of every
    chain that is read through. -/
@[elab_as_elim]
theorem reading_induction {motive : List ScannedLine → Prop} (nil : motive [])
    (source : ∀ scanned rest, scanned.reading = .ok .source → motive rest →
      motive (scanned :: rest))
    (refused : ∀ scanned rest, scanned.next 0 = none → motive (scanned :: rest))
    (broken : ∀ scanned guard rest error, scanned.reading = .ok (.ifLine guard) →
      (skipChain scanned.line false 0 rest).outcome = .error error → motive (scanned :: rest))
    (chain : ∀ (chain : Chain) rest, chain.InOrder →
      (∀ clause ∈ chain.clauses, motive clause.body) → motive rest →
      motive (chain.lines ++ rest))
    (lines : List ScannedLine) : motive lines := by
  -- On the number of lines, since neither a branch nor what follows a chain is a tail.
  induction hlen : lines.length using Nat.strong_induction_on generalizing lines with
  | _ n ih =>
      cases lines with
      | nil => exact nil
      | cons scanned rest =>
          rw [List.length_cons] at hlen
          rcases hnext : scanned.next 0 with _ | count
          · exact refused scanned rest hnext
          · rcases scanned.next_zero_cases count hnext with ⟨hreading, -⟩ | ⟨guard, hreading, -⟩
            · exact source scanned rest hreading (ih rest.length (by omega) rest rfl)
            · rcases hskip : (skipChain scanned.line false 0 rest).outcome with error | tail
              · exact broken scanned guard rest error hreading hskip
              · have hopens : scanned.opens := by
                  rw [ScannedLine.opens, hreading]
                rcases exists_chain_of_skipChain scanned hopens rest tail hskip with
                  ⟨found, rfl, horder, rfl⟩
                rw [← List.cons_append, ← found.lines_eq_cons]
                have htotal := congrArg List.length found.lines_eq_cons
                rw [List.length_cons] at htotal
                rw [List.length_append] at hlen
                refine chain found tail horder ?_ (ih tail.length (by omega) tail rfl)
                intro clause hclause
                have hlt := found.length_body_lt clause hclause
                exact ih clause.body.length (by omega) clause.body rfl

/-- Induction on lines as a run under some symbols resolves them. A chain is dropped, or one
    of its branches is kept and resolved. -/
@[elab_as_elim]
theorem resolving_induction (defined : Text → Bool) {motive : List ScannedLine → Prop}
    (nil : motive [])
    (source : ∀ scanned rest, scanned.reading = .ok .source → motive rest →
      motive (scanned :: rest))
    (refused : ∀ scanned rest, scanned.next 0 = none → motive (scanned :: rest))
    (broken : ∀ scanned guard rest error, scanned.reading = .ok (.ifLine guard) →
      (skipChain scanned.line false 0 rest).outcome = .error error → motive (scanned :: rest))
    (dropped : ∀ (chain : Chain) rest, chain.InOrder →
      (∀ place : chain.Place, ¬ place.Chosen defined) → motive rest → motive (chain.lines ++ rest))
    (kept : ∀ (chain : Chain) rest (place : chain.Place), chain.InOrder → place.Chosen defined →
      motive place.clause.body → motive rest → motive (chain.lines ++ rest))
    (lines : List ScannedLine) : motive lines := by
  induction lines using reading_induction with
  | nil => exact nil
  | source scanned rest hreading ih => exact source scanned rest hreading ih
  | refused scanned rest hnext => exact refused scanned rest hnext
  | broken scanned guard rest error hreading hskip =>
      exact broken scanned guard rest error hreading hskip
  | chain chain rest horder ihBody ihRest =>
      by_cases hchosen : ∃ place : chain.Place, place.Chosen defined
      · rcases hchosen with ⟨place, hchosen⟩
        exact kept chain rest place horder hchosen (ihBody place.clause place.mem) ihRest
      · exact dropped chain rest horder (fun place hplace => hchosen ⟨place, hplace⟩) ihRest

/-! ### Resolving what is in front -/

section Steps

variable (defined : Text → Bool) (limit depth : Nat)

/-- A chain that cannot be read through ends everything, whichever branch would be kept. -/
theorem resolveLines_broken (scanned : ScannedLine) (guard : Guard) (rest : List ScannedLine)
    (error : DirectiveError) (hreading : scanned.reading = .ok (.ifLine guard))
    (h : (skipChain scanned.line false 0 rest).outcome = .error error) :
    resolveLines defined limit depth (scanned :: rest) =
      .after scanned.notes
        ⟨(chooseBranch defined scanned.line guard rest).events, .error error⟩ := by
  rw [← rest_chooseBranch defined scanned.line guard rest] at h
  rcases hchoice : (chooseBranch defined scanned.line guard rest).outcome with error' | selection
  · rw [hchoice] at h
    cases h
    exact resolveLines_error defined limit depth scanned rest guard hreading error hchoice
  · rw [hchoice] at h
    cases h

namespace Chain

variable {chain : Chain} (horder : chain.InOrder) (guard : Guard)
  (hguard : chain.first.head.reading = .ok (.ifLine guard)) (rest : List ScannedLine)

include horder hguard

/-- Choosing on a chain in order succeeds and keeps the branch that is found first. -/
theorem exists_selection (defined : Text → Bool) :
    ∃ selection,
      (chooseBranch defined chain.first.head.line guard (chain.behind ++ rest)).outcome =
          .ok selection ∧
        selection.Keeps ((chain.clauses.find? (·.takes defined)).map Clause.body) rest := by
  have hyields := chain.chooseBranch_yields defined guard hguard (chain.behind ++ rest) rest (by
    rw [← List.cons_append, ← lines_eq_cons])
  rcases hyields.complete horder with ⟨selection, hselection⟩
  exact ⟨selection, hselection, (hyields.sound selection hselection).2⟩

/-- A chain of which no branch is kept leaves what follows. -/
theorem resolveLines_of_not_chosen (hnone : ∀ place : chain.Place, ¬ place.Chosen defined) :
    resolveLines defined limit depth (chain.lines ++ rest) =
      .after chain.first.head.notes
        (.after (chooseBranch defined chain.first.head.line guard (chain.behind ++ rest)).events
          (resolveLines defined limit depth rest)) := by
  rcases exists_selection horder guard hguard rest defined with
    ⟨⟨branch?, tail⟩, hchoice, rfl, hkept, -⟩
  rw [find?_eq_none_of_not_chosen defined hnone, Option.map_none, Option.map_eq_none_iff] at hkept
  dsimp only at hkept
  subst hkept
  rw [lines_eq_cons, List.cons_append]
  exact resolveLines_none defined limit depth _ _ guard hguard tail hchoice

/-- A chain of which a branch is kept leaves the branch, and then what follows. -/
theorem resolveLines_of_chosen (place : chain.Place) (hchosen : place.Chosen defined) :
    ∃ branch : Branch, branch.lines = place.clause.body ∧
      (chooseBranch defined chain.first.head.line guard (chain.behind ++ rest)).outcome =
        .ok ⟨some branch, rest⟩ ∧
      resolveLines defined limit depth (chain.lines ++ rest) =
        .after chain.first.head.notes
          (.after (chooseBranch defined chain.first.head.line guard (chain.behind ++ rest)).events
            (.after [.keeping branch.start branch.stop chain.first.head.line.number]
              (if place.clause.body.any ScannedLine.opens then
                if limit ≤ depth then .fail (chain.first.head.line.error (.nestingTooDeep limit))
                else
                  .after [.resolving (depth + 1) branch.start branch.stop branch.firstLine]
                    ((resolveLines defined limit (depth + 1) place.clause.body).bind fun () =>
                      resolveLines defined limit depth rest)
              else
                .after [.copied branch.start (place.clause.body.flatMap (·.line.text))]
                  (resolveLines defined limit depth rest)))) := by
  rcases exists_selection horder guard hguard rest defined with
    ⟨⟨branch?, tail⟩, hchoice, rfl, hkept, hopens⟩
  rw [find?_eq_some_of_chosen defined place hchosen, Option.map_some,
    Option.map_eq_some_iff] at hkept
  rcases hkept with ⟨branch, hbranch, hlines⟩
  dsimp only at hbranch hopens hchoice
  subst hbranch
  refine ⟨branch, hlines, hchoice, ?_⟩
  rw [lines_eq_cons, List.cons_append,
    resolveLines_some defined limit depth _ _ guard hguard branch tail hchoice,
    hopens branch rfl, hlines]

omit hguard

theorem outcome_of_not_chosen (hnone : ∀ place : chain.Place, ¬ place.Chosen defined) :
    (resolveLines defined limit depth (chain.lines ++ rest)).outcome =
      (resolveLines defined limit depth rest).outcome := by
  rcases chain.first.head.opens_cases chain.opens with ⟨guard, hguard⟩
  rw [resolveLines_of_not_chosen defined limit depth horder guard hguard rest hnone]
  rfl

theorem outcome_of_chosen (place : chain.Place) (hchosen : place.Chosen defined) :
    (resolveLines defined limit depth (chain.lines ++ rest)).outcome =
      if place.clause.body.any ScannedLine.opens then
        if limit ≤ depth then .error (chain.first.head.line.error (.nestingTooDeep limit))
        else
          (resolveLines defined limit (depth + 1) place.clause.body).outcome.bind fun () =>
            (resolveLines defined limit depth rest).outcome
      else (resolveLines defined limit depth rest).outcome := by
  rcases chain.first.head.opens_cases chain.opens with ⟨guard, hguard⟩
  rcases resolveLines_of_chosen defined limit depth horder guard hguard rest place hchosen with
    ⟨branch, -, -, heq⟩
  rw [heq]
  simp only [Trace.outcome_after]
  split
  · split
    · rfl
    · rw [Trace.outcome_after, Trace.outcome_bind]
  · rfl

end Chain

end Steps

/-! ### What is seen of what is in front -/

namespace Resolution

section View

variable {γ : Type} (look : Event → List γ)
  (hlook : ∀ event : Event, event.isChoosing → look event = []) (defined : Text → Bool)
  (limit depth : Nat)

include hlook

theorem view_after_notes {α : Type} (scanned : ScannedLine) (resolution : Resolution α) :
    view look (resolution.after scanned.notes) = view look resolution :=
  view_after_nil look _ _
    (flatMap_notes look (fun event hnote => hlook event (event.isChoosing_of_isNote hnote)) scanned)

theorem view_after_choice {α : Type} (opening : Line) (guard : Guard) (lines : List ScannedLine)
    (resolution : Resolution α) :
    view look (resolution.after (chooseBranch defined opening guard lines).events) =
      view look resolution :=
  view_after_nil look _ _
    (view_eq_nil look _ _ (only_chooseBranch defined opening guard lines) hlook)

theorem view_source (scanned : ScannedLine) (rest : List ScannedLine)
    (h : scanned.reading = .ok .source) :
    view look (resolveLines defined limit depth (scanned :: rest)) =
      look (.copied scanned.line.start scanned.line.text) ++
        view look (resolveLines defined limit depth rest) := by
  rw [resolveLines_source _ _ _ _ _ h, view_after_notes look hlook, view_after,
    List.flatMap_singleton]

theorem view_refused (scanned : ScannedLine) (rest : List ScannedLine)
    (h : scanned.next 0 = none) :
    view look (resolveLines defined limit depth (scanned :: rest)) = [] := by
  rw [resolveLines_refused _ _ _ _ _ h, view_after_notes look hlook]
  rfl

theorem view_broken (scanned : ScannedLine) (guard : Guard) (rest : List ScannedLine)
    (error : DirectiveError) (hreading : scanned.reading = .ok (.ifLine guard))
    (h : (skipChain scanned.line false 0 rest).outcome = .error error) :
    view look (resolveLines defined limit depth (scanned :: rest)) = [] := by
  rw [resolveLines_broken defined limit depth scanned guard rest error hreading h,
    view_after_notes look hlook]
  exact view_eq_nil look _ _ (only_chooseBranch defined scanned.line guard rest) hlook

variable {chain : Chain} (horder : chain.InOrder) (rest : List ScannedLine)

include horder

theorem view_of_not_chosen (hnone : ∀ place : chain.Place, ¬ place.Chosen defined) :
    view look (resolveLines defined limit depth (chain.lines ++ rest)) =
      view look (resolveLines defined limit depth rest) := by
  rcases chain.first.head.opens_cases chain.opens with ⟨guard, hguard⟩
  rw [chain.resolveLines_of_not_chosen defined limit depth horder guard hguard rest hnone,
    view_after_notes look hlook, view_after_choice look hlook]

theorem view_of_chosen (guard : Guard) (hguard : chain.first.head.reading = .ok (.ifLine guard))
    (place : chain.Place) (hchosen : place.Chosen defined) :
    ∃ branch : Branch, branch.lines = place.clause.body ∧
      (chooseBranch defined chain.first.head.line guard (chain.behind ++ rest)).outcome =
        .ok ⟨some branch, rest⟩ ∧
      view look (resolveLines defined limit depth (chain.lines ++ rest)) =
        look (.keeping branch.start branch.stop chain.first.head.line.number) ++
          if place.clause.body.any ScannedLine.opens then
            if limit ≤ depth then []
            else
              look (.resolving (depth + 1) branch.start branch.stop branch.firstLine) ++
                view look ((resolveLines defined limit (depth + 1) place.clause.body).bind fun () =>
                  resolveLines defined limit depth rest)
          else
            look (.copied branch.start (place.clause.body.flatMap (·.line.text))) ++
              view look (resolveLines defined limit depth rest) := by
  rcases chain.resolveLines_of_chosen defined limit depth horder guard hguard rest place hchosen
    with ⟨branch, hlines, hchoice, heq⟩
  refine ⟨branch, hlines, hchoice, ?_⟩
  rw [heq, view_after_notes look hlook, view_after_choice look hlook, view_after,
    List.flatMap_singleton]
  congr 1
  split
  · split
    · rfl
    · rw [view_after, List.flatMap_singleton]
  · rw [view_after, List.flatMap_singleton]

end View

end Resolution

end DirectiveStrip
