import DirectiveStrip.Proofs.Line.Span
import DirectiveStrip.Proofs.Resolve.Outline
import Mathlib.Data.List.Flatten

/-!
# Which Guards a Run Evaluates

A guard is evaluated where a branch is chosen: that of the `#if`, and those of its
`#elif`s as long as none has held. The lines of the branch that is chosen are read
again when it is resolved, but choosing has passed over them without a look at their
guards, and it has stopped looking before the lines behind them. So each line has its
guard evaluated once at most, and the order is that of the lines.

That is said of every run by one word. The verdicts of a run are a sublist of those
that its lines would give one after another. It holds of failing runs as well, where
the sublist just ends early.

## Main definitions

* `Verdict`: A guard that was evaluated.
* `Resolution.verdicts`: The guards that were evaluated, in order.
* `ScannedLine.verdicts`: The verdict that a line would give.
* `Guard.lookUps`: The symbols that a guard asks for, from left to right.
* `searched`: The clauses that the search for a branch comes to.

## Theorems

* `Guard.asked_evaluate`: Evaluating a guard asks for its look-ups.
* `asked_eq_flatMap_verdicts`: The look-ups of a run are those of its guards.
* `mem_searched_iff`: Where the search comes to.
* `Chain.verdicts_chooseBranch`: The guards that are evaluated to choose a branch.
* `Chain.verdicts_of_not_chosen`, `Chain.verdicts_of_chosen`: The step over a chain.
* `verdicts_resolveLines_sublist`: The verdicts of a run are in the order of the lines.
-/

namespace DirectiveStrip

/-- A guard that was evaluated: the number of its line, and what came of it. -/
structure Verdict where
  line : Nat
  guard : Guard
  evaluation : Evaluation
deriving DecidableEq, Repr

/-- The verdict of an event, if it is one. -/
def Event.verdicts : Event → List Verdict
  | evaluated _ line guard evaluation => [⟨line, guard, evaluation⟩]
  | _ => []

theorem Event.verdicts_of_isNote (event : Event) (h : event.isNote) : event.verdicts = [] := by
  cases event with
  | evaluated directive line guard evaluation => cases h
  | _ => rfl

/-- The verdict that a line gives when its guard is evaluated. -/
def ScannedLine.verdicts (defined : Text → Bool) (scanned : ScannedLine) : List Verdict :=
  match scanned.reading with
  | .ok (.ifLine guard) | .ok (.elifLine guard) =>
    [⟨scanned.line.number, guard, guard.evaluate defined⟩]
  | _ => []

namespace Resolution

variable {α β : Type}

/-- The guards that were evaluated, in order. -/
def verdicts (resolution : Resolution α) : List Verdict :=
  view Event.verdicts resolution

theorem verdicts_after (events : List Event) (resolution : Resolution α) :
    verdicts (resolution.after events) = events.flatMap Event.verdicts ++ verdicts resolution :=
  view_after Event.verdicts events resolution

theorem verdicts_after_silent (event : Event) (h : event.verdicts = [])
    (resolution : Resolution α) : verdicts (resolution.after [event]) = verdicts resolution := by
  rw [verdicts_after, List.flatMap_singleton, h, List.nil_append]

theorem verdicts_bind (resolution : Resolution α) (next : α → Resolution β) :
    verdicts (resolution.bind next) =
      verdicts resolution ++
        match resolution.outcome with
        | .ok value => verdicts (next value)
        | .error _ => [] :=
  view_bind Event.verdicts resolution next

end Resolution

open Resolution

/-! ### Look-ups -/

namespace Guard

/-- The symbols that the value of a guard depends on, from left to right. The right
    operand of an operator counts only if the left one leaves the value open. -/
def lookUps (defined : Text → Bool) : Guard → List Text
  | symbol name => [name]
  | not operand => operand.lookUps defined
  | and left right =>
    left.lookUps defined ++ if left.holds defined then right.lookUps defined else []
  | or left right =>
    left.lookUps defined ++ if left.holds defined then [] else right.lookUps defined

theorem asked_evaluate (defined : Text → Bool) (guard : Guard) :
    (guard.evaluate defined).asked = guard.lookUps defined := by
  induction guard with
  | symbol name => rfl
  | not operand ih => exact ih
  | and left right ihLeft ihRight =>
      unfold evaluate lookUps holds
      by_cases hleft : (left.evaluate defined).value <;> simp [hleft, ihLeft, ihRight]
  | or left right ihLeft ihRight =>
      unfold evaluate lookUps holds
      by_cases hleft : (left.evaluate defined).value <;> simp [hleft, ihLeft, ihRight]

end Guard

/-- The look-ups of a run are those of the guards that it evaluates. -/
theorem asked_eq_flatMap_verdicts {α : Type} (resolution : Resolution α) :
    asked resolution = (verdicts resolution).flatMap (·.evaluation.asked) := by
  have hevent (event : Event) :
      event.asked = event.verdicts.flatMap (·.evaluation.asked) := by
    cases event with
    | evaluated directive line guard evaluation => exact (List.append_nil _).symm
    | _ => rfl
  unfold asked verdicts view
  rw [List.flatMap_assoc, ← funext hevent]

/-! ### The verdicts of the walks -/

section Walks

variable (defined : Text → Bool) (opening : Line)

theorem verdicts_evaluated (directive : GuardedDirective) (line : Nat) (guard : Guard)
    (evaluation : Evaluation) :
    [Event.evaluated directive line guard evaluation].flatMap Event.verdicts =
      [⟨line, guard, evaluation⟩] :=
  rfl

theorem verdicts_notes (scanned : ScannedLine) : scanned.notes.flatMap Event.verdicts = [] :=
  flatMap_notes Event.verdicts Event.verdicts_of_isNote scanned

theorem verdicts_takeBranch (head : Line) (afterElse : Bool) (lines : List ScannedLine) :
    verdicts (takeBranch opening head afterElse lines) = [] :=
  view_eq_nil Event.verdicts _ _ (only_takeBranch opening head afterElse lines)
    Event.verdicts_of_isNote

/-- The guards of inner chains are passed over. -/
theorem verdicts_findBranch_cons (nested nested' : Nat) (scanned : ScannedLine)
    (rest : List ScannedLine) (h : scanned.next nested = some nested') :
    verdicts (findBranch defined opening nested (scanned :: rest)) =
      verdicts (findBranch defined opening nested' rest) := by
  rw [findBranch, verdicts_after, verdicts_notes, List.nil_append]
  rcases scanned.passed_cases nested nested' h with
    ⟨hreading, rfl⟩ | ⟨guard, hreading, rfl⟩ | ⟨hne, hsep, rfl⟩ | ⟨hne, hclose, rfl⟩
  · rw [hreading]
  · rw [hreading]
  -- An `#elif` inside an inner chain is passed over like any other line.
  · rcases scanned.separates_cases hsep with ⟨guard, hreading⟩ | ⟨ignored, hreading⟩ <;>
      simp only [hreading, if_neg hne]
  · rcases scanned.closes_cases hclose with ⟨ignored, hreading⟩
    simp only [hreading, if_neg hne]

theorem verdicts_findBranch_append (nested nested' : Nat) (lines rest : List ScannedLine)
    (h : balance nested lines = some nested') :
    verdicts (findBranch defined opening nested (lines ++ rest)) =
      verdicts (findBranch defined opening nested' rest) :=
  walk_append (fun nested lines => verdicts (findBranch defined opening nested lines))
    (verdicts_findBranch_cons defined opening) nested nested' lines rest h

/-- At a directive of the chain its guard is evaluated, and no other once it holds. -/
theorem verdicts_findBranch_separator (scanned : ScannedLine) (rest : List ScannedLine)
    (h : scanned.separates) :
    verdicts (findBranch defined opening 0 (scanned :: rest)) =
      scanned.verdicts defined ++
        if scanned.holds defined || scanned.isElse then []
        else verdicts (findBranch defined opening 0 rest) := by
  rw [findBranch, verdicts_after, verdicts_notes, List.nil_append, ScannedLine.verdicts,
    ScannedLine.holds, ScannedLine.isElse]
  rcases scanned.separates_cases h with ⟨guard, hreading⟩ | ⟨ignored, hreading⟩
  · simp only [hreading, if_true, verdicts_after, Bool.or_false, Guard.holds]
    by_cases hholds : (guard.evaluate defined).value
    · rw [if_pos hholds, if_pos hholds, verdicts_takeBranch]
      rfl
    · rw [if_neg hholds, if_neg hholds]
      rfl
  · simp only [hreading, if_true, verdicts_after, verdicts_takeBranch, Bool.or_true]
    rfl

theorem verdicts_findBranch_closing (scanned : ScannedLine) (rest : List ScannedLine)
    (h : scanned.closes) : verdicts (findBranch defined opening 0 (scanned :: rest)) = [] := by
  rcases scanned.closes_cases h with ⟨ignored, hreading⟩
  rw [findBranch, verdicts_after, verdicts_notes, hreading]
  rfl

/-- However the search ends, it has evaluated guards in the order of the lines. -/
theorem verdicts_findBranch_sublist (nested : Nat) (lines : List ScannedLine) :
    (verdicts (findBranch defined opening nested lines)).Sublist
      (lines.flatMap (·.verdicts defined)) := by
  induction lines generalizing nested with
  | nil => exact List.nil_sublist _
  | cons scanned rest ih =>
      rw [List.flatMap_cons]
      rcases hnext : scanned.next nested with _ | nested'
      · rcases scanned.refused_cases nested hnext with ⟨fault, hreading⟩ | ⟨rfl, hsep | hclose⟩
        · rw [findBranch, verdicts_after, verdicts_notes, hreading]
          exact List.nil_sublist _
        · rw [verdicts_findBranch_separator _ _ _ _ hsep]
          refine (List.Sublist.refl _).append ?_
          -- The search ends here, or it goes on with the same chain.
          split
          · exact List.nil_sublist _
          · exact ih 0
        · rw [verdicts_findBranch_closing _ _ _ _ hclose]
          exact List.nil_sublist _
      · -- Whatever guard the line has, it is not looked at.
        rw [verdicts_findBranch_cons _ _ _ _ _ _ hnext]
        exact (ih nested').trans (List.sublist_append_right _ _)

theorem verdicts_chooseBranch_sublist (scanned : ScannedLine) (guard : Guard)
    (hguard : scanned.reading = .ok (.ifLine guard)) (lines : List ScannedLine) :
    (verdicts (chooseBranch defined scanned.line guard lines)).Sublist
      ((scanned :: lines).flatMap (·.verdicts defined)) := by
  have hverdicts : scanned.verdicts defined =
      [⟨scanned.line.number, guard, guard.evaluate defined⟩] := by
    rw [ScannedLine.verdicts, hguard]
  rw [chooseBranch, verdicts_after, verdicts_evaluated, List.flatMap_cons, hverdicts]
  refine (List.Sublist.refl _).append ?_
  split
  · rw [verdicts_takeBranch]
    exact List.nil_sublist _
  · exact verdicts_findBranch_sublist defined scanned.line 0 lines

end Walks

/-! ### The verdicts of a chain -/

/-- The clauses that the search for a branch comes to. -/
def searched (defined : Text → Bool) : List Clause → List Clause
  | [] => []
  | clause :: clauses =>
    clause :: if clause.takes defined then [] else searched defined clauses

section Searched

variable (defined : Text → Bool)

theorem searched_sublist (clauses : List Clause) :
    (searched defined clauses).Sublist clauses := by
  induction clauses with
  | nil => exact List.nil_sublist _
  | cons clause clauses ih =>
      rw [searched]
      split
      · exact (List.nil_sublist _).cons_cons _
      · exact ih.cons_cons _

/-- The search comes to a clause if it has passed all clauses before it. -/
theorem mem_searched_iff (clauses : List Clause) (clause : Clause) :
    clause ∈ searched defined clauses ↔
      ∃ earlier others, clauses = earlier ++ clause :: others ∧
        ∀ other ∈ earlier, ¬ other.takes defined := by
  induction clauses with
  | nil => simp [searched]
  | cons first clauses ih =>
      rw [searched, List.mem_cons]
      constructor
      · intro h
        rcases h with rfl | hmem
        · exact ⟨[], clauses, rfl, by simp⟩
        · by_cases htakes : first.takes defined
          · rw [if_pos htakes] at hmem
            cases hmem
          · rw [if_neg htakes] at hmem
            rcases ih.mp hmem with ⟨earlier, others, rfl, hpasses⟩
            refine ⟨first :: earlier, others, rfl, ?_⟩
            intro other hother
            rcases List.mem_cons.mp hother with rfl | hother
            · exact htakes
            · exact hpasses other hother
      · intro h
        rcases h with ⟨_ | ⟨first', earlier⟩, others, heq, hpasses⟩
        · rw [List.nil_append, List.cons.injEq] at heq
          exact .inl heq.1.symm
        · rw [List.cons_append, List.cons.injEq] at heq
          rcases heq with ⟨rfl, rfl⟩
          rw [if_neg (hpasses first List.mem_cons_self)]
          exact .inr (ih.mpr
            ⟨earlier, others, rfl, fun other hmem => hpasses other (List.mem_cons_of_mem _ hmem)⟩)

theorem searched_append_cons (earlier others : List Clause) (clause : Clause)
    (hpasses : ∀ clause ∈ earlier, ¬ clause.takes defined) (htakes : clause.takes defined) :
    searched defined (earlier ++ clause :: others) = earlier ++ [clause] := by
  induction earlier with
  | nil => rw [List.nil_append, searched, if_pos htakes, List.nil_append]
  | cons first earlier ih =>
      rw [List.cons_append, searched, if_neg (hpasses first List.mem_cons_self),
        ih fun other hmem => hpasses other (List.mem_cons_of_mem _ hmem), List.cons_append]

/-- The heads of clauses are among their lines. -/
theorem heads_sublist (clauses : List Clause) :
    (clauses.map Clause.head).Sublist (clauseLines clauses) := by
  induction clauses with
  | nil => exact List.nil_sublist _
  | cons clause clauses ih =>
      rw [List.map_cons, clauseLines_cons]
      exact (ih.trans (List.sublist_append_right _ _)).cons_cons _

theorem verdicts_sublist_clauseLines (clauses : List Clause) :
    (clauses.flatMap (·.head.verdicts defined)).Sublist
      ((clauseLines clauses).flatMap (·.verdicts defined)) := by
  have h := (heads_sublist clauses).flatMap (·.verdicts defined)
  rw [List.flatMap_map] at h
  exact h

theorem Chain.Place.verdicts_sublist_opener {chain : Chain} (place : chain.Place) :
    ((place.earlier ++ [place.clause]).flatMap (·.head.verdicts defined)).Sublist
      (place.opener.flatMap (·.verdicts defined)) := by
  rw [List.flatMap_append, opener, List.flatMap_append, List.flatMap_singleton,
    List.flatMap_singleton]
  exact (verdicts_sublist_clauseLines defined place.earlier).append (List.Sublist.refl _)

theorem verdicts_findBranch_clauses (opening : Line) (closing : ScannedLine)
    (hclose : closing.closes) (rest : List ScannedLine) (later : List Clause)
    (h : ∀ clause ∈ later, clause.head.separates ∧ Balanced clause.body) :
    verdicts (findBranch defined opening 0 (clauseLines later ++ closing :: rest)) =
      (searched defined later).flatMap (·.head.verdicts defined) := by
  induction later with
  | nil =>
      rw [clauseLines_nil, List.nil_append, verdicts_findBranch_closing _ _ _ _ hclose]
      rfl
  | cons clause later ih =>
      rcases h clause List.mem_cons_self with ⟨hsep, hbody⟩
      rw [clauseLines_cons, List.cons_append, List.append_assoc,
        verdicts_findBranch_separator _ _ _ _ hsep, searched, List.flatMap_cons, ← Clause.takes]
      -- Either nothing more is searched, or the branch of this clause is passed over.
      by_cases htakes : clause.takes defined
      · rw [if_pos htakes, if_pos htakes]
        rfl
      · rw [if_neg htakes, if_neg htakes,
          verdicts_findBranch_append _ _ 0 0 _ _ ((balance_iff_balanced _).mpr hbody),
          ih fun clause hmem => h clause (List.mem_cons_of_mem _ hmem)]

end Searched

section Chains

variable (defined : Text → Bool) (limit depth : Nat)

namespace Chain

/-- To choose a branch of a chain, the guards of the clauses that the search comes to
    are evaluated. -/
theorem verdicts_chooseBranch (chain : Chain) (guard : Guard)
    (hguard : chain.first.head.reading = .ok (.ifLine guard)) (rest : List ScannedLine) :
    verdicts (chooseBranch defined chain.first.head.line guard (chain.behind ++ rest)) =
      (searched defined chain.clauses).flatMap (·.head.verdicts defined) := by
  have hfirst := chain.balanced chain.first List.mem_cons_self
  have hlater : ∀ clause ∈ chain.later, clause.head.separates ∧ Balanced clause.body :=
    fun clause hmem =>
      ⟨chain.separates clause hmem, chain.balanced clause (List.mem_cons_of_mem _ hmem)⟩
  -- An `#if` is taken for its guard only.
  have htakes : chain.first.takes defined = (guard.evaluate defined).value := by
    rw [Clause.takes, chain.first.head.not_isElse_of_opens chain.opens, Bool.or_false,
      ScannedLine.holds, hguard]
    rfl
  have hverdicts : chain.first.head.verdicts defined =
      [⟨chain.first.head.line.number, guard, guard.evaluate defined⟩] := by
    rw [ScannedLine.verdicts, hguard]
  rw [chooseBranch, verdicts_after, verdicts_evaluated, clauses, searched, List.flatMap_cons,
    hverdicts, htakes]
  by_cases hholds : (guard.evaluate defined).value
  · rw [if_pos hholds, if_pos hholds, verdicts_takeBranch]
    rfl
  · have hbehind : chain.behind ++ rest =
        chain.first.body ++ (clauseLines chain.later ++ chain.closing :: rest) := by
      simp [behind]
    rw [if_neg hholds, if_neg hholds, hbehind,
      verdicts_findBranch_append _ _ 0 0 _ _ ((balance_iff_balanced _).mpr hfirst),
      verdicts_findBranch_clauses defined _ _ chain.closes rest _ hlater]

variable {chain : Chain} (horder : chain.InOrder) (rest : List ScannedLine)

include horder

/-- If no branch is kept, the guards of the chain are followed by those behind it. -/
theorem verdicts_of_not_chosen (hnone : ∀ place : chain.Place, ¬ place.Chosen defined) :
    verdicts (resolveLines defined limit depth (chain.lines ++ rest)) =
      (searched defined chain.clauses).flatMap (·.head.verdicts defined) ++
        verdicts (resolveLines defined limit depth rest) := by
  rcases chain.first.head.opens_cases chain.opens with ⟨guard, hguard⟩
  rw [resolveLines_of_not_chosen defined limit depth horder guard hguard rest hnone,
    verdicts_after, verdicts_notes, List.nil_append, verdicts_after,
    ← chain.verdicts_chooseBranch defined guard hguard rest]
  rfl

/-- If a branch is kept, the guards in it come in between. -/
theorem verdicts_of_chosen (place : chain.Place) (hchosen : place.Chosen defined) :
    verdicts (resolveLines defined limit depth (chain.lines ++ rest)) =
      (searched defined chain.clauses).flatMap (·.head.verdicts defined) ++
        if place.clause.body.any ScannedLine.opens then
          if limit ≤ depth then []
          else
            verdicts ((resolveLines defined limit (depth + 1) place.clause.body).bind fun () =>
              resolveLines defined limit depth rest)
        else verdicts (resolveLines defined limit depth rest) := by
  rcases chain.first.head.opens_cases chain.opens with ⟨guard, hguard⟩
  rcases resolveLines_of_chosen defined limit depth horder guard hguard rest place hchosen with
    ⟨branch, -, -, heq⟩
  rw [heq, verdicts_after, verdicts_notes, List.nil_append, verdicts_after,
    ← chain.verdicts_chooseBranch defined guard hguard rest,
    verdicts_after_silent (.keeping _ _ _) rfl]
  congr 1
  split
  · split
    · rfl
    · rw [verdicts_after_silent (.resolving _ _ _ _) rfl]
  · rw [verdicts_after_silent (.copied _ _) rfl]

end Chain

/-- In every run the guards that are evaluated are in the order of the lines, each at
    most once. -/
theorem verdicts_resolveLines_sublist (lines : List ScannedLine) :
    ∀ depth, (verdicts (resolveLines defined limit depth lines)).Sublist
      (lines.flatMap (·.verdicts defined)) := by
  induction lines using resolving_induction defined with
  | nil =>
      intro depth
      rw [resolveLines]
      exact List.nil_sublist _
  | source scanned rest hreading ih =>
      intro depth
      rw [resolveLines_source _ _ _ _ _ hreading, verdicts_after, verdicts_notes, verdicts_after,
        List.flatMap_cons]
      exact (ih depth).trans (List.sublist_append_right _ _)
  | refused scanned rest hnext =>
      intro depth
      rw [resolveLines_refused _ _ _ _ _ hnext, verdicts_after, verdicts_notes]
      exact List.nil_sublist _
  | broken scanned guard rest error hreading hskip =>
      intro depth
      rw [resolveLines_broken defined limit depth scanned guard rest error hreading hskip,
        verdicts_after, verdicts_notes]
      exact verdicts_chooseBranch_sublist defined scanned guard hreading rest
  | dropped chain rest horder hnone ih =>
      intro depth
      rw [List.flatMap_append, chain.verdicts_of_not_chosen defined limit depth horder rest hnone]
      refine List.Sublist.append ?_ (ih depth)
      rw [Chain.lines, List.flatMap_append]
      exact (((searched_sublist defined chain.clauses).flatMap _).trans
        (verdicts_sublist_clauseLines defined chain.clauses)).trans
          (List.sublist_append_left _ _)
  | kept chain rest place horder hchosen ihBody ihRest =>
      intro depth
      -- The lines behind the branch are passed over.
      have hrest := (ihRest depth).trans
        (List.sublist_append_right (place.closer.flatMap (·.verdicts defined)) _)
      have hlines : chain.lines.flatMap (·.verdicts defined) =
          place.opener.flatMap (·.verdicts defined) ++
            (place.clause.body.flatMap (·.verdicts defined) ++
              place.closer.flatMap (·.verdicts defined)) := by
        rw [place.lines_eq, List.flatMap_append, List.flatMap_append]
      rw [List.flatMap_append,
        chain.verdicts_of_chosen defined limit depth horder rest place hchosen, hlines,
        List.append_assoc, List.append_assoc]
      have hsearched : searched defined chain.clauses = place.earlier ++ [place.clause] := by
        rw [place.eq, searched_append_cons defined _ _ _ hchosen.passes hchosen.takes]
      rw [hsearched]
      refine (place.verdicts_sublist_opener defined).append ?_
      split
      · split
        · exact List.nil_sublist _
        · rw [verdicts_bind]
          refine (ihBody (depth + 1)).append ?_
          split
          · exact hrest
          · exact List.nil_sublist _
      · exact hrest.trans (List.sublist_append_right _ _)

end Chains

end DirectiveStrip
