import DirectiveStrip.Proofs.Resolve.Live
import DirectiveStrip.Proofs.Resolve.Verdict
import Mathlib.Data.List.Sort

/-!
# The Guards of Live Chains

Which guards a successful run evaluates can be told from the list of lines alone. A
live chain is searched from its `#if` on, and the search goes on from head to head as
long as no guard has held. So a guard is evaluated if its line is a head of a live
chain and no guard of that chain before it holds. All other guards are read and
nothing more.

First the two have the same members, by reading the lines from the front: what is
reached in balanced lines one after another is reached in either of them, and what is
reached in a chain is a head that the search comes to, or is reached in the kept
branch. Then they are equal, since both have the order of the lines, and no line has
two guards.

## Main definitions

* `IsSearched`: The search for a branch of a chain comes to a head.
* `IsReached`: The head of a live chain that is searched.
* `reachedVerdicts`: The verdicts of these heads.
* `Reaches`: A verdict is among them.

## Theorems

* `isReached_context`: What is reached in a balanced part of a list.
* `reaches_append`: What is reached in balanced lines one after another.
* `Chain.reaches_iff`: What is reached in a chain.
* `Chain.mem_searched_clauses_iff`: Where the search comes to in a chain.
* `mem_verdicts_iff_reaches`: What is evaluated is what is reached.
* `pairwise_verdicts_scan`: The verdicts of the lines of a source are in order.
* `strip_evaluates_reached_guards`: The guards that stripping evaluates.
-/

namespace DirectiveStrip

open Resolution

section Definitions

variable (defined : Text → Bool) (lines : List ScannedLine)

/-- The search for a branch of the chain opened at `first` comes to this head: no guard
    of the chain before it holds. -/
def IsSearched (first head : Nat) : Prop :=
  IsHead lines first head ∧
    ∀ other < head, IsHead lines first other → ¬ lines[other]?.any (·.holds defined)

/-- A position is a head of a live chain, and the search for a branch comes to it. -/
def IsReached (i : Nat) : Prop :=
  ∃ first < i + 1, lines[first]?.any ScannedLine.opens ∧ IsLive defined lines first ∧
    IsSearched defined lines first i

instance (first head : Nat) : Decidable (IsSearched defined lines first head) :=
  inferInstanceAs (Decidable (_ ∧ _))

instance (i : Nat) : Decidable (IsReached defined lines i) :=
  inferInstanceAs (Decidable (∃ first < i + 1, _))

/-- The verdicts of the heads that are reached, in order. An `#else` has none. -/
def reachedVerdicts : List Verdict :=
  (lines.zipIdx.filter fun line => IsReached defined lines line.2).flatMap
    (·.1.verdicts defined)

/-- A verdict is that of a head that is reached. -/
def Reaches (verdict : Verdict) : Prop :=
  ∃ i, IsReached defined lines i ∧ lines[i]?.any fun scanned => verdict ∈ scanned.verdicts defined

theorem mem_reachedVerdicts (verdict : Verdict) :
    verdict ∈ reachedVerdicts defined lines ↔ Reaches defined lines verdict := by
  unfold reachedVerdicts Reaches
  constructor
  · intro h
    rcases List.mem_flatMap.mp h with ⟨⟨scanned, i⟩, hmem, hverdict⟩
    rcases List.mem_filter.mp hmem with ⟨hget, hreached⟩
    rw [List.mem_zipIdx_iff_getElem?] at hget
    dsimp only at hget hverdict hreached
    refine ⟨i, of_decide_eq_true hreached, ?_⟩
    rw [hget]
    exact decide_eq_true hverdict
  · intro h
    rcases h with ⟨i, hreached, hany⟩
    rcases hget : lines[i]? with _ | scanned
    · rw [hget] at hany
      cases hany
    · rw [hget] at hany
      refine List.mem_flatMap.mpr ⟨(scanned, i), List.mem_filter.mpr ⟨?_, ?_⟩, ?_⟩
      · rw [List.mem_zipIdx_iff_getElem?]
        exact hget
      · exact decide_eq_true hreached
      · exact of_decide_eq_true hany

theorem reachedVerdicts_sublist :
    (reachedVerdicts defined lines).Sublist (lines.flatMap (·.verdicts defined)) := by
  have hall : lines.zipIdx.flatMap (·.1.verdicts defined) = lines.flatMap (·.verdicts defined) := by
    conv_rhs => rw [← List.zipIdx_map_fst 0 lines, List.flatMap_map]
  rw [← hall]
  exact List.filter_sublist.flatMap _

end Definitions

/-! ### A balanced part of a list -/

section Context

variable (defined : Text → Bool) (before after : List ScannedLine) {body : List ScannedLine}

theorem isSearched_context (hbody : Balanced body) (first other : Nat)
    (hfirst : first < body.length) :
    IsSearched defined (before ++ (body ++ after)) (before.length + first) other ↔
      ∃ i, other = before.length + i ∧ IsSearched defined body first i := by
  unfold IsSearched
  constructor
  · intro h
    rcases h with ⟨hhead, hnone⟩
    rcases (isHead_context before after hbody first other hfirst).mp hhead with ⟨i, rfl, hi⟩
    have hlt := hi.lt hfirst
    refine ⟨i, rfl, hi, ?_⟩
    intro j hj hhead'
    rw [← getElem?_context before body after j (by omega)]
    exact hnone _ (by omega)
      ((isHead_context before after hbody first _ hfirst).mpr ⟨j, rfl, hhead'⟩)
  · intro h
    rcases h with ⟨i, rfl, hi, hnone⟩
    have hlt := hi.lt hfirst
    refine ⟨(isHead_context before after hbody first _ hfirst).mpr ⟨i, rfl, hi⟩, ?_⟩
    intro j hj hhead
    rcases (isHead_context before after hbody first j hfirst).mp hhead with ⟨k, rfl, hk⟩
    rw [getElem?_context before body after k (by omega)]
    exact hnone k (by omega) hk

/-- No chain from before the part has a head in it. Its directives are outside of all
    chains that are inside of it, and an `#elif` or `#else` in the part is inside one. -/
theorem le_of_isHead_context (hbody : Balanced body) (first i : Nat) (hi : i < body.length)
    (h : IsHead (before ++ (body ++ after)) first (before.length + i)) :
    before.length ≤ first := by
  rcases h with rfl | ⟨henc, hsep, hcount⟩
  · omega
  · by_contra hlt
    rw [getElem?_context before body after i hi] at hsep
    have hinside := hbody.inside i hsep
    have hnonneg := hbody.nonneg i (by omega)
    -- The part begins with the chain still open.
    have hstart := henc.above before.length (by omega) (by omega)
    have hbegin := openCount_context before body after 0 (Nat.zero_le _)
    rw [Nat.add_zero, openCount_zero] at hbegin
    rw [openCount_context before body after i (by omega)] at hcount
    omega

/-- What is reached in a part is reached by a chain of the part. It depends on the lines
    around whether that chain is live, and on nothing else. -/
theorem isReached_context (hbody : Balanced body) (i : Nat) (hi : i < body.length) :
    IsReached defined (before ++ (body ++ after)) (before.length + i) ↔
      ∃ first < i + 1, body[first]?.any ScannedLine.opens ∧
        IsLive defined (before ++ (body ++ after)) (before.length + first) ∧
        IsSearched defined body first i := by
  unfold IsReached
  constructor
  · intro h
    rcases h with ⟨first, hlt, hopens, hlive, hsearched⟩
    -- Only a chain that was opened in the part has a head there.
    have hle := le_of_isHead_context before after hbody first i hi hsearched.1
    obtain ⟨first, rfl⟩ := Nat.exists_eq_add_of_le hle
    rcases (isSearched_context defined before after hbody first _ (by omega)).mp hsearched with
      ⟨j, heq, hj⟩
    rw [getElem?_context before body after first (by omega)] at hopens
    rw [← Nat.add_left_cancel heq] at hj
    exact ⟨first, by omega, hopens, hlive, hj⟩
  · intro h
    rcases h with ⟨first, hlt, hopens, hlive, hsearched⟩
    refine ⟨before.length + first, by omega, ?_, hlive, ?_⟩
    · rw [getElem?_context before body after first (by omega)]
      exact hopens
    · exact (isSearched_context defined before after hbody first _ (by omega)).mpr
        ⟨i, rfl, hsearched⟩

variable {before after}

theorem isReached_append_left (hbefore : Balanced before) (i : Nat) (hi : i < before.length) :
    IsReached defined (before ++ after) i ↔ IsReached defined before i := by
  have h := isReached_context defined [] after hbefore i hi
  simp only [List.nil_append, List.length_nil, Nat.zero_add] at h
  rw [h]
  refine exists_congr fun first => and_congr_right fun hlt => and_congr_right fun _ => ?_
  rw [isLive_append_left defined hbefore first (by omega)]

theorem isReached_append_right (hbefore : Balanced before) (hafter : Balanced after) (i : Nat)
    (hi : i < after.length) :
    IsReached defined (before ++ after) (before.length + i) ↔ IsReached defined after i := by
  have h := isReached_context defined before [] hafter i hi
  simp only [List.append_nil] at h
  rw [h]
  refine exists_congr fun first => and_congr_right fun hlt => and_congr_right fun _ => ?_
  rw [isLive_append_right defined hbefore hafter first (by omega)]

theorem reaches_append (hbefore : Balanced before) (hafter : Balanced after)
    (verdict : Verdict) :
    Reaches defined (before ++ after) verdict ↔
      Reaches defined before verdict ∨ Reaches defined after verdict := by
  unfold Reaches
  constructor
  · intro h
    rcases h with ⟨i, hreached, hany⟩
    have hlen := lt_length_of_any _ i _ hany
    rw [List.length_append] at hlen
    -- The position is one of the first lines or one of the others.
    rcases Nat.lt_or_ge i before.length with hlt | hge
    · rw [List.getElem?_append_left hlt] at hany
      exact .inl ⟨i, (isReached_append_left defined hbefore i hlt).mp hreached, hany⟩
    · obtain ⟨j, rfl⟩ := Nat.exists_eq_add_of_le hge
      rw [List.getElem?_append_right hge, Nat.add_sub_cancel_left] at hany
      refine .inr ⟨j, ?_, hany⟩
      exact (isReached_append_right defined hbefore hafter j (by omega)).mp hreached
  · intro h
    rcases h with ⟨i, hreached, hany⟩ | ⟨i, hreached, hany⟩
    · have hlt := lt_length_of_any before i _ hany
      refine ⟨i, (isReached_append_left defined hbefore i hlt).mpr hreached, ?_⟩
      rw [List.getElem?_append_left hlt]
      exact hany
    · have hlt := lt_length_of_any after i _ hany
      refine ⟨before.length + i, ?_, ?_⟩
      · exact (isReached_append_right defined hbefore hafter i hlt).mpr hreached
      · rw [List.getElem?_append_right (by omega), Nat.add_sub_cancel_left]
        exact hany

/-- Lines without an `#if` reach nothing. -/
theorem not_reaches_of_not_opens (lines : List ScannedLine)
    (hopens : lines.any ScannedLine.opens = false) (verdict : Verdict) :
    ¬ Reaches defined lines verdict := by
  intro h
  rcases h with ⟨i, ⟨first, -, hany, -⟩, -⟩
  rcases exists_mem_of_any lines first _ hany with ⟨scanned, hmem, hopen⟩
  exact List.any_eq_false.mp hopens scanned hmem hopen

end Context

/-! ### What is reached in a chain -/

namespace Chain

variable {chain : Chain} (defined : Text → Bool)

/-- Only the chain itself has heads among the heads of its clauses. -/
theorem Place.eq_zero_of_isHead_start (place : chain.Place) (first : Nat)
    (hopens : chain.lines[first]?.any ScannedLine.opens)
    (h : IsHead chain.lines first place.start) : first = 0 := by
  rcases h with rfl | ⟨henc, -, hcount⟩
  · rw [place.getElem?_start] at hopens
    exact place.start_eq_zero_of_opens hopens
  · -- One chain is open at the head, so none was when this one was opened.
    have hlt := henc.before
    have hstop := place.stop_lt_length
    rcases (chain.isHead_iff _).mpr ⟨place, rfl⟩ with hzero | ⟨-, -, hone⟩
    · omega
    · rw [openCount_zero] at hone
      by_contra hne
      have := chain.one_le_openCount first (by omega) (by omega)
      omega

theorem isSearched_iff (place : chain.Place) :
    IsSearched defined chain.lines 0 place.start ↔
      ∀ clause ∈ place.earlier, ¬ clause.head.holds defined := by
  unfold IsSearched
  constructor
  · intro h clause hclause
    rcases place.exists_before_of_mem clause hclause with ⟨p, rfl, hbefore⟩
    have := h.2 p.start (by have := hbefore.stop_le_start; omega)
      ((chain.isHead_iff _).mpr ⟨p, rfl⟩)
    rw [p.getElem?_start] at this
    exact this
  · intro h
    refine ⟨(chain.isHead_iff _).mpr ⟨place, rfl⟩, ?_⟩
    intro other hlt hhead
    rcases (chain.isHead_iff other).mp hhead with ⟨p, rfl⟩
    rw [p.getElem?_start]
    exact h _ (p.before_of_start_lt place hlt).mem_earlier

theorem Place.isReached_start_iff (place : chain.Place) :
    IsReached defined chain.lines place.start ↔
      ∀ clause ∈ place.earlier, ¬ clause.head.holds defined := by
  rw [← isSearched_iff]
  constructor
  · intro h
    rcases h with ⟨first, -, hopens, -, hsearched⟩
    rw [place.eq_zero_of_isHead_start first hopens hsearched.1] at hsearched
    exact hsearched
  · intro h
    -- Nothing is around the chain, so it is live.
    refine ⟨0, by omega, ?_, fun first hfirst => absurd hfirst (Nat.not_lt_zero first), h⟩
    simp [lines, clauses, chain.opens]

theorem Place.isReached_body_iff (horder : chain.InOrder) (place : chain.Place) (i : Nat)
    (hi : i < place.clause.body.length) :
    IsReached defined chain.lines (place.start + 1 + i) ↔
      place.Chosen defined ∧ IsReached defined place.clause.body i := by
  have h := isReached_context defined place.opener place.closer place.balanced_body i hi
  rw [← place.lines_eq, place.length_opener] at h
  rw [h]
  unfold IsReached
  constructor
  · intro h
    rcases h with ⟨first, hlt, hopens, hlive, hsearched⟩
    rcases (place.isLive_body_iff defined horder first (by omega)).mp hlive with
      ⟨hchosen, hinner⟩
    exact ⟨hchosen, first, hlt, hopens, hinner, hsearched⟩
  · intro h
    rcases h with ⟨hchosen, first, hlt, hopens, hinner, hsearched⟩
    refine ⟨first, hlt, hopens, ?_, hsearched⟩
    exact (place.isLive_body_iff defined horder first (by omega)).mpr ⟨hchosen, hinner⟩

/-- The search comes to a clause if no guard before it holds. In order, no `#else` is
    before it either. -/
theorem mem_searched_clauses_iff (horder : chain.InOrder) (clause : Clause) :
    clause ∈ searched defined chain.clauses ↔
      ∃ place : chain.Place, place.clause = clause ∧
        ∀ other ∈ place.earlier, ¬ other.head.holds defined := by
  rw [mem_searched_iff]
  constructor
  · intro h
    rcases h with ⟨earlier, others, heq, hpasses⟩
    -- A clause whose guard holds would have been taken.
    refine ⟨⟨earlier, clause, others, heq⟩, rfl, ?_⟩
    intro other hother hholds
    exact hpasses other hother (by simp [Clause.takes, hholds])
  · intro h
    rcases h with ⟨place, rfl, hnone⟩
    refine ⟨place.earlier, place.others, place.eq, ?_⟩
    intro other hother htakes
    rw [Clause.takes, Bool.or_eq_true] at htakes
    exact htakes.elim (hnone other hother) (horder.not_isElse place other hother)

/-- In a chain the heads that the search comes to are reached, and what is reached in
    the kept branch. -/
theorem reaches_iff (horder : chain.InOrder) (verdict : Verdict) :
    Reaches defined chain.lines verdict ↔
      verdict ∈ (searched defined chain.clauses).flatMap (·.head.verdicts defined) ∨
        ∃ place : chain.Place, place.Chosen defined ∧
          Reaches defined place.clause.body verdict := by
  rw [List.mem_flatMap]
  constructor
  · intro h
    rcases h with ⟨i, hreached, hany⟩
    rcases chain.exists_place i (lt_length_of_any _ i _ hany) with
      ⟨place, rfl⟩ | ⟨place, j, hj, rfl⟩ | hlast
    · rw [place.getElem?_start] at hany
      refine .inl ⟨place.clause, ?_, of_decide_eq_true hany⟩
      exact (mem_searched_clauses_iff defined horder _).mpr
        ⟨place, rfl, (place.isReached_start_iff defined).mp hreached⟩
    · rw [place.getElem?_body j hj] at hany
      rcases (place.isReached_body_iff defined horder j hj).mp hreached with ⟨hchosen, hinner⟩
      exact .inr ⟨place, hchosen, j, hinner, hany⟩
    · -- An `#endif` has no guard.
      rw [chain.getElem?_last i hlast] at hany
      rcases chain.closing.closes_cases chain.closes with ⟨ignored, hreading⟩
      simp [ScannedLine.verdicts, hreading] at hany
  · intro h
    rcases h with ⟨clause, hsearched, hverdict⟩ | ⟨place, hchosen, i, hreached, hany⟩
    · rcases (mem_searched_clauses_iff defined horder _).mp hsearched with
        ⟨place, rfl, hnone⟩
      refine ⟨place.start, (place.isReached_start_iff defined).mpr hnone, ?_⟩
      rw [place.getElem?_start]
      exact decide_eq_true hverdict
    · have hlt := lt_length_of_any _ i _ hany
      refine ⟨place.start + 1 + i, ?_, ?_⟩
      · exact (place.isReached_body_iff defined horder i hlt).mpr ⟨hchosen, hreached⟩
      · rw [place.getElem?_body i hlt]
        exact hany

/-- Of the branches only the one that is kept counts. -/
theorem reaches_of_chosen_iff (horder : chain.InOrder) (place : chain.Place)
    (hchosen : place.Chosen defined) (verdict : Verdict) :
    Reaches defined chain.lines verdict ↔
      verdict ∈ (searched defined chain.clauses).flatMap (·.head.verdicts defined) ∨
        Reaches defined place.clause.body verdict := by
  rw [reaches_iff defined horder]
  refine or_congr_right ⟨fun h => ?_, fun h => ⟨place, hchosen, h⟩⟩
  rcases h with ⟨other, hother, hreaches⟩
  rw [← Place.Chosen.unique defined hother hchosen]
  exact hreaches

end Chain

/-! ### What is evaluated -/

/-- In a run that succeeds, exactly what is reached is evaluated. -/
theorem mem_verdicts_iff_reaches (defined : Text → Bool) (limit : Nat) (verdict : Verdict)
    (lines : List ScannedLine) :
    ∀ depth, (resolveLines defined limit depth lines).outcome = .ok () →
      (verdict ∈ verdicts (resolveLines defined limit depth lines) ↔
        Reaches defined lines verdict) := by
  induction lines using resolving_induction defined with
  | nil =>
      intro depth _
      rw [resolveLines]
      exact iff_of_false List.not_mem_nil (not_reaches_of_not_opens defined [] rfl verdict)
  | source scanned rest hreading ih =>
      intro depth hrun
      have hopens : [scanned].any ScannedLine.opens = false := by
        simp [ScannedLine.opens, hreading]
      rw [resolveLines_source _ _ _ _ _ hreading] at hrun ⊢
      have hrest := (balance_iff_balanced _).mp (balance_of_resolveLines defined limit depth rest
        hrun)
      have hsplit := reaches_append defined (balanced_singleton scanned hreading) hrest verdict
      rw [List.singleton_append] at hsplit
      rw [verdicts_after, verdicts_notes, List.nil_append, verdicts_after_silent (.copied _ _) rfl,
        ih depth hrun, hsplit]
      exact (or_iff_right (not_reaches_of_not_opens defined _ hopens verdict)).symm
  | refused scanned rest hnext =>
      intro depth hrun
      rw [resolveLines_refused _ _ _ _ _ hnext] at hrun
      cases hrun
  | broken scanned guard rest error hreading hskip =>
      intro depth hrun
      rw [resolveLines_broken defined limit depth scanned guard rest error hreading hskip] at hrun
      cases hrun
  | dropped chain rest horder hnone ih =>
      intro depth hrun
      have hbalanced := (balance_iff_balanced _).mp (balance_of_resolveLines defined limit depth _
        hrun)
      rw [Chain.outcome_of_not_chosen defined limit depth horder rest hnone] at hrun
      rw [reaches_append defined chain.balanced_lines ((chain.balanced_lines.append).mp hbalanced),
        Chain.verdicts_of_not_chosen defined limit depth horder rest hnone, List.mem_append,
        Chain.reaches_iff defined horder, ih depth hrun]
      -- Without a kept branch there is none to reach anything in.
      refine or_congr_left (or_iff_left ?_).symm
      intro h
      rcases h with ⟨place, hplace, -⟩
      exact hnone place hplace
  | kept chain rest place horder hchosen ihBody ihRest =>
      intro depth hrun
      have hbalanced := (balance_iff_balanced _).mp (balance_of_resolveLines defined limit depth _
        hrun)
      rw [Chain.outcome_of_chosen defined limit depth horder rest place hchosen] at hrun
      rw [reaches_append defined chain.balanced_lines ((chain.balanced_lines.append).mp hbalanced),
        Chain.verdicts_of_chosen defined limit depth horder rest place hchosen,
        List.mem_append, Chain.reaches_of_chosen_iff defined horder place hchosen, or_assoc]
      -- The guards of the chain itself are the same on both sides.
      refine or_congr_right ?_
      split at hrun
      · next hopens =>
        split at hrun
        · cases hrun
        · next hlimit =>
          -- The branch is resolved, and then what follows.
          rcases hbody : (resolveLines defined limit (depth + 1) place.clause.body).outcome with
            error | _
          · rw [hbody] at hrun
            cases hrun
          · rw [hbody] at hrun
            rw [if_pos hopens, if_neg hlimit, verdicts_bind, hbody, List.mem_append,
              ihBody (depth + 1) hbody, ihRest depth hrun]
      · next hopens =>
        -- A branch without chains has no guard to reach.
        rw [if_neg hopens, ihRest depth hrun]
        refine (or_iff_right ?_).symm
        exact not_reaches_of_not_opens defined _ (by simpa using hopens) verdict

/-! ### The order of the lines -/

/-- A line has one guard at most. -/
theorem ScannedLine.pairwise_verdicts (defined : Text → Bool) (scanned : ScannedLine) :
    (scanned.verdicts defined).Pairwise (·.line < ·.line) ∧
      ∀ verdict ∈ scanned.verdicts defined, verdict.line = scanned.line.number := by
  unfold verdicts
  split <;> simp

/-- The verdict that a line gives is that of its guard. -/
theorem ScannedLine.evaluation_of_mem_verdicts (defined : Text → Bool) (scanned : ScannedLine)
    (verdict : Verdict) (h : verdict ∈ scanned.verdicts defined) :
    verdict.evaluation = verdict.guard.evaluate defined := by
  unfold verdicts at h
  split at h
  · rw [List.mem_singleton.mp h]
  · rw [List.mem_singleton.mp h]
  · cases h

theorem pairwise_number_scan (settings : Settings) (source : Text) :
    (scan settings source).Pairwise (·.line.number < ·.line.number) := by
  rw [List.pairwise_iff_getElem]
  intro i j hi hj hlt
  rw [number_of_scan settings source i _ (List.getElem?_eq_getElem hi),
    number_of_scan settings source j _ (List.getElem?_eq_getElem hj)]
  omega

/-- The verdicts that the lines of a source give are in the order of the lines. -/
theorem pairwise_verdicts_scan (settings : Settings) (defined : Text → Bool) (source : Text) :
    ((scan settings source).flatMap (·.verdicts defined)).Pairwise (·.line < ·.line) := by
  rw [List.pairwise_flatMap]
  refine ⟨fun scanned _ => (scanned.pairwise_verdicts defined).1, ?_⟩
  refine (pairwise_number_scan settings source).imp ?_
  intro scanned other hlt verdict hverdict verdict' hverdict'
  rw [(scanned.pairwise_verdicts defined).2 verdict hverdict,
    (other.pairwise_verdicts defined).2 verdict' hverdict']
  exact hlt

/-- Verdicts in order are told by their members. -/
theorem eq_of_pairwise_line (left right : List Verdict) (hleft : left.Pairwise (·.line < ·.line))
    (hright : right.Pairwise (·.line < ·.line)) (h : ∀ verdict, verdict ∈ left ↔ verdict ∈ right) :
    left = right := by
  have hnodup (list : List Verdict) (hlist : list.Pairwise (·.line < ·.line)) : list.Nodup :=
    hlist.imp fun hlt heq => absurd (congrArg Verdict.line heq) (Nat.ne_of_lt hlt)
  refine List.Perm.eq_of_pairwise ?_ hleft hright
    ((List.perm_ext_iff_of_nodup (hnodup left hleft) (hnodup right hright)).mpr h)
  intro verdict verdict' _ _ hlt hgt
  exact absurd hlt (Nat.lt_asymm hgt)

/-! ### Stripping -/

section Stripping

variable (settings : Settings) (defined : Text → Bool) (source : Text)

/-- Resolving the lines is all that evaluates guards. -/
theorem verdicts_strip :
    verdicts (strip settings defined source) =
      verdicts (resolveLines defined settings.nestingLimit 0 (scan settings source)) :=
  view_strip Event.verdicts settings defined source rfl fun _ _ => rfl

/-- Stripping evaluates guards in the order of the lines, no line twice, and looks up the
    symbols of these guards from left to right. If it succeeds, all lines were read and
    the guards are those of the live chains, up to the first that holds in each. -/
theorem strip_evaluates_reached_guards :
    (verdicts (strip settings defined source)).Sublist
        ((scan settings source).flatMap (·.verdicts defined)) ∧
      (verdicts (strip settings defined source)).Pairwise (·.line < ·.line) ∧
      asked (strip settings defined source) =
        (verdicts (strip settings defined source)).flatMap (·.guard.lookUps defined) ∧
      ∀ output, (strip settings defined source).outcome = .ok output →
        (∀ scanned ∈ scan settings source, scanned.reading.isOk) ∧
          verdicts (strip settings defined source) =
            reachedVerdicts defined (scan settings source) := by
  have hsub : (verdicts (strip settings defined source)).Sublist
      ((scan settings source).flatMap (·.verdicts defined)) := by
    rw [verdicts_strip]
    exact verdicts_resolveLines_sublist defined _ _ 0
  have hpair := pairwise_verdicts_scan settings defined source
  refine ⟨hsub, hpair.sublist hsub, ?_, ?_⟩
  · -- What a line gives as verdict is what its guard comes to.
    rw [asked_eq_flatMap_verdicts]
    refine List.flatMap_congr ?_
    intro verdict hverdict
    rcases List.mem_flatMap.mp (hsub.subset hverdict) with ⟨scanned, -, hmem⟩
    rw [scanned.evaluation_of_mem_verdicts defined verdict hmem, Guard.asked_evaluate]
  · intro output hrun
    have hresolve := ((outcome_strip settings defined source output).mp hrun).1
    have hbalanced := (balance_iff_balanced _).mp (balance_of_resolveLines defined _ 0 _ hresolve)
    refine ⟨hbalanced.readable, ?_⟩
    -- Both are in the order of the lines, so it is enough that they have the same members.
    refine eq_of_pairwise_line _ _ (hpair.sublist hsub)
      (hpair.sublist (reachedVerdicts_sublist defined _)) ?_
    intro verdict
    rw [verdicts_strip, mem_reachedVerdicts]
    exact mem_verdicts_iff_reaches defined _ verdict _ 0 hresolve

end Stripping

/-- The chain in the first branch is passed over, the one in the second is searched when
    the branch is resolved, and the last guard comes too late. -/
theorem strip_evaluates_reached_guards_of_nested_chains :
    (strip {} (· == ['A'])
        "#if B\n#if C\n#endif\n#elif A && !B\n#if A\nx\n#endif\n#elif C\n#endif".toList).outcome =
      .ok "x\n".toList ∧
    verdicts (strip {} (· == ['A'])
        "#if B\n#if C\n#endif\n#elif A && !B\n#if A\nx\n#endif\n#elif C\n#endif".toList) =
      reachedVerdicts (· == ['A']) (scan {}
        "#if B\n#if C\n#endif\n#elif A && !B\n#if A\nx\n#endif\n#elif C\n#endif".toList) ∧
    (reachedVerdicts (· == ['A']) (scan {}
        "#if B\n#if C\n#endif\n#elif A && !B\n#if A\nx\n#endif\n#elif C\n#endif".toList)).map
          (·.line) = [1, 4, 5] :=
  ⟨by decide +kernel,
    ((strip_evaluates_reached_guards _ _ _).2.2.2 "x\n".toList (by decide +kernel)).2,
    by decide +kernel⟩

end DirectiveStrip
