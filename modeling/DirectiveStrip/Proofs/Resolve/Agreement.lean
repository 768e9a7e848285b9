import DirectiveStrip.Proofs.Resolve.Live
import DirectiveStrip.Proofs.Resolve.Outline
import Mathlib.Data.List.Perm.Subperm

/-!
# Failing Alike Under All Symbols

Which branches are kept depends on the symbols. Whether a chain outside of every other
can be read through does not, nor what is wrong with it if it cannot. So two runs on
one source can only come apart inside a kept branch, where one run meets a chain that
the other discards.

What can be wrong inside a branch is little. Its chain has been read through, so all
its lines can be read and its directives pair up. What is left is a branch behind an
`#else`, and nesting that is too deep. Sources without these inside their chains fail
for all symbols alike, with the same error, or for none.

## Main definitions

* `IsInside`: Some chain is around a position.
* `InOrderAt`: A chain has no branch behind its `#else`.
* `NestsWell`: Chains inside others are in order, and not too many are open at once.

## Theorems

* `enclosing_le_openCount`: No more chains are around a position than are open there.
* `NestsWell.chainsFit`: All chains in a branch fit, whatever branches are kept.
* `outcome_eq_of_nestsWell`: Resolving comes out alike under all symbols.
* `strip_fails_alike`: So does stripping.
-/

namespace DirectiveStrip

/-- Some chain is around a position. -/
def IsInside (lines : List ScannedLine) (i : Nat) : Prop :=
  ∃ outer < i, Encloses lines outer i

/-- No branch of the chain opened at `first` begins behind its `#else`. -/
def InOrderAt (lines : List ScannedLine) (first : Nat) : Prop :=
  ∀ head < lines.length, IsHead lines first head → lines[head]?.any ScannedLine.isElse →
    ∀ other < lines.length, IsHead lines first other → other ≤ head

/-- No chain inside another has a branch behind its `#else`, and at most one more than
    `limit` chains are ever open at once. A stray `#endif` only lowers the count. -/
structure NestsWell (limit : Nat) (lines : List ScannedLine) : Prop where
  ordered : ∀ first < lines.length, lines[first]?.any ScannedLine.opens → IsInside lines first →
    InOrderAt lines first
  shallow : ∀ i < lines.length + 1, openCount lines i ≤ limit + 1

instance (lines : List ScannedLine) (i : Nat) : Decidable (IsInside lines i) :=
  inferInstanceAs (Decidable (∃ outer < i, _))

instance (lines : List ScannedLine) (first : Nat) : Decidable (InOrderAt lines first) :=
  inferInstanceAs (Decidable (∀ head < lines.length, _ → _ → ∀ other < lines.length, _))

instance (limit : Nat) (lines : List ScannedLine) : Decidable (NestsWell limit lines) :=
  decidable_of_iff
    ((∀ first < lines.length, lines[first]?.any ScannedLine.opens → IsInside lines first →
        InOrderAt lines first) ∧
      ∀ i < lines.length + 1, openCount lines i ≤ limit + 1)
    ⟨fun h => ⟨h.1, h.2⟩, fun h => ⟨h.ordered, h.shallow⟩⟩

/-! ### The chains in a branch -/

theorem length_le_of_pairwise_lt (numbers : List Nat) (bound : Nat)
    (hpairwise : numbers.Pairwise (· < ·)) (hbound : ∀ n ∈ numbers, n < bound) :
    numbers.length ≤ bound := by
  have hnodup : numbers.Nodup := hpairwise.imp fun hlt => Nat.ne_of_lt hlt
  have hsub : numbers ⊆ List.range bound :=
    fun n hn => List.mem_range.mpr (hbound n hn)
  have hlength := (List.subperm_of_subset hnodup hsub).length_le
  rw [List.length_range] at hlength
  exact hlength

/-- No more chains are around a position than are open there. Each of them was opened at
    a higher count than the one around it. -/
theorem enclosing_le_openCount (lines : List ScannedLine) (hlines : Balanced lines) (i : Nat)
    (hi : i < lines.length) : (enclosing lines i : Int) ≤ openCount lines i := by
  have hnonneg (j : Nat) (hj : j ≤ lines.length) := hlines.nonneg j hj
  have hmem (first : Nat)
      (h : first ∈ (List.range i).filter fun first => decide (Encloses lines first i)) :
      first < i ∧ Encloses lines first i := by
    simpa using h
  have hlength := length_le_of_pairwise_lt
    (((List.range i).filter fun first => decide (Encloses lines first i)).map fun first =>
      (openCount lines first).toNat) (openCount lines i).toNat ?_ ?_
  · rw [List.length_map, ← List.countP_eq_length_filter] at hlength
    have := hnonneg i (by omega)
    unfold enclosing
    omega
  · rw [List.pairwise_map]
    refine (List.pairwise_lt_range.filter _).imp_of_mem ?_
    intro first other hfirst hother hlt
    have habove := (hmem first hfirst).2.above other (by have := (hmem other hother).1; omega) hlt
    have := hnonneg first (by have := (hmem first hfirst).1; omega)
    omega
  · intro n hn
    rcases List.mem_map.mp hn with ⟨first, hfirst, rfl⟩
    rcases hmem first hfirst with ⟨hlt, henc⟩
    have habove := henc.above i (by omega) hlt
    have := hnonneg first (by omega)
    omega

/-- In a chain outside of every other, all chains of a branch fit, live or not. -/
theorem NestsWell.chainsFit {limit : Nat} {chain : Chain} {before rest : List ScannedLine}
    (h : NestsWell limit (before ++ (chain.lines ++ rest))) (hbefore : Balanced before)
    (place : chain.Place) (defined : Text → Bool) :
    ChainsFit defined limit 1 place.clause.body := by
  intro first hopens _
  have hfirst := lt_length_of_any _ first _ hopens
  have hstop := place.stop_lt_length
  -- The positions of the branch in its chain, and from there among all lines.
  have hhead (i : Nat) (hi : IsHead place.clause.body first i) :
      IsHead (before ++ (chain.lines ++ rest)) (before.length + (place.start + 1 + first))
        (before.length + (place.start + 1 + i)) := by
    have hinner := (isHead_context place.opener place.closer place.balanced_body first _
      hfirst).mpr ⟨i, rfl, hi⟩
    rw [← place.lines_eq, place.length_opener] at hinner
    exact (isHead_context before rest chain.balanced_lines _ _ (by omega)).mpr ⟨_, rfl, hinner⟩
  have hget (i : Nat) (hi : i < place.clause.body.length) :
      (before ++ (chain.lines ++ rest))[before.length + (place.start + 1 + i)]? =
        place.clause.body[i]? := by
    rw [getElem?_context before chain.lines rest _ (by omega), place.getElem?_body i hi]
  have hcount (i : Nat) (hi : i ≤ place.clause.body.length) :
      openCount (before ++ (chain.lines ++ rest)) (before.length + (place.start + 1 + i)) =
        1 + openCount place.clause.body i := by
    rw [openCount_context before chain.lines rest _ (by omega), hbefore.closed,
      place.openCount_body i hi, Int.zero_add]
  have hlength : place.clause.body.length + (before.length + place.start + 1) <
      (before ++ (chain.lines ++ rest)).length := by
    simp only [List.length_append]
    omega
  refine ⟨?_, ?_⟩
  · intro head hheadAt helse other hotherAt
    have hlt := hheadAt.lt hfirst
    have hlt' := hotherAt.lt hfirst
    have hle := h.ordered (before.length + (place.start + 1 + first)) (by omega)
      (by rw [hget first hfirst]; exact hopens) ⟨before.length, by omega, ?_⟩
      (before.length + (place.start + 1 + head)) (by omega) (hhead head hheadAt)
      (by rw [hget head hlt]; exact helse)
      (before.length + (place.start + 1 + other)) (by omega) (hhead other hotherAt)
    · omega
    · -- The chain of the branch is the one around.
      exact (encloses_context before chain.lines rest 0 _ (by omega)).mpr
        (chain.encloses_of_lt _ (by omega) (by omega))
  · -- Behind the `#if` the count is two above the count in the branch.
    have hopen : openCount place.clause.body (first + 1) =
        openCount place.clause.body first + 1 := by
      have hline := List.getElem?_eq_getElem hfirst
      rw [hline] at hopens
      rw [openCount_succ _ first _ hline, ScannedLine.weight_of_opens _ hopens]
    have hshallow := h.shallow (before.length + (place.start + 1 + (first + 1))) (by omega)
    rw [hcount (first + 1) (by omega), hopen] at hshallow
    have := enclosing_le_openCount place.clause.body place.balanced_body first hfirst
    omega

/-! ### Two runs on one source -/

/-- A chain that nests well has no say in how resolving comes out. -/
theorem NestsWell.outcome_chain {limit : Nat} {chain : Chain} {before rest : List ScannedLine}
    (h : NestsWell limit (before ++ (chain.lines ++ rest))) (hbefore : Balanced before)
    (horder : chain.InOrder) (defined : Text → Bool) :
    (resolveLines defined limit 0 (chain.lines ++ rest)).outcome =
      (resolveLines defined limit 0 rest).outcome := by
  by_cases hchosen : ∃ place : chain.Place, place.Chosen defined
  · rcases hchosen with ⟨place, hchosen⟩
    have hfits := h.chainsFit hbefore place defined
    rw [chain.outcome_of_chosen defined limit 0 horder rest place hchosen]
    by_cases hopens : place.clause.body.any ScannedLine.opens
    · -- The branch has a chain in it, which is within the limit, and resolving it succeeds.
      have hlimit := depth_le_of_chainsFit defined limit 1 place.clause.body hopens hfits
      have hbody := (resolveLines_runs defined limit 1 hlimit place.clause.body
        place.balanced_body).succeeds_iff.mpr hfits
      rw [if_pos hopens, if_neg (by omega), hbody]
      rfl
    · rw [if_neg hopens]
  · exact chain.outcome_of_not_chosen defined limit 0 horder rest
      fun place hplace => hchosen ⟨place, hplace⟩

/-- Resolving lines behind balanced ones comes out alike under all symbols. -/
theorem outcome_eq_of_nestsWell (defined defined' : Text → Bool) (limit : Nat)
    (lines : List ScannedLine) :
    ∀ before : List ScannedLine, Balanced before → NestsWell limit (before ++ lines) →
      (resolveLines defined limit 0 lines).outcome =
        (resolveLines defined' limit 0 lines).outcome := by
  induction lines using reading_induction with
  | nil =>
      intro before _ _
      rw [resolveLines, resolveLines]
  | source scanned rest hreading ih =>
      intro before hbefore h
      rw [resolveLines_source _ _ _ _ _ hreading, resolveLines_source _ _ _ _ _ hreading]
      rw [List.append_cons] at h
      exact ih (before ++ [scanned]) (hbefore.append.mpr (balanced_singleton scanned hreading)) h
  | refused scanned rest hnext =>
      intro before _ _
      rw [resolveLines_refused _ _ _ _ _ hnext, resolveLines_refused _ _ _ _ _ hnext]
  | broken scanned guard rest error hreading hskip =>
      intro before _ _
      rw [resolveLines_broken defined limit 0 scanned guard rest error hreading hskip,
        resolveLines_broken defined' limit 0 scanned guard rest error hreading hskip]
      rfl
  | chain chain rest horder _ ih =>
      intro before hbefore h
      rw [h.outcome_chain hbefore horder defined, h.outcome_chain hbefore horder defined']
      rw [← List.append_assoc] at h
      exact ih (before ++ chain.lines) (hbefore.append.mpr chain.balanced_lines) h

/-- On a source whose inner chains are in order and within the limit, stripping succeeds
    under all symbols or fails under all with the same error. -/
theorem strip_fails_alike (settings : Settings) (source : Text)
    (h : NestsWell settings.nestingLimit (scan settings source)) (defined defined' : Text → Bool) :
    (∃ output output', (strip settings defined source).outcome = .ok output ∧
        (strip settings defined' source).outcome = .ok output') ∨
      ∃ error, (strip settings defined source).outcome = .error error ∧
        (strip settings defined' source).outcome = .error error := by
  have hsame := outcome_eq_of_nestsWell defined defined' settings.nestingLimit
    (scan settings source) [] balanced_nil h
  rw [outcome_strip_eq_map, outcome_strip_eq_map, ← hsame]
  rcases (resolveLines defined settings.nestingLimit 0 (scan settings source)).outcome with
    error | _
  · exact .inr ⟨error, rfl, rfl⟩
  · exact .inl ⟨_, _, rfl, rfl⟩

/-- The chain is out of order behind the branch that `A` keeps, and in front of the end
    that is reached without it. Both runs stop at the `#elif`. -/
theorem strip_fails_alike_of_outer_disorder :
    NestsWell ({} : Settings).nestingLimit
      (scan {} "#if A\nx\n#if B\n#endif\n#else\ny\n#elif B\n#endif\n".toList) ∧
    (strip {} (· == ['A'])
        "#if A\nx\n#if B\n#endif\n#else\ny\n#elif B\n#endif\n".toList).outcome =
      .error ⟨7, "#elif B".toList, .unexpectedDirective⟩ ∧
    (strip {} (fun _ => false)
        "#if A\nx\n#if B\n#endif\n#else\ny\n#elif B\n#endif\n".toList).outcome =
      .error ⟨7, "#elif B".toList, .unexpectedDirective⟩ := by
  have hwell : NestsWell ({} : Settings).nestingLimit
      (scan {} "#if A\nx\n#if B\n#endif\n#else\ny\n#elif B\n#endif\n".toList) := by
    decide +kernel
  have hfails : (strip {} (· == ['A'])
      "#if A\nx\n#if B\n#endif\n#else\ny\n#elif B\n#endif\n".toList).outcome =
        .error ⟨7, "#elif B".toList, .unexpectedDirective⟩ := by
    decide +kernel
  rcases strip_fails_alike {} _ hwell (· == ['A']) (fun _ => false) with
    ⟨output, _, houtput, -⟩ | ⟨error, herror, hsame⟩
  · rw [hfails] at houtput
    cases houtput
  · rw [hfails] at herror
    cases herror
    exact ⟨hwell, hfails, hsame⟩

end DirectiveStrip
