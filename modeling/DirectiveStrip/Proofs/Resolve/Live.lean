import DirectiveStrip.Proofs.Resolve.Output
import Mathlib.Control.Monad.Basic

/-!
# Stripping Keeps the Live Lines

What stripping does, for every source, set of symbols and settings, in terms of
the list of all its lines. It succeeds exactly if the lines are balanced and the
live chains are in order and not too deep, and then the output is the live lines,
terminators and all.

Resolving recurses on the branch of a chain and on what follows the chain. Both
are balanced, and liveness and fitting of the whole are put together from theirs,
so one induction on the number of lines proves success and output at once. The
limit comes in where a branch has a chain in it. Its first `#if` is live whatever
its guard says, so exceeding the limit is seen on the branch before it is entered.

## Main definitions

* `ResolvesLive`: Resolving succeeds if the live chains fit, and puts out the live
  lines.

## Theorems

* `liveLines_eq_self`: Without chains, all lines are live.
* `depth_le_of_chainsFit`: The first `#if` of a branch is live.
* `balance_of_resolveLines`: Only balanced lines are resolved.
* `Chain.runs_lines`: The step over a chain.
* `resolveLines_runs`: Resolving balanced lines.
* `strip_output_eq_live`: The output of stripping is the live lines.
* `strip_succeeds_iff`: When stripping succeeds.
-/

namespace DirectiveStrip

open Resolution

/-! ### Lines without chains -/

/-- Balanced lines without an `#if` have no directive at all. -/
theorem isSource_of_balanced (lines : List ScannedLine) (h : Balanced lines)
    (hopens : lines.any ScannedLine.opens = false) : ∀ scanned ∈ lines, scanned.isSource := by
  rw [← balance_iff_balanced] at h
  induction lines with
  | nil => simp
  | cons scanned rest ih =>
      rw [balance, Option.bind_eq_some_iff] at h
      rcases h with ⟨count, hnext, hrest⟩
      rw [List.any_cons, Bool.or_eq_false_iff] at hopens
      -- At zero the counter passes source lines and `#if`s, and there is no `#if`.
      have hsource : scanned.isSource ∧ count = 0 := by
        unfold ScannedLine.next at hnext
        unfold ScannedLine.isSource
        unfold ScannedLine.opens at hopens
        rcases hreading : scanned.reading with fault | (_ | _ | _ | _ | _) <;>
          simp [hreading] at hnext hopens ⊢
        exact hnext.symm
      rw [hsource.2] at hrest
      intro line hline
      rcases List.mem_cons.mp hline with rfl | hmem
      · exact hsource.1
      · exact ih hrest hopens.2 line hmem

/-- Where no chain has been opened, every position is live. -/
theorem isLive_of_not_opens (defined : Text → Bool) (lines : List ScannedLine) (i : Nat)
    (h : ∀ first < i, ¬ lines[first]?.any ScannedLine.opens) : IsLive defined lines i :=
  fun first hfirst henc => absurd henc.opens (h first hfirst)

theorem liveIn_eq_self (defined : Text → Bool) (whole : List ScannedLine) (start : Nat)
    (part : List ScannedLine) (hsource : ∀ scanned ∈ part, scanned.isSource)
    (hlive : ∀ i < part.length, IsLive defined whole (start + i)) :
    liveIn defined whole start part = part := by
  induction part generalizing start with
  | nil => rfl
  | cons scanned rest ih =>
      have hrest := ih (start + 1) (fun line hmem => hsource line (List.mem_cons_of_mem _ hmem))
        fun i hi => by
          rw [show start + 1 + i = start + (i + 1) by omega]
          exact hlive (i + 1) (by simpa using hi)
      rw [liveIn_cons, hrest, if_pos ⟨hsource scanned List.mem_cons_self, hlive 0 (by simp)⟩]
      rfl

/-- Without chains, all lines are live. -/
theorem liveLines_eq_self (defined : Text → Bool) (lines : List ScannedLine)
    (h : Balanced lines) (hopens : lines.any ScannedLine.opens = false) :
    liveLines defined lines = lines := by
  refine liveIn_eq_self defined lines 0 lines (isSource_of_balanced lines h hopens) ?_
  intro i hi
  refine isLive_of_not_opens defined lines _ ?_
  intro first hfirst hany
  rcases exists_mem_of_any lines first _ hany with ⟨scanned, hmem, hopen⟩
  exact List.any_eq_false.mp hopens scanned hmem hopen

theorem chainsFit_of_not_opens (defined : Text → Bool) (limit depth : Nat)
    (lines : List ScannedLine) (hopens : lines.any ScannedLine.opens = false) :
    ChainsFit defined limit depth lines := by
  intro first hany
  rcases exists_mem_of_any lines first _ hany with ⟨scanned, hmem, hopen⟩
  exact absurd hopen (List.any_eq_false.mp hopens scanned hmem)

/-- The first `#if` among some lines is live, so it has to be within the limit. -/
theorem depth_le_of_chainsFit (defined : Text → Bool) (limit depth : Nat)
    (lines : List ScannedLine) (hopens : lines.any ScannedLine.opens)
    (h : ChainsFit defined limit depth lines) : depth ≤ limit := by
  have hlt := List.findIdx_lt_length_of_exists (List.any_eq_true.mp hopens)
  have hfirst : lines[lines.findIdx ScannedLine.opens]?.any ScannedLine.opens := by
    rw [List.getElem?_eq_getElem hlt, Option.any_some]
    exact List.findIdx_getElem
  have hlive : IsLive defined lines (lines.findIdx ScannedLine.opens) := by
    refine isLive_of_not_opens defined lines _ ?_
    intro first hbefore hany
    rw [List.getElem?_eq_getElem (by omega), Option.any_some,
      List.not_of_lt_findIdx hbefore] at hany
    cases hany
  exact Nat.le_trans (Nat.le_add_right _ _) (h _ hfirst hlive).shallow

/-! ### Resolving balanced lines -/

/-- Resolving lines inside `depth` chains succeeds exactly if their live chains fit, and
    puts out their live lines. -/
def ResolvesLive (defined : Text → Bool) (limit depth : Nat) (lines : List ScannedLine) : Prop :=
  Runs (resolveLines defined limit depth lines) (ChainsFit defined limit depth lines)
    ((liveLines defined lines).flatMap (·.line.text))

/-- Only balanced lines are resolved. Every way on leads behind lines that the
    counter has passed. -/
theorem balance_of_resolveLines (defined : Text → Bool) (limit depth : Nat)
    (lines : List ScannedLine)
    (h : (resolveLines defined limit depth lines).outcome = .ok ()) :
    balance 0 lines = some 0 := by
  -- On the number of lines, since what follows a chain is no tail of the list.
  induction hlen : lines.length using Nat.strong_induction_on generalizing lines with
  | _ n ih =>
      cases lines with
      | nil => rfl
      | cons scanned rest =>
          rcases hnext : scanned.next 0 with _ | count
          · rw [resolveLines_refused defined limit depth scanned rest hnext] at h
            cases h
          · rw [balance, hnext, Option.bind_some]
            rw [List.length_cons] at hlen
            rcases scanned.next_zero_cases count hnext with
              ⟨hreading, rfl⟩ | ⟨guard, hreading, rfl⟩
            · rw [resolveLines_source _ _ _ _ _ hreading] at h
              exact ih rest.length (by omega) rest h rfl
            · rcases hchoice : (chooseBranch defined scanned.line guard rest).outcome with
                error | ⟨branch?, tail⟩
              · rw [resolveLines_error _ _ _ _ _ guard hreading error hchoice] at h
                cases h
              · have htail : tail.length < n := by
                  have := (length_chooseBranch hchoice).1
                  dsimp only at this
                  omega
                rw [balance_of_chooseBranch defined scanned.line guard rest _ hchoice]
                rcases branch? with _ | branch
                · rw [resolveLines_none _ _ _ _ _ guard hreading tail hchoice] at h
                  exact ih tail.length htail tail h rfl
                · -- Whatever became of the branch, what follows the chain was resolved.
                  rw [resolveLines_some _ _ _ _ _ guard hreading branch tail hchoice] at h
                  simp only [Trace.outcome_after] at h
                  split at h
                  · split at h
                    · cases h
                    · rcases Trace.outcome_bind_eq_ok h with ⟨_, -, htailOk⟩
                      exact ih tail.length htail tail htailOk rfl
                  · exact ih tail.length htail tail h rfl

/-- A kept branch, and then what follows the chain. Without chains it is copied, and all
    of it is live. With chains it is resolved, unless that is too deep. -/
theorem runs_branch (defined : Text → Bool) (limit depth start : Nat) (resolving : Event)
    (hresolving : resolving.output = []) (error : DirectiveError) (body : List ScannedLine)
    (hbody : Balanced body)
    (hruns : depth + 1 ≤ limit → ResolvesLive defined limit (depth + 1) body)
    (next : Resolution Unit) (condition : Prop) (text : Text) (hnext : Runs next condition text) :
    Runs
      (if body.any ScannedLine.opens then
        if limit ≤ depth then .fail error
        else
          .after [resolving] ((resolveLines defined limit (depth + 1) body).bind fun () => next)
      else .after [.copied start (body.flatMap (·.line.text))] next)
      (ChainsFit defined limit (depth + 1) body ∧ condition)
      ((liveLines defined body).flatMap (·.line.text) ++ text) := by
  by_cases hopens : body.any ScannedLine.opens
  · -- The first `#if` of the branch is live, so a branch that is too deep does not fit.
    rw [if_pos hopens]
    by_cases hlimit : limit ≤ depth
    · rw [if_pos hlimit]
      refine runs_error error _ _ rfl ?_
      intro h
      have := depth_le_of_chainsFit defined limit (depth + 1) body hopens h.1
      omega
    · rw [if_neg hlimit]
      have hboth := ((hruns (by omega)).bind hnext).after [resolving]
      rw [List.flatMap_singleton, hresolving] at hboth
      exact hboth
  · have hnone : body.any ScannedLine.opens = false := by simpa using hopens
    rw [if_neg hopens, liveLines_eq_self defined body hbody hnone]
    have hcopied := hnext.after [.copied start (body.flatMap (·.line.text))]
    rw [List.flatMap_singleton] at hcopied
    exact hcopied.congr
      (and_iff_right (chainsFit_of_not_opens defined limit (depth + 1) body hnone)).symm

namespace Chain

variable {chain : Chain} (defined : Text → Bool) (limit depth : Nat)

/-- A chain of which no branch is kept leaves nothing, and nothing in it is live. -/
theorem runs_none (hdepth : depth ≤ limit) (guard : Guard)
    (hguard : chain.first.head.reading = .ok (.ifLine guard)) (lines rest : List ScannedLine)
    (horder : chain.InOrder) (hfind : chain.clauses.find? (·.takes defined) = none)
    (hchoice : (chooseBranch defined chain.first.head.line guard lines).outcome =
      .ok ⟨none, rest⟩)
    (hruns : ResolvesLive defined limit depth rest) :
    Runs (resolveLines defined limit depth (chain.first.head :: lines))
      (ChainsFit defined limit depth chain.lines ∧ ChainsFit defined limit depth rest)
      ((liveLines defined chain.lines).flatMap (·.line.text) ++
        (liveLines defined rest).flatMap (·.line.text)) := by
  have hno := not_chosen_of_find? defined hfind
  have hfits : ChainsFit defined limit depth chain.lines :=
    (chainsFit_iff defined limit depth).mpr
      ⟨horder, hdepth, fun place hchosen => absurd hchosen (hno place)⟩
  -- What is logged on the way is no output.
  have hsilent := output_chooseBranch defined chain.first.head.line guard lines
  rw [Resolution.output] at hsilent
  rw [resolveLines_none _ _ _ _ _ guard hguard rest hchoice, liveLines_eq_nil defined horder hno]
  have hall := (hruns.after
    (chooseBranch defined chain.first.head.line guard lines).events).after chain.first.head.notes
  rw [hsilent, output_notes] at hall
  exact hall.congr (and_iff_right hfits).symm

/-- Of a chain with a kept branch the branch is live, and it has to fit one level deeper. -/
theorem runs_some (hdepth : depth ≤ limit) (guard : Guard)
    (hguard : chain.first.head.reading = .ok (.ifLine guard)) (lines rest : List ScannedLine)
    (horder : chain.InOrder) (place : chain.Place) (hchosen : place.Chosen defined)
    (branch : Branch) (hlines : branch.lines = place.clause.body)
    (hopens : branch.opensChain = branch.lines.any ScannedLine.opens)
    (hchoice : (chooseBranch defined chain.first.head.line guard lines).outcome =
      .ok ⟨some branch, rest⟩)
    (hruns : ResolvesLive defined limit depth rest)
    (hbody : depth + 1 ≤ limit → ResolvesLive defined limit (depth + 1) place.clause.body) :
    Runs (resolveLines defined limit depth (chain.first.head :: lines))
      (ChainsFit defined limit depth chain.lines ∧ ChainsFit defined limit depth rest)
      ((liveLines defined chain.lines).flatMap (·.line.text) ++
        (liveLines defined rest).flatMap (·.line.text)) := by
  -- The condition on the chain is the one on the branch that is kept.
  have hfits : ChainsFit defined limit depth chain.lines ↔
      ChainsFit defined limit (depth + 1) place.clause.body := by
    rw [chainsFit_iff]
    constructor
    · intro h
      exact h.2.2 place hchosen
    · intro h
      refine ⟨horder, hdepth, ?_⟩
      intro other hother
      rw [Place.Chosen.unique defined hother hchosen]
      exact h
  have hsilent := output_chooseBranch defined chain.first.head.line guard lines
  rw [Resolution.output] at hsilent
  rw [hfits, liveLines_eq_body defined horder place hchosen,
    resolveLines_some _ _ _ _ _ guard hguard branch rest hchoice, hopens, hlines]
  have hbranch := runs_branch defined limit depth branch.start
    (.resolving (depth + 1) branch.start branch.stop branch.firstLine) rfl
    (chain.first.head.line.error (.nestingTooDeep limit)) place.clause.body place.balanced_body
    hbody _ _ _ hruns
  have hall := ((hbranch.after
    [.keeping branch.start branch.stop chain.first.head.line.number]).after
      (chooseBranch defined chain.first.head.line guard lines).events).after
        chain.first.head.notes
  rw [hsilent, output_notes] at hall
  exact hall

/-- The step over a chain: what is chosen, resolved one level deeper if a chain is in
    it, and then what follows. -/
theorem runs_lines (hdepth : depth ≤ limit) (guard : Guard)
    (hguard : chain.first.head.reading = .ok (.ifLine guard)) (lines rest : List ScannedLine)
    (hlines : chain.first.head :: lines = chain.lines ++ rest)
    (hbalanced : Balanced chain.lines) (hrest : Balanced rest)
    (hruns : ResolvesLive defined limit depth rest)
    (hbody : depth + 1 ≤ limit → ∀ clause ∈ chain.clauses,
      ResolvesLive defined limit (depth + 1) clause.body) :
    ResolvesLive defined limit depth (chain.first.head :: lines) := by
  have hfits := chainsFit_append defined hbalanced hrest limit depth
  have hlive := liveLines_append defined hbalanced hrest
  rw [← hlines] at hfits hlive
  rw [ResolvesLive, hfits, hlive, List.flatMap_append]
  have hyields := chain.chooseBranch_yields defined guard hguard lines rest hlines
  by_cases horder : chain.InOrder
  · rcases hyields.complete horder with ⟨⟨branch?, tail⟩, hchoice⟩
    rcases (hyields.sound _ hchoice).2 with ⟨rfl, hkept, hopens⟩
    dsimp only at hkept hopens hruns ⊢
    rcases hfind : chain.clauses.find? (·.takes defined) with _ | clause
    · rw [hfind, Option.map_none, Option.map_eq_none_iff] at hkept
      subst hkept
      exact runs_none defined limit depth hdepth guard hguard lines tail horder hfind hchoice hruns
    · rcases exists_chosen_of_find? defined clause hfind with ⟨place, rfl, hchosen⟩
      rw [hfind, Option.map_some, Option.map_eq_some_iff] at hkept
      rcases hkept with ⟨branch, rfl, hbranch⟩
      exact runs_some defined limit depth hdepth guard hguard lines tail horder place hchosen
        branch hbranch (hopens branch rfl) hchoice hruns
        fun hdeeper => hbody hdeeper place.clause place.mem
  · -- Out of order, choosing fails, and the chain does not fit either.
    rcases hchoice : (chooseBranch defined chain.first.head.line guard lines).outcome with
      error | selection
    · rw [resolveLines_error _ _ _ _ _ guard hguard error hchoice]
      refine runs_error error _ _ rfl ?_
      intro h
      exact horder ((chainsFit_iff defined limit depth).mp h.1).1
    · exact absurd (hyields.sound selection hchoice).1 horder

end Chain

/-- The step over a line that is no directive. -/
theorem resolvesLive_source (defined : Text → Bool) (limit depth : Nat) (scanned : ScannedLine)
    (h : scanned.reading = .ok .source) (rest : List ScannedLine) (hrest : Balanced rest)
    (hruns : ResolvesLive defined limit depth rest) :
    ResolvesLive defined limit depth (scanned :: rest) := by
  -- The line is balanced lines by itself, so it splits off as the first part.
  have hone := balanced_singleton scanned h
  have hopens : [scanned].any ScannedLine.opens = false := by
    simp [ScannedLine.opens, h]
  have hfits := chainsFit_of_not_opens defined limit depth [scanned] hopens
  have hsplit := chainsFit_append defined hone hrest limit depth
  have hlive := liveLines_append defined hone hrest
  rw [List.singleton_append] at hsplit hlive
  rw [ResolvesLive, resolveLines_source _ _ _ _ _ h, hsplit, hlive,
    liveLines_eq_self defined [scanned] hone hopens, List.flatMap_append, List.flatMap_singleton]
  have hall := (hruns.after [.copied scanned.line.start scanned.line.text]).after scanned.notes
  rw [output_notes, List.flatMap_singleton] at hall
  exact hall.congr (and_iff_right hfits).symm

/-- Resolving balanced lines succeeds exactly if their live chains fit, and puts out
    their live lines. -/
theorem resolveLines_runs (defined : Text → Bool) (limit depth : Nat) (hdepth : depth ≤ limit)
    (lines : List ScannedLine) (hlines : Balanced lines) :
    ResolvesLive defined limit depth lines := by
  -- On the number of lines, at every depth, since a branch is resolved one level deeper.
  induction hlen : lines.length using Nat.strong_induction_on generalizing depth lines with
  | _ n ih =>
      cases lines with
      | nil =>
          have hfits := chainsFit_of_not_opens defined limit depth [] rfl
          rw [ResolvesLive, resolveLines]
          exact ⟨⟨fun _ => hfits, fun _ => rfl⟩, fun _ => rfl⟩
      | cons scanned rest =>
          rw [List.length_cons] at hlen
          have hbalance := (balance_iff_balanced _).mpr hlines
          rw [balance, Option.bind_eq_some_iff] at hbalance
          rcases hbalance with ⟨count, hnext, hrest⟩
          rcases scanned.next_zero_cases count hnext with ⟨hreading, rfl⟩ | ⟨guard, hreading, rfl⟩
          · have hbal := (balance_iff_balanced rest).mp hrest
            exact resolvesLive_source defined limit depth scanned hreading rest hbal
              (ih rest.length (by omega) depth hdepth rest hbal rfl)
          · -- The branches and what follows are shorter, and each is balanced.
            have hopens : scanned.opens := by
              rw [ScannedLine.opens, hreading]
            rcases exists_chain_of_balanced scanned rest hopens hlines with
              ⟨chain, tail, heq, rfl, htail⟩
            rw [heq] at hlines
            have hchain := hlines.of_append htail
            have htotal := congrArg List.length heq
            rw [List.length_cons, List.length_append] at htotal
            have hpos := chain.length_body_lt chain.first List.mem_cons_self
            have htailRuns := ih tail.length (by omega) depth hdepth tail htail rfl
            refine Chain.runs_lines defined limit depth hdepth guard hreading rest tail heq hchain
              htail htailRuns ?_
            intro hdeeper clause hclause
            have hlt := chain.length_body_lt clause hclause
            exact ih clause.body.length (by omega) (depth + 1) hdeeper clause.body
              (chain.balanced clause hclause) rfl

/-! ### Stripping -/

/-- Stripping is resolving all lines of the source, outside of every chain. -/
theorem outcome_strip_eq_map (settings : Settings) (defined : Text → Bool) (source : Text) :
    (strip settings defined source).outcome =
      (resolveLines defined settings.nestingLimit 0 (scan settings source)).outcome.map fun _ =>
        Resolution.output
          (resolveLines defined settings.nestingLimit 0 (scan settings source)) := by
  rw [strip, Trace.outcome_bind, Trace.outcome_after, output_after]
  rcases (resolveLines defined settings.nestingLimit 0 (scan settings source)).outcome with
    error | _ <;> rfl

theorem outcome_strip (settings : Settings) (defined : Text → Bool) (source output : Text) :
    (strip settings defined source).outcome = .ok output ↔
      (resolveLines defined settings.nestingLimit 0 (scan settings source)).outcome = .ok () ∧
        output = Resolution.output
          (resolveLines defined settings.nestingLimit 0 (scan settings source)) := by
  rw [outcome_strip_eq_map]
  rcases (resolveLines defined settings.nestingLimit 0 (scan settings source)).outcome with
    error | _
  · simp [Except.map]
  · simp [Except.map, eq_comm]

/-- If stripping succeeds, the output is the live lines of the source that are no
    directives, in order and with their terminators. -/
theorem strip_output_eq_live (settings : Settings) (defined : Text → Bool)
    (source output : Text) (h : (strip settings defined source).outcome = .ok output) :
    output = (liveLines defined (scan settings source)).flatMap (·.line.text) := by
  rcases (outcome_strip settings defined source output).mp h with ⟨hrun, rfl⟩
  have hbalanced := (balance_iff_balanced _).mp (balance_of_resolveLines defined _ 0 _ hrun)
  exact (resolveLines_runs defined settings.nestingLimit 0 (Nat.zero_le _) _ hbalanced).output_eq
    hrun

/-- A discarded chain may be out of order. The `#elif` behind the `#else` is read and
    has no effect. -/
theorem strip_output_eq_live_of_discarded_disorder :
    (strip {} (· == ['A'])
        "x\n#if B\n#if A\n#else\n#elif A\ny\n#endif\n#else\nz\n#endif".toList).outcome =
      .ok "x\nz\n".toList ∧
    "x\nz\n".toList =
      (liveLines (· == ['A']) (scan {}
        "x\n#if B\n#if A\n#else\n#elif A\ny\n#endif\n#else\nz\n#endif".toList)).flatMap
          (·.line.text) :=
  ⟨by decide +kernel, strip_output_eq_live _ _ _ _ (by decide +kernel)⟩

/-- Stripping succeeds exactly if all lines can be read, the directives pair up, and
    the live chains are in order and within the limit. -/
theorem strip_succeeds_iff (settings : Settings) (defined : Text → Bool) (source : Text) :
    (∃ output, (strip settings defined source).outcome = .ok output) ↔
      Balanced (scan settings source) ∧
        ChainsFit defined settings.nestingLimit 0 (scan settings source) := by
  constructor
  · intro h
    rcases h with ⟨output, h⟩
    -- Success alone gives balanced lines, and for these the fitting is necessary.
    have hrun := ((outcome_strip settings defined source output).mp h).1
    have hbalanced := (balance_iff_balanced _).mp (balance_of_resolveLines defined _ 0 _ hrun)
    refine ⟨hbalanced, ?_⟩
    exact (resolveLines_runs defined settings.nestingLimit 0 (Nat.zero_le _) _
      hbalanced).succeeds_iff.mp hrun
  · intro h
    rcases h with ⟨hbalanced, hfits⟩
    have hruns := resolveLines_runs defined settings.nestingLimit 0 (Nat.zero_le _) _ hbalanced
    exact ⟨_, (outcome_strip settings defined source _).mpr ⟨hruns.succeeds_iff.mpr hfits, rfl⟩⟩

end DirectiveStrip
