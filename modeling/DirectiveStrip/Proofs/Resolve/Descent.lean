import DirectiveStrip.Proofs.Resolve.Failure
import DirectiveStrip.Proofs.Resolve.Span

/-!
# Descending into a Branch

A kept branch with a chain in it is resolved in its turn. By then its chain has been read
through, and that leaves little that could still go wrong. Every line of the branch has been
read without fault, and its directives pair up, since the directive at which the branch
ends is the first that does not belong to a chain inside it. So nothing in the branch is
open at its end, and none of its directives is out of place.

What the walk over the chain has not looked at is the order of the chains inside the
branch, and how deep they nest. An error from inside a branch is one of these two. The
first is always that of a branch behind an `#else`, found by the walk over its chain.

The branch ends at the first directive of its own chain, whereas the walk goes on to the
`#endif`. Whether the branch stands behind the `#if`, an `#elif` or the `#else` makes no
difference.

## Main definitions

* `InnerFault`: What can be wrong inside balanced lines.
* `Stretch`: A stretch of the source that is resolved inside chains.
* `Stretch.IsOf`: The lines of the source that fill a stretch.

## Theorems

* `error_of_skipChain_clauses`: Why the clauses of a chain are not read through.
* `innerFault_of_resolveLines`: Resolving balanced lines has no other errors.
* `descents_balanced`: The stretches that a run descends into are balanced.
* `strip_descends_into_balanced`: The same for stripping, with the errors.
-/

namespace DirectiveStrip

open Resolution

/-! ### What can be wrong inside balanced lines -/

/-- An error of a directive behind an `#else` of its chain, or of a chain that nests too
    deep. -/
inductive InnerFault (limit : Nat) (lines : List ScannedLine) : DirectiveError → Prop where
  /-- An `#elif` or `#else` that comes behind an `#else` of the same chain. -/
  | behindElse (first other i : Nat) (scanned : ScannedLine) (get : lines[i]? = some scanned)
      (separates : scanned.separates) (isHead : IsHead lines first i)
      (isHead_other : IsHead lines first other)
      (isElse : lines[other]?.any ScannedLine.isElse) (before : other < i) :
      InnerFault limit lines (scanned.line.error .unexpectedDirective)
  /-- An `#if` with too many chains around it. -/
  | tooDeep (i : Nat) (scanned : ScannedLine) (get : lines[i]? = some scanned)
      (opens : scanned.opens) :
      InnerFault limit lines (scanned.line.error (.nestingTooDeep limit))

/-- What is wrong in a balanced part is wrong in the whole. -/
theorem InnerFault.context {limit : Nat} {body : List ScannedLine} {error : DirectiveError}
    (h : InnerFault limit body error) (hbody : Balanced body) (before after : List ScannedLine) :
    InnerFault limit (before ++ (body ++ after)) error := by
  cases h with
  | behindElse first other i scanned hget hsep hhead hother helse hlt =>
      have hi := (List.getElem?_eq_some_iff.mp hget).1
      have hle := hother.le
      have hat (k : Nat) (hk : IsHead body first k) :
          IsHead (before ++ (body ++ after)) (before.length + first) (before.length + k) :=
        (isHead_context before after hbody first _ (by omega)).mpr ⟨k, rfl, hk⟩
      refine .behindElse _ _ (before.length + i) scanned ?_ hsep (hat i hhead) (hat other hother)
        ?_ (by omega)
      · rw [getElem?_context before body after i hi]
        exact hget
      · rw [getElem?_context before body after other (by omega)]
        exact helse
  | tooDeep i scanned hget hopens =>
      refine .tooDeep (before.length + i) scanned ?_ hopens
      rw [getElem?_context before body after i (List.getElem?_eq_some_iff.mp hget).1]
      exact hget

/-- The clauses of a chain are not read through only for one behind an `#else`. -/
theorem error_of_skipChain_clauses (opening : Line) (closing : ScannedLine)
    (hclose : closing.closes) (rest : List ScannedLine) (clauses : List Clause) (afterElse : Bool)
    (h : ∀ clause ∈ clauses, clause.head.separates ∧ Balanced clause.body)
    (error : DirectiveError)
    (herror : (skipChain opening afterElse 0 (clauseLines clauses ++ closing :: rest)).outcome =
      .error error) :
    ∃ earlier clause others, clauses = earlier ++ clause :: others ∧
      error = clause.head.line.error .unexpectedDirective ∧
      (afterElse ∨ ∃ other ∈ earlier, other.head.isElse) := by
  induction clauses generalizing afterElse with
  | nil =>
      rw [clauseLines_nil, List.nil_append, skipChain_closing _ _ _ _ hclose] at herror
      cases herror
  | cons clause clauses ih =>
      rcases h clause List.mem_cons_self with ⟨hsep, hbody⟩
      rw [clauseLines_cons, List.cons_append, skipChain_separator _ _ _ _ hsep] at herror
      cases afterElse with
      | true =>
          cases herror
          exact ⟨[], clause, clauses, rfl, rfl, .inl rfl⟩
      | false =>
          -- The body of the clause is passed over, and its head is remembered.
          rw [if_neg (by simp), List.append_assoc,
            skipChain_append opening _ 0 0 _ _ ((balance_iff_balanced _).mpr hbody)] at herror
          rcases ih _ (fun clause hmem => h clause (List.mem_cons_of_mem _ hmem)) herror with
            ⟨earlier, found, others, rfl, herror, helse⟩
          refine ⟨clause :: earlier, found, others, rfl, herror, .inr ?_⟩
          rcases helse with helse | ⟨other, hother, helse⟩
          · exact ⟨clause, List.mem_cons_self, helse⟩
          · exact ⟨other, List.mem_cons_of_mem _ hother, helse⟩

/-- If a chain with an `#endif` is not read through, it has a branch behind its `#else`. -/
theorem Chain.innerFault_of_skipChain (chain : Chain) (rest : List ScannedLine) (limit : Nat)
    (error : DirectiveError)
    (h : (skipChain chain.first.head.line false 0 (chain.behind ++ rest)).outcome =
      .error error) :
    InnerFault limit chain.lines error := by
  have hfirst := (balance_iff_balanced _).mpr (chain.balanced chain.first List.mem_cons_self)
  rw [behind, List.append_assoc, skipChain_append _ _ 0 0 _ _ hfirst, List.append_assoc] at h
  rcases error_of_skipChain_clauses _ chain.closing chain.closes _ chain.later false
      (fun clause hmem =>
        ⟨chain.separates clause hmem, chain.balanced clause (List.mem_cons_of_mem _ hmem)⟩)
      error h with ⟨earlier, clause, others, hlater, rfl, helse⟩
  rcases helse with helse | ⟨other, hother, helse⟩
  · cases helse
  · -- Both clauses have a place in the chain, one before the other.
    have hclauses : chain.clauses = (chain.first :: earlier) ++ clause :: others := by
      rw [clauses, hlater, List.cons_append]
    let place : chain.Place := ⟨chain.first :: earlier, clause, others, hclauses⟩
    rcases place.exists_before_of_mem other (List.mem_cons_of_mem _ hother) with
      ⟨q, rfl, hbefore⟩
    have hstop := hbefore.stop_le_start
    refine .behindElse 0 q.start place.start clause.head place.getElem?_start
      (chain.separates clause (by simp [hlater])) ((chain.isHead_iff _).mpr ⟨place, rfl⟩)
      ((chain.isHead_iff _).mpr ⟨q, rfl⟩) ?_ (by omega)
    rw [q.getElem?_start]
    exact helse

/-- Resolving balanced lines fails for what can be wrong inside them, and for nothing else. -/
theorem innerFault_of_resolveLines (defined : Text → Bool) (limit : Nat)
    (lines : List ScannedLine) :
    ∀ (depth : Nat) (error : DirectiveError), Balanced lines →
      (resolveLines defined limit depth lines).outcome = .error error →
        InnerFault limit lines error := by
  have hbehind (chain : Chain) (rest : List ScannedLine) (error : DirectiveError)
      (hrest : Balanced rest) (h : InnerFault limit rest error) :
      InnerFault limit (chain.lines ++ rest) error := by
    have hfault := h.context hrest chain.lines []
    rw [List.append_nil] at hfault
    exact hfault
  induction lines using resolving_induction defined with
  | nil =>
      intro depth error _ h
      rw [resolveLines] at h
      cases h
  | source scanned rest hreading ih =>
      intro depth error hlines h
      have hsingle := balanced_singleton scanned hreading
      have hrest : Balanced rest := hsingle.append.mp hlines
      rw [resolveLines_source _ _ _ _ _ hreading] at h
      have hfault := (ih depth error hrest h).context hrest [scanned] []
      rw [List.append_nil] at hfault
      exact hfault
  | refused scanned rest hnext =>
      -- Balanced lines do not begin with a line that is refused.
      intro depth error hlines _
      rw [← balance_iff_balanced, balance, hnext] at hlines
      cases hlines
  | broken scanned guard rest error' hreading hskip =>
      intro depth error hlines h
      have hopens : scanned.opens := by
        rw [ScannedLine.opens, hreading]
      rcases exists_chain_of_balanced scanned rest hopens hlines with
        ⟨chain, tail, heq, rfl, -⟩
      rw [resolveLines_broken defined limit depth _ guard rest error' hreading hskip] at h
      cases h
      rw [chain.lines_eq_cons, List.cons_append, List.cons.injEq] at heq
      rcases heq with ⟨-, rfl⟩
      have hfault := (chain.innerFault_of_skipChain tail limit _ hskip).context
        chain.balanced_lines [] tail
      rw [List.nil_append, chain.lines_eq_cons, List.cons_append] at hfault
      exact hfault
  | dropped chain rest horder hnone ih =>
      intro depth error hlines h
      have hrest : Balanced rest := chain.balanced_lines.append.mp hlines
      rw [chain.outcome_of_not_chosen defined limit depth horder rest hnone] at h
      exact hbehind chain rest error hrest (ih depth error hrest h)
  | kept chain rest place horder hchosen ihBody ihRest =>
      intro depth error hlines h
      have hrest : Balanced rest := chain.balanced_lines.append.mp hlines
      rw [chain.outcome_of_chosen defined limit depth horder rest place hchosen] at h
      split at h
      · split at h
        · cases h
          exact .tooDeep 0 chain.first.head (by simp [chain.lines_eq_cons]) chain.opens
        · rcases hbody :
            (resolveLines defined limit (depth + 1) place.clause.body).outcome with error' | _
          · rw [hbody] at h
            cases h
            rw [place.lines_eq, List.append_assoc, List.append_assoc]
            exact (ihBody (depth + 1) error place.balanced_body hbody).context
              place.balanced_body place.opener (place.closer ++ rest)
          · rw [hbody] at h
            exact hbehind chain rest error hrest (ihRest depth error hrest h)
      · exact hbehind chain rest error hrest (ihRest depth error hrest h)

/-! ### Where a run descends -/

/-- A stretch of the source that is resolved inside some chains. -/
structure Stretch where
  /-- The number of chains around it. -/
  depth : Nat
  start : Nat
  stop : Nat
  /-- The number of its first line. -/
  firstLine : Nat
deriving DecidableEq, Repr

/-- The stretch that is resolved with an event, if some chain is around it. -/
def Event.descents : Event → List Stretch
  | resolving (depth + 1) start stop firstLine => [⟨depth + 1, start, stop, firstLine⟩]
  | _ => []

theorem Event.descents_of_isChoosing (event : Event) (h : event.isChoosing) :
    event.descents = [] := by
  cases event with
  | resolving depth start stop firstLine => cases h
  | _ => rfl

/-- The stretch is filled by these lines of the source. It begins and ends where lines do. -/
def Stretch.IsOf (settings : Settings) (source : Text) (stretch : Stretch)
    (part : List ScannedLine) : Prop :=
  ∃ before after, scan settings source = before ++ (part ++ after) ∧
    stretch.start = byteSize (scannedText before) ∧
    stretch.stop = byteSize (scannedText before) + byteSize (scannedText part) ∧
    stretch.firstLine = before.length + 1

/-- Every stretch that a run descends into consists of balanced lines. -/
theorem descents_balanced (settings : Settings) (source : Text) (defined : Text → Bool)
    (limit : Nat) (lines : List ScannedLine) :
    ∀ (depth : Nat) (before after : List ScannedLine),
      scan settings source = before ++ (lines ++ after) →
        ∀ stretch ∈ view Event.descents (resolveLines defined limit depth lines),
          ∃ part, stretch.IsOf settings source part ∧ Balanced part := by
  induction lines using resolving_induction defined with
  | nil =>
      intro depth before after _ stretch hmem
      rw [resolveLines] at hmem
      cases hmem
  | source scanned rest hreading ih =>
      intro depth before after hscan
      rw [view_source _ Event.descents_of_isChoosing _ _ _ _ _ hreading]
      exact ih depth (before ++ [scanned]) after (by rw [hscan]; simp)
  | refused scanned rest hnext =>
      intro depth before after _ stretch hmem
      rw [view_refused _ Event.descents_of_isChoosing _ _ _ _ _ hnext] at hmem
      cases hmem
  | broken scanned guard rest error hreading hskip =>
      intro depth before after _ stretch hmem
      rw [view_broken _ Event.descents_of_isChoosing _ _ _ _ guard _ error hreading hskip] at hmem
      cases hmem
  | dropped chain rest horder hnone ih =>
      intro depth before after hscan
      rw [view_of_not_chosen _ Event.descents_of_isChoosing defined limit depth horder rest hnone]
      exact ih depth (before ++ chain.lines) after (by rw [hscan]; simp)
  | kept chain rest place horder hchosen ihBody ihRest =>
      intro depth before after hscan
      have hrest := ihRest depth (before ++ chain.lines) after (by rw [hscan]; simp)
      rcases chain.first.head.opens_cases chain.opens with ⟨guard, hguard⟩
      rcases view_of_chosen _ Event.descents_of_isChoosing defined limit depth horder rest guard
        hguard place hchosen with ⟨branch, hlines, hchoice, heq⟩
      rcases chain.exists_position settings defined source guard before rest after hscan branch
        hchoice with ⟨opener, closer, hcut, hposition⟩
      rw [hlines] at hcut hposition
      have hplace : scan settings source =
          (before ++ opener) ++ (place.clause.body ++ (closer ++ (rest ++ after))) := by
        rw [hscan, hcut]
        simp
      have hbody := ihBody (depth + 1) _ _ hplace
      intro stretch hmem
      simp only [heq, Event.descents, List.nil_append] at hmem
      split at hmem
      · split at hmem
        · cases hmem
        · -- The branch itself, what is inside of it, and what follows the chain.
          rw [List.singleton_append, List.mem_cons, view_bind, List.mem_append] at hmem
          rcases hmem with rfl | hmem | hmem
          · exact ⟨place.clause.body, ⟨_, _, hplace, hposition⟩, place.balanced_body⟩
          · exact hbody stretch hmem
          · split at hmem
            · exact hrest stretch hmem
            · cases hmem
      · exact hrest stretch hmem

/-- Wherever stripping descends into a branch, the stretch that it reads begins and ends
    where lines of the source do, and these lines are balanced. So it can fail there for a
    branch behind an `#else` or for the nesting, and for nothing else. -/
theorem strip_descends_into_balanced (settings : Settings) (defined : Text → Bool)
    (source : Text) (depth start stop firstLine : Nat)
    (h : .resolving (depth + 1) start stop firstLine ∈ (strip settings defined source).events) :
    ∃ part, (⟨depth + 1, start, stop, firstLine⟩ : Stretch).IsOf settings source part ∧
      (scanSpan settings source start stop firstLine).lines? = some part ∧ Balanced part ∧
      ∀ error,
        (resolveLines defined settings.nestingLimit (depth + 1) part).outcome = .error error →
          InnerFault settings.nestingLimit part error := by
  have hmem : ⟨depth + 1, start, stop, firstLine⟩ ∈
      view Event.descents (strip settings defined source) :=
    List.mem_flatMap.mpr ⟨_, h, List.mem_singleton.mpr rfl⟩
  rw [view_strip Event.descents settings defined source rfl fun _ _ => rfl] at hmem
  rcases descents_balanced settings source defined settings.nestingLimit _ 0 [] [] (by simp) _ hmem
    with ⟨part, hof, hpart⟩
  refine ⟨part, hof, ?_, hpart, fun error =>
    innerFault_of_resolveLines defined settings.nestingLimit part (depth + 1) error hpart⟩
  -- The stretch is the one that the lines fill, so reading it gives these lines.
  rcases hof with ⟨before, after, hscan, rfl, rfl, rfl⟩
  exact scanSpan_of_scan settings source before part after hscan

/-- A kept branch with a chain that has two `#else`. The branch begins on the second line
    of the source, and resolving it fails on the fourth. -/
theorem strip_descends_into_balanced_of_inner_else :
    .resolving 1 6 31 2 ∈
        (strip {} (· == ['A']) "#if A\n#if B\n#else\n#else\n#endif\n#endif\n".toList).events ∧
      ∃ part, (⟨1, 6, 31, 2⟩ : Stretch).IsOf {}
          "#if A\n#if B\n#else\n#else\n#endif\n#endif\n".toList part ∧
        Balanced part ∧
        InnerFault defaultNestingLimit part ⟨4, "#else".toList, .unexpectedDirective⟩ := by
  have hrun : .resolving 1 6 31 2 ∈
      (strip {} (· == ['A']) "#if A\n#if B\n#else\n#else\n#endif\n#endif\n".toList).events := by
    decide +kernel
  rcases strip_descends_into_balanced {} (· == ['A']) _ 0 6 31 2 hrun with
    ⟨part, hof, hlines, hpart, hfault⟩
  -- Resolving the lines that are read in the stretch.
  have hfail : (scanSpan {} "#if A\n#if B\n#else\n#else\n#endif\n#endif\n".toList 6 31 2).lines?.map
      (fun lines => (resolveLines (· == ['A']) defaultNestingLimit 1 lines).outcome) =
        some (.error ⟨4, "#else".toList, .unexpectedDirective⟩) := by
    decide +kernel
  rw [hlines, Option.map_some, Option.some.injEq] at hfail
  exact ⟨hrun, part, hof, hpart, hfault _ hfail⟩

end DirectiveStrip
