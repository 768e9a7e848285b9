import DirectiveStrip.Proofs.Resolve.Kept
import DirectiveStrip.Proofs.Resolve.Walk

/-!
# Choosing a Branch

On the lines of a chain, choosing succeeds exactly if the clauses are in order,
and then it yields the branch of the clause that is kept, whole and untouched,
and the lines behind the chain.

The walks see the order of the clauses through one flag, and only from the chosen
clause on. Before it there was no `#else`, since an `#else` is always chosen.

## Main definitions

* `inOrderBehind`: The order of clauses as the walks check it.
* `Selection.Keeps`: A selection is this branch and these lines.
* `Yields`: Choosing succeeds under a condition, and with this result.

## Theorems

* `inOrderBehind_iff`: The flag finds every clause behind an `#else`.
* `skipChain_clauses`, `takeBranch_clauses`, `findBranch_clauses`: The walks over
  clauses.
* `Chain.chooseBranch_yields`: Choosing on the lines of a chain.
-/

namespace DirectiveStrip

/-! ### The order of the clauses -/

/-- Clauses in order behind a clause that is an `#else` or is not. -/
def inOrderBehind (afterElse : Bool) : List Clause → Bool
  | [] => true
  | clause :: clauses => !afterElse && inOrderBehind clause.head.isElse clauses

theorem inOrderBehind_iff (clauses : List Clause) (afterElse : Bool) :
    inOrderBehind afterElse clauses ↔
      (afterElse → clauses = []) ∧
        ∀ earlier clause others, clauses = earlier ++ clause :: others →
          clause.head.isElse → others = [] := by
  induction clauses generalizing afterElse with
  | nil => simp [inOrderBehind]
  | cons clause clauses ih =>
      rw [inOrderBehind, Bool.and_eq_true, ih, Bool.not_eq_true']
      constructor
      · -- An `#else` with something behind it is the first clause or among the others.
        intro h
        rcases h with ⟨hfirst, helse, hrest⟩
        refine ⟨by simp [hfirst], ?_⟩
        intro earlier found others heq hfound
        cases earlier with
        | nil =>
            rw [List.nil_append, List.cons.injEq] at heq
            rcases heq with ⟨rfl, rfl⟩
            exact helse hfound
        | cons _ earlier =>
            rw [List.cons_append, List.cons.injEq] at heq
            exact hrest earlier found others heq.2 hfound
      · intro h
        rcases h with ⟨hfirst, hall⟩
        refine ⟨by simpa using hfirst, ?_, ?_⟩
        · intro helse
          exact hall [] clause clauses rfl helse
        · intro earlier found others heq
          exact hall (clause :: earlier) found others (by rw [heq]; rfl)

/-- Seen from its `#if`, a chain is in order. -/
theorem Chain.inOrderBehind_later_iff (chain : Chain) :
    inOrderBehind false chain.later ↔ chain.InOrder := by
  have hfirst := chain.first.head.not_isElse_of_opens chain.opens
  -- The first clause is no `#else`, so it leaves the flag down.
  have hclauses : inOrderBehind false chain.later ↔ inOrderBehind false chain.clauses := by
    rw [clauses, inOrderBehind, hfirst]
    simp
  rw [hclauses, inOrderBehind_iff]
  constructor
  · intro h place helse
    rcases h with ⟨-, h⟩
    exact h place.earlier place.clause place.others place.eq helse
  · intro h
    refine ⟨by simp, ?_⟩
    intro earlier clause others heq helse
    exact h ⟨earlier, clause, others, heq⟩ helse

/-! ### What choosing yields -/

/-- A selection of these lines as the branch, if any, with these behind the chain. -/
structure Selection.Keeps (kept : Option (List ScannedLine)) (rest : List ScannedLine)
    (selection : Selection) : Prop where
  rest_eq : selection.rest = rest
  lines_eq : selection.branch?.map Branch.lines = kept
  opensChain : ∀ branch ∈ selection.branch?,
    branch.opensChain = branch.lines.any ScannedLine.opens

/-- Success exactly under a condition, and with one result. -/
structure Yields (outcome : Except DirectiveError Selection) (condition : Prop)
    (kept : Option (List ScannedLine)) (rest : List ScannedLine) : Prop where
  sound : ∀ selection, outcome = .ok selection → condition ∧ selection.Keeps kept rest
  complete : condition → ∃ selection, outcome = .ok selection

section Clauses

variable (opening : Line) (closing : ScannedLine) (hclose : closing.closes)
  (rest : List ScannedLine)

include hclose

/-- Skipping comes to the `#endif` if the clauses are in order. -/
theorem skipChain_clauses (clauses : List Clause) (afterElse : Bool)
    (h : ∀ clause ∈ clauses, clause.head.separates ∧ Balanced clause.body)
    (tail : List ScannedLine) :
    (skipChain opening afterElse 0 (clauseLines clauses ++ closing :: rest)).outcome = .ok tail ↔
      inOrderBehind afterElse clauses ∧ tail = rest := by
  induction clauses generalizing afterElse with
  | nil =>
      rw [clauseLines_nil, List.nil_append, skipChain_closing _ _ _ _ hclose, inOrderBehind,
        Except.ok.injEq]
      exact ⟨fun heq => ⟨rfl, heq.symm⟩, fun heq => heq.2.symm⟩
  | cons clause clauses ih =>
      rcases h clause List.mem_cons_self with ⟨hsep, hbody⟩
      rw [clauseLines_cons, List.cons_append, skipChain_separator _ _ _ _ hsep, inOrderBehind]
      cases afterElse with
      -- Another directive behind an `#else` is refused.
      | true => simp
      | false =>
          -- The body of the clause is balanced and passed over.
          rw [List.append_assoc, if_neg (by simp),
            skipChain_append opening _ 0 0 _ _ ((balance_iff_balanced _).mpr hbody),
            ih _ fun clause hmem => h clause (List.mem_cons_of_mem _ hmem)]
          simp

/-- Taking a branch goes through if the clauses behind it are in order. -/
theorem takeBranch_clauses (head : Line) (afterElse : Bool) (body : List ScannedLine)
    (hbody : Balanced body) (later : List Clause)
    (h : ∀ clause ∈ later, clause.head.separates ∧ Balanced clause.body) :
    Yields (takeBranch opening head afterElse
        (body ++ (clauseLines later ++ closing :: rest))).outcome
      (inOrderBehind afterElse later) (some body) rest := by
  have hkeeps (stopping : ScannedLine) :
      (Selection.ofBody head body stopping rest).Keeps (some body) rest :=
    ⟨rfl, rfl, by simp [Selection.ofBody]⟩
  cases later with
  | nil =>
      rw [clauseLines_nil, List.nil_append,
        takeBranch_closing opening head afterElse body hbody closing rest hclose]
      refine ⟨?_, fun _ => ⟨_, rfl⟩⟩
      intro selection hsel
      cases hsel
      exact ⟨rfl, hkeeps closing⟩
  | cons clause later =>
      rcases h clause List.mem_cons_self with ⟨hsep, hclause⟩
      rw [clauseLines_cons, List.cons_append, List.append_assoc,
        takeBranch_separator opening head afterElse body hbody clause.head _ hsep]
      -- Skipping begins behind the head that ends the branch.
      have hskip := skipChain_clauses opening closing hclose rest later clause.head.isElse
        fun clause hmem => h clause (List.mem_cons_of_mem _ hmem)
      rw [← skipChain_append opening _ 0 0 _ _ ((balance_iff_balanced _).mpr hclause)] at hskip
      rw [inOrderBehind]
      cases afterElse with
      | true =>
          refine ⟨?_, ?_⟩
          · intro selection hsel
            rw [if_pos rfl] at hsel
            cases hsel
          · intro horder
            cases horder
      | false =>
          rw [if_neg (by simp), Bool.not_false, Bool.true_and]
          refine ⟨?_, ?_⟩
          · intro selection hsel
            rcases Trace.outcome_map_eq_ok hsel with ⟨tail, htail, rfl⟩
            rcases (hskip tail).mp htail with ⟨horder, rfl⟩
            exact ⟨horder, hkeeps clause.head⟩
          · intro horder
            rw [Trace.outcome_map, (hskip rest).mpr ⟨horder, rfl⟩]
            exact ⟨_, rfl⟩

/-- The search takes the first clause that it can, and goes through if those behind
    that one are in order. -/
theorem findBranch_clauses (defined : Text → Bool) (later : List Clause)
    (h : ∀ clause ∈ later, clause.head.separates ∧ Balanced clause.body) :
    Yields (findBranch defined opening 0 (clauseLines later ++ closing :: rest)).outcome
      (inOrderBehind false later)
      ((later.find? (·.takes defined)).map Clause.body) rest := by
  induction later with
  | nil =>
      rw [clauseLines_nil, List.nil_append, findBranch_closing _ _ _ _ hclose]
      refine ⟨?_, fun _ => ⟨_, rfl⟩⟩
      intro selection hsel
      cases hsel
      exact ⟨rfl, rfl, rfl, by simp⟩
  | cons clause later ih =>
      rcases h clause List.mem_cons_self with ⟨hsep, hbody⟩
      have hlater : ∀ clause ∈ later, clause.head.separates ∧ Balanced clause.body :=
        fun clause hmem => h clause (List.mem_cons_of_mem _ hmem)
      rw [clauseLines_cons, List.cons_append, List.append_assoc,
        findBranch_separator defined opening _ _ hsep, inOrderBehind, Bool.not_false,
        Bool.true_and, ← Clause.takes]
      by_cases htakes : clause.takes defined
      · -- Only from here on is the order checked.
        rw [if_pos htakes, List.find?_cons_of_pos htakes]
        exact takeBranch_clauses opening closing hclose rest _ _ _ hbody later hlater
      · rw [if_neg htakes, List.find?_cons_of_neg htakes,
          findBranch_append defined opening 0 0 _ _ ((balance_iff_balanced _).mpr hbody)]
        -- A clause that is passed is no `#else`.
        have helse : clause.head.isElse = false := by
          rw [Clause.takes, Bool.not_eq_true, Bool.or_eq_false_iff] at htakes
          exact htakes.2
        rw [helse]
        exact ih hlater

end Clauses

/-- Choosing on the lines of a chain. -/
theorem Chain.chooseBranch_yields (chain : Chain) (defined : Text → Bool) (guard : Guard)
    (hguard : chain.first.head.reading = .ok (.ifLine guard)) (lines rest : List ScannedLine)
    (hlines : chain.first.head :: lines = chain.lines ++ rest) :
    Yields (chooseBranch defined chain.first.head.line guard lines).outcome chain.InOrder
      ((chain.clauses.find? (·.takes defined)).map Clause.body) rest := by
  have hfirst := chain.balanced chain.first List.mem_cons_self
  have hlater : ∀ clause ∈ chain.later, clause.head.separates ∧ Balanced clause.body :=
    fun clause hmem =>
      ⟨chain.separates clause hmem, chain.balanced clause (List.mem_cons_of_mem _ hmem)⟩
  have heq : lines =
      chain.first.body ++ (clauseLines chain.later ++ chain.closing :: rest) := by
    rw [Chain.lines, clauses, clauseLines_cons, List.cons_append, List.cons_append,
      List.cons.injEq] at hlines
    simpa using hlines.2
  -- An `#if` is taken for its guard only.
  have htakes : chain.first.takes defined = guard.holds defined := by
    rw [Clause.takes, chain.first.head.not_isElse_of_opens chain.opens, Bool.or_false,
      ScannedLine.holds, hguard]
  rw [heq, chooseBranch, Trace.outcome_after, ← chain.inOrderBehind_later_iff, clauses]
  unfold Guard.holds at htakes
  by_cases hholds : (guard.evaluate defined).value
  · rw [List.find?_cons_of_pos (by rw [htakes]; exact hholds), if_pos hholds]
    exact takeBranch_clauses _ _ chain.closes rest _ false _ hfirst _ hlater
  · rw [List.find?_cons_of_neg (by rw [htakes]; exact hholds), if_neg hholds,
      findBranch_append defined _ 0 0 _ _ ((balance_iff_balanced _).mpr hfirst)]
    exact findBranch_clauses _ _ chain.closes rest defined _ hlater

end DirectiveStrip
