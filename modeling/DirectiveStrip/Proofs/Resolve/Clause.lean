import DirectiveStrip.Proofs.Resolve.Context

/-!
# The Clauses of a Chain

A chain cut at its directives: an `#if` with its branch, any number of `#elif`s
and `#else`s with theirs, and an `#endif`. Every balanced list that begins with
an `#if` begins with such a chain, and here positions and clauses are translated
into each other.

Inside the chain the count is one where a clause begins and at least one
anywhere. That settles where the heads are. The directives of inner chains are
under a higher count, and those of the chain itself are exactly the heads of its
clauses. It also settles what is around a position in a branch: the inner chains
of that branch and this chain, but no chain of an earlier branch.

## Main definitions

* `Clause`: A directive and the branch behind it.
* `Chain`: The clauses of a chain and its `#endif`, known to fit together.
* `Chain.Place`: One clause of a chain, with those before and those behind it.
* `CountReturns`: The count does not fall below its start, and ends there.
* `Chain.Place.opener`: The lines of the chain up to the branch of the place.

## Theorems

* `exists_clauses_of_balance`: Behind an `#if` there are clauses and an `#endif`.
* `exists_chain_of_balanced`: A balanced list that begins with an `#if` begins
  with a chain.
* `Chain.balanced_lines`: The lines of a chain are balanced.
* `Chain.Place.trichotomy`: Of two places one is before the other, or they are
  the same.
* `Chain.isHead_iff`: The heads of the chain are the heads of its clauses.
* `Chain.Place.isOpen_opener_iff`: In front of a branch only its chain is open.
-/

namespace DirectiveStrip

/-- A directive that begins a branch, and the branch. -/
structure Clause where
  head : ScannedLine
  body : List ScannedLine

/-- The lines of some clauses in a row. -/
def clauseLines (clauses : List Clause) : List ScannedLine :=
  clauses.flatMap fun clause => clause.head :: clause.body

@[simp] theorem clauseLines_nil : clauseLines [] = [] := rfl

@[simp] theorem clauseLines_cons (clause : Clause) (clauses : List Clause) :
    clauseLines (clause :: clauses) = clause.head :: (clause.body ++ clauseLines clauses) := rfl

@[simp] theorem clauseLines_append (clauses others : List Clause) :
    clauseLines (clauses ++ others) = clauseLines clauses ++ clauseLines others :=
  List.flatMap_append

/-- A chain from its `#if` to its `#endif`. The branches are balanced, so the
    directives between them are not those of inner chains. -/
structure Chain where
  first : Clause
  later : List Clause
  closing : ScannedLine
  opens : first.head.opens
  separates : ∀ clause ∈ later, clause.head.separates
  closes : closing.closes
  balanced : ∀ clause ∈ first :: later, Balanced clause.body

namespace Chain

/-- All clauses of a chain. -/
def clauses (chain : Chain) : List Clause :=
  chain.first :: chain.later

/-- All lines of a chain. -/
def lines (chain : Chain) : List ScannedLine :=
  clauseLines chain.clauses ++ [chain.closing]

/-- The lines of a chain behind its `#if`. -/
def behind (chain : Chain) : List ScannedLine :=
  chain.first.body ++ (clauseLines chain.later ++ [chain.closing])

theorem lines_eq_cons (chain : Chain) : chain.lines = chain.first.head :: chain.behind := by
  simp [lines, clauses, behind]

/-- Behind the head of any clause the counter stands at one, and it comes back to that. -/
theorem balance_clauseLines (clauses : List Clause)
    (h : ∀ clause ∈ clauses, clause.head.separates ∧ Balanced clause.body) :
    balance 1 (clauseLines clauses) = some 1 := by
  induction clauses with
  | nil => rfl
  | cons clause clauses ih =>
      rcases h clause List.mem_cons_self with ⟨hsep, hbody⟩
      have hrest := ih fun clause hmem => h clause (List.mem_cons_of_mem _ hmem)
      rw [← balance_iff_balanced] at hbody
      rw [clauseLines_cons, balance, clause.head.next_of_separates 0 hsep, Option.bind_some,
        balance_append, balance_add clause.body 0 0 1 hbody]
      exact hrest

theorem balanced_lines (chain : Chain) : Balanced chain.lines := by
  have hfirst := (balance_iff_balanced _).mpr (chain.balanced chain.first List.mem_cons_self)
  have hlater := balance_clauseLines chain.later fun clause hmem =>
    ⟨chain.separates clause hmem, chain.balanced clause (List.mem_cons_of_mem _ hmem)⟩
  rcases chain.first.head.opens_cases chain.opens with ⟨guard, hguard⟩
  have hopens : chain.first.head.next 0 = some 1 := by
    rw [ScannedLine.next, hguard]
  rw [← balance_iff_balanced, lines_eq_cons, balance, hopens, Option.bind_some, behind,
    balance_append, balance_add _ 0 0 1 hfirst, Option.bind_some, balance_append, hlater,
    Option.bind_some, balance, chain.closing.next_of_closes 0 chain.closes]
  rfl

end Chain

/-! ### Finding the chain -/

/-- Behind an `#if` and the head of every clause the counter stands at one, and the
    clause lasts until it first comes down. -/
theorem exists_clauses_of_balance (lines : List ScannedLine) (h : balance 1 lines = some 0) :
    ∃ body later closing rest, lines = body ++ (clauseLines later ++ closing :: rest) ∧
      Balanced body ∧
      (∀ clause ∈ later, clause.head.separates ∧ Balanced clause.body) ∧
      closing.closes ∧ Balanced rest := by
  induction hlen : lines.length using Nat.strong_induction_on generalizing lines with
  | _ n ih =>
      rcases exists_body_of_balance lines 0 h with ⟨body, closing, rest, rfl, hbody, hkind⟩
      rw [balance_iff_balanced] at hbody
      rcases hkind with ⟨hsep, hrest⟩ | ⟨hclose, hrest⟩
      · -- The line that ends the branch is the head of the next clause.
        have hlt : rest.length < n := by
          rw [List.length_append, List.length_cons] at hlen
          omega
        rcases ih rest.length hlt rest hrest rfl with
          ⟨body', later, closing', rest', rfl, hbody', hlater, hclose, hrest'⟩
        refine ⟨body, ⟨closing, body'⟩ :: later, closing', rest', ?_, hbody, ?_, hclose, hrest'⟩
        · simp
        · intro clause hclause
          rcases List.mem_cons.mp hclause with rfl | hclause
          · exact ⟨hsep, hbody'⟩
          · exact hlater clause hclause
      · -- The line that ends the branch is the `#endif`, and no clause is left.
        refine ⟨body, [], closing, rest, by simp, hbody, by simp, hclose, ?_⟩
        exact (balance_iff_balanced rest).mp hrest

theorem exists_chain_of_balanced (opening : ScannedLine) (lines : List ScannedLine)
    (hopens : opening.opens) (h : Balanced (opening :: lines)) :
    ∃ (chain : Chain) (rest : List ScannedLine), opening :: lines = chain.lines ++ rest ∧
      chain.first.head = opening ∧ Balanced rest := by
  have hbalance : balance 1 lines = some 0 := by
    rw [← balance_iff_balanced, balance, Option.bind_eq_some_iff] at h
    rcases h with ⟨count, hnext, hrest⟩
    rw [ScannedLine.next_eq_some_iff] at hnext
    have hweight := opening.weight_of_opens hopens
    have hcount : count = 1 := by omega
    rw [← hcount]
    exact hrest
  rcases exists_clauses_of_balance lines hbalance with
    ⟨body, later, closing, rest, rfl, hbody, hlater, hclose, hrest⟩
  refine ⟨⟨⟨opening, body⟩, later, closing, hopens, fun clause h => (hlater clause h).1, hclose,
    ?_⟩, rest, ?_, rfl, hrest⟩
  · intro clause hclause
    rcases List.mem_cons.mp hclause with rfl | hclause
    · exact hbody
    · exact (hlater clause hclause).2
  · simp [Chain.lines, Chain.clauses]

/-! ### Places in a chain -/

namespace Chain

variable {chain : Chain}

/-- One clause of a chain, with the clauses before it and those behind it. -/
structure Place (chain : Chain) where
  earlier : List Clause
  clause : Clause
  others : List Clause
  eq : chain.clauses = earlier ++ clause :: others

namespace Place

/-- The position of the clause in the lines of the chain. -/
def start (place : chain.Place) : Nat :=
  (clauseLines place.earlier).length

/-- The lines of the chain up to the branch of the clause, its head included. -/
def opener (place : chain.Place) : List ScannedLine :=
  clauseLines place.earlier ++ [place.clause.head]

theorem length_opener (place : chain.Place) : place.opener.length = place.start + 1 := by
  rw [opener, List.length_append, List.length_singleton, start]

theorem mem (place : chain.Place) : place.clause ∈ chain.clauses := by
  rw [place.eq]
  simp

/-- The lines of the chain behind the branch of the clause. -/
def closer (place : chain.Place) : List ScannedLine :=
  clauseLines place.others ++ [chain.closing]

theorem lines_eq (place : chain.Place) :
    chain.lines = place.opener ++ (place.clause.body ++ place.closer) := by
  simp [lines, place.eq, opener, closer]

/-- One place of a chain is before another, by its clauses and by its lines. -/
structure Before (p q : chain.Place) : Prop where
  mem_earlier : p.clause ∈ q.earlier
  mem_others : q.clause ∈ p.others
  stop_le_start : p.start + 1 + p.clause.body.length ≤ q.start

/-- A cut further on has the clause of the first cut among those before it. -/
theorem before_of_append (p q : chain.Place) (between : List Clause)
    (hearlier : q.earlier = p.earlier ++ p.clause :: between)
    (hothers : p.others = between ++ q.clause :: q.others) : p.Before q := by
  refine ⟨by simp [hearlier], by simp [hothers], ?_⟩
  rw [start, start, hearlier, clauseLines_append, clauseLines_cons, List.length_append,
    List.length_cons, List.length_append]
  omega

theorem trichotomy (p q : chain.Place) : p = q ∨ p.Before q ∨ q.Before p := by
  have heq : p.earlier ++ p.clause :: p.others = q.earlier ++ q.clause :: q.others :=
    p.eq.symm.trans q.eq
  -- Cuts with the same clauses in front are the same.
  have hsame (hearlier : p.earlier = q.earlier)
      (hrest : p.clause :: p.others = q.clause :: q.others) : p = q := by
    rcases p with ⟨earlier, clause, others, _⟩
    rcases q with ⟨earlier', clause', others', _⟩
    rw [List.cons.injEq] at hrest
    rcases hrest with ⟨rfl, rfl⟩
    subst hearlier
    rfl
  -- Either of the two cuts comes first, and what is between them may be empty.
  rcases List.append_eq_append_iff.mp heq with
    ⟨_ | ⟨clause, between⟩, hearlier, hrest⟩ | ⟨_ | ⟨clause, between⟩, hearlier, hrest⟩
  · rw [List.append_nil] at hearlier
    exact .inl (hsame hearlier.symm hrest)
  · rw [List.cons_append, List.cons.injEq] at hrest
    rcases hrest with ⟨rfl, hothers⟩
    exact .inr (.inl (before_of_append p q between hearlier hothers))
  · rw [List.append_nil] at hearlier
    exact .inl (hsame hearlier hrest.symm)
  · rw [List.cons_append, List.cons.injEq] at hrest
    rcases hrest with ⟨rfl, hothers⟩
    exact .inr (.inr (before_of_append q p between hearlier hothers))

theorem eq_of_start_eq (p q : chain.Place) (h : p.start = q.start) : p = q := by
  rcases p.trichotomy q with heq | hbefore | hbefore
  · exact heq
  · have := hbefore.stop_le_start
    omega
  · have := hbefore.stop_le_start
    omega

theorem before_of_start_lt (p q : chain.Place) (h : p.start < q.start) : p.Before q := by
  rcases p.trichotomy q with rfl | hbefore | hbefore
  · omega
  · exact hbefore
  · have := hbefore.stop_le_start
    omega

/-- Every clause before a place has a place before it. -/
theorem exists_before_of_mem (q : chain.Place) (clause : Clause) (h : clause ∈ q.earlier) :
    ∃ p : chain.Place, p.clause = clause ∧ p.Before q := by
  rcases List.append_of_mem h with ⟨earlier, between, hearlier⟩
  refine ⟨⟨earlier, clause, between ++ q.clause :: q.others, ?_⟩, rfl, ?_⟩
  · rw [q.eq, hearlier, List.append_assoc, List.cons_append]
  · exact before_of_append _ q between hearlier rfl

/-- Every clause behind a place has a place behind it. -/
theorem exists_after_of_mem (p : chain.Place) (clause : Clause) (h : clause ∈ p.others) :
    ∃ q : chain.Place, q.clause = clause ∧ p.Before q := by
  rcases List.append_of_mem h with ⟨between, others, hothers⟩
  refine ⟨⟨p.earlier ++ p.clause :: between, clause, others, ?_⟩, rfl, ?_⟩
  · rw [p.eq, hothers, List.append_assoc, List.cons_append]
  · exact before_of_append p _ between rfl hothers

end Place

/-- A position among clauses is that of a head or lies in a body. -/
theorem exists_clause_of_lt_length (clauses : List Clause) (i : Nat)
    (h : i < (clauseLines clauses).length) :
    ∃ earlier clause others, clauses = earlier ++ clause :: others ∧
      (i = (clauseLines earlier).length ∨
        ∃ j < clause.body.length, i = (clauseLines earlier).length + 1 + j) := by
  induction clauses generalizing i with
  | nil => cases h
  | cons clause clauses ih =>
      rw [clauseLines_cons, List.length_cons, List.length_append] at h
      -- The position is the first head, in the first body, or among the other clauses.
      rcases i with _ | i
      · exact ⟨[], clause, clauses, rfl, .inl rfl⟩
      · rcases Nat.lt_or_ge i clause.body.length with hlt | hge
        · refine ⟨[], clause, clauses, rfl, .inr ⟨i, hlt, ?_⟩⟩
          rw [clauseLines_nil, List.length_nil]
          omega
        · rcases ih (i - clause.body.length) (by omega) with
            ⟨earlier, found, others, rfl, hpos⟩
          refine ⟨clause :: earlier, found, others, rfl, ?_⟩
          rw [clauseLines_cons, List.length_cons, List.length_append]
          rcases hpos with hpos | ⟨j, hj, hpos⟩
          · exact .inl (by omega)
          · exact .inr ⟨j, hj, by omega⟩

/-- A position in a chain is that of a head, lies in a branch, or is the `#endif`. -/
theorem exists_place (i : Nat) (h : i < chain.lines.length) :
    (∃ place : chain.Place, i = place.start) ∨
      (∃ place : chain.Place, ∃ j < place.clause.body.length, i = place.start + 1 + j) ∨
      i + 1 = chain.lines.length := by
  rw [lines, List.length_append, List.length_singleton] at h ⊢
  rcases Nat.lt_or_ge i (clauseLines chain.clauses).length with hlt | hge
  · rcases exists_clause_of_lt_length chain.clauses i hlt with
      ⟨earlier, clause, others, heq, hpos⟩
    rcases hpos with hpos | ⟨j, hj, hpos⟩
    · exact .inl ⟨⟨earlier, clause, others, heq⟩, hpos⟩
    · exact .inr (.inl ⟨⟨earlier, clause, others, heq⟩, j, hj, hpos⟩)
  · exact .inr (.inr (by omega))

end Chain

/-! ### Counting inside a chain -/

/-- Over these lines the count does not fall below what it was, and comes back to it.
    Unlike in balanced lines, there may be directives of the chain around. -/
structure CountReturns (lines : List ScannedLine) : Prop where
  nonneg : ∀ i ≤ lines.length, 0 ≤ openCount lines i
  closed : openCount lines lines.length = 0

theorem CountReturns.append {before after : List ScannedLine} (hbefore : CountReturns before)
    (hafter : CountReturns after) : CountReturns (before ++ after) := by
  refine ⟨?_, ?_⟩
  · intro i hi
    rcases Nat.lt_or_ge i before.length with hlt | hge
    · rw [openCount_append_of_le before after i (by omega)]
      exact hbefore.nonneg i (by omega)
    · rw [List.length_append] at hi
      rw [show i = before.length + (i - before.length) by omega, openCount_append,
        hbefore.closed, Int.zero_add]
      exact hafter.nonneg _ (by omega)
  · rw [List.length_append, openCount_append, hbefore.closed, hafter.closed, Int.zero_add]

theorem countReturns_clauseLines (clauses : List Clause)
    (h : ∀ clause ∈ clauses, clause.head.separates ∧ Balanced clause.body) :
    CountReturns (clauseLines clauses) := by
  induction clauses with
  | nil =>
      refine ⟨?_, rfl⟩
      intro i hi
      rw [Nat.le_zero.mp hi]
      exact Int.le_refl 0
  | cons clause clauses ih =>
      rcases h clause List.mem_cons_self with ⟨hsep, hbody⟩
      have hrest : CountReturns (clause.body ++ clauseLines clauses) :=
        CountReturns.append ⟨hbody.nonneg, hbody.closed⟩
          (ih fun clause hclause => h clause (List.mem_cons_of_mem _ hclause))
      have hweight := clause.head.weight_of_separates hsep
      rw [clauseLines_cons]
      refine ⟨?_, ?_⟩
      · intro i hi
        cases i with
        | zero => exact Int.le_refl 0
        | succ i =>
            have := hrest.nonneg i (by simpa using hi)
            rw [openCount_cons]
            omega
      · have := hrest.closed
        rw [List.length_cons, openCount_cons]
        omega

namespace Chain

/-- Up to the head of any clause but the first, one chain is open, and never none. -/
theorem openCount_clauseLines (chain : Chain) (later : List Clause)
    (h : ∀ clause ∈ later, clause ∈ chain.later) :
    openCount (clauseLines (chain.first :: later)) (clauseLines (chain.first :: later)).length =
        1 ∧
      ∀ i ≤ (clauseLines (chain.first :: later)).length, 0 < i →
        1 ≤ openCount (clauseLines (chain.first :: later)) i := by
  have hfirst := chain.balanced chain.first List.mem_cons_self
  -- The `#if` counts one up, and everything behind it comes back to that.
  have hinner : CountReturns (chain.first.body ++ clauseLines later) :=
    CountReturns.append ⟨hfirst.nonneg, hfirst.closed⟩
      (countReturns_clauseLines later fun clause hclause =>
        ⟨chain.separates clause (h clause hclause),
          chain.balanced clause (List.mem_cons_of_mem _ (h clause hclause))⟩)
  have hweight := chain.first.head.weight_of_opens chain.opens
  rw [clauseLines_cons]
  refine ⟨?_, ?_⟩
  · have := hinner.closed
    rw [List.length_cons, openCount_cons]
    omega
  · intro i hi hpos
    rcases i with _ | i
    · omega
    · have := hinner.nonneg i (by simpa using hi)
      rw [openCount_cons]
      omega

theorem one_le_openCount (chain : Chain) (i : Nat) (hpos : 0 < i) (hi : i < chain.lines.length) :
    1 ≤ openCount chain.lines i := by
  rw [lines, List.length_append, List.length_singleton] at hi
  rw [lines, openCount_append_of_le _ _ i (by omega)]
  exact (chain.openCount_clauseLines chain.later fun _ h => h).2 i (by rw [clauses] at hi; omega)
    hpos

/-- A branch of a chain is shorter than the chain. -/
theorem length_body_lt (chain : Chain) (clause : Clause) (h : clause ∈ chain.clauses) :
    clause.body.length < chain.lines.length := by
  rcases List.append_of_mem h with ⟨earlier, others, heq⟩
  rw [lines, heq, clauseLines_append, clauseLines_cons]
  simp only [List.length_append, List.length_cons]
  omega

namespace Place

variable {chain : Chain}

/-- The clause is the first of its chain, or the first is among those before it. -/
theorem eq_first_or (place : chain.Place) :
    (place.earlier = [] ∧ place.clause = chain.first) ∨
      ∃ earlier, place.earlier = chain.first :: earlier ∧
        chain.later = earlier ++ place.clause :: place.others := by
  have heq := place.eq
  rw [clauses] at heq
  rcases hearlier : place.earlier with _ | ⟨clause, earlier⟩
  · rw [hearlier, List.nil_append, List.cons.injEq] at heq
    exact .inl ⟨rfl, heq.1.symm⟩
  · rw [hearlier, List.cons_append, List.cons.injEq] at heq
    rcases heq with ⟨rfl, hlater⟩
    exact .inr ⟨earlier, rfl, hlater⟩

/-- The only `#if` among the heads is the first. -/
theorem start_eq_zero_of_opens (place : chain.Place) (h : place.clause.head.opens) :
    place.start = 0 := by
  rcases place.eq_first_or with ⟨hearlier, -⟩ | ⟨earlier, -, hlater⟩
  · rw [start, hearlier]
    rfl
  · have hsep := chain.separates place.clause (by simp [hlater])
    have hweight := place.clause.head.weight_of_opens h
    rw [place.clause.head.weight_of_separates hsep] at hweight
    cases hweight

/-- The head of a clause is a directive. -/
theorem not_isSource_head (place : chain.Place) : ¬ place.clause.head.isSource := by
  rcases place.eq_first_or with ⟨-, hclause⟩ | ⟨earlier, -, hlater⟩
  · rw [hclause]
    exact chain.first.head.not_isSource_of_opens chain.opens
  · exact place.clause.head.not_isSource_of_separates
      (chain.separates place.clause (by simp [hlater]))

theorem openCount_opener (place : chain.Place) :
    openCount place.opener place.opener.length = 1 := by
  rw [length_opener, opener, start, openCount_append]
  rcases place.eq_first_or with ⟨hearlier, hclause⟩ | ⟨earlier, hearlier, hlater⟩
  · rw [hearlier, hclause, openCount_cons, clauseLines_nil, List.length_nil, openCount_zero,
      chain.first.head.weight_of_opens chain.opens]
    rfl
  · -- The clauses before leave the `#if` open, and the head changes nothing.
    have hsep : place.clause.head.separates := chain.separates place.clause (by simp [hlater])
    rw [hearlier, openCount_cons, openCount_zero, place.clause.head.weight_of_separates hsep]
    rw [(chain.openCount_clauseLines earlier fun clause h => by simp [hlater, h]).1]
    rfl

/-- In front of the branch of a clause, the chain is open and no other. The chains in
    the branches before have ended. -/
theorem isOpen_opener_iff (place : chain.Place) (first : Nat) (h : first < place.opener.length) :
    IsOpen place.opener first ↔ first = 0 := by
  -- Up to the branch the count is that of the chain, at least one behind the `#if`.
  have hlines (i : Nat) (hi : i ≤ place.opener.length) (hpos : 0 < i) :
      1 ≤ openCount place.opener i := by
    have hlen : place.opener.length < chain.lines.length := by
      rw [place.lines_eq, closer]
      simp only [List.length_append, List.length_singleton]
      omega
    have := chain.one_le_openCount i hpos (by omega)
    rw [place.lines_eq, openCount_append_of_le _ _ i hi] at this
    exact this
  constructor
  · intro hopen
    rcases Nat.eq_zero_or_pos first with hzero | hpos
    · exact hzero
    · -- Any other chain would have been opened at one or more, and one is left at the end.
      have hend := hopen.above place.opener.length (by omega) h
      have hstart := hlines first (by omega) hpos
      rw [place.openCount_opener] at hend
      omega
  · intro h
    rcases h with rfl
    refine ⟨?_, ?_⟩
    · rcases place.eq_first_or with ⟨hearlier, hclause⟩ | ⟨earlier, hearlier, -⟩
      · simp [opener, hearlier, hclause, chain.opens]
      · simp [opener, hearlier, chain.opens]
    · intro j hj hpos
      have := hlines j (by omega) hpos
      rw [openCount_zero]
      omega

theorem openChains_opener (place : chain.Place) : openChains place.opener = 1 := by
  have hcount (n : Nat) : (List.range (n + 1)).countP (fun first => decide (first = 0)) = 1 := by
    rw [List.range_succ_eq_map, List.countP_cons, List.countP_map]
    simp
  rw [openChains, ← hcount place.start, ← length_opener]
  refine List.countP_congr ?_
  intro first hfirst
  rw [decide_eq_true_iff, decide_eq_true_iff]
  exact place.isOpen_opener_iff first (List.mem_range.mp hfirst)

theorem getElem?_start (place : chain.Place) :
    chain.lines[place.start]? = some place.clause.head := by
  rw [place.lines_eq, opener, start, List.append_assoc,
    List.getElem?_append_right (Nat.le_refl _), Nat.sub_self]
  rfl

theorem getElem?_body (place : chain.Place) (i : Nat) (h : i < place.clause.body.length) :
    chain.lines[place.start + 1 + i]? = place.clause.body[i]? := by
  rw [place.lines_eq, ← place.length_opener]
  exact getElem?_context _ _ _ i h

theorem balanced_body (place : chain.Place) : Balanced place.clause.body :=
  chain.balanced place.clause place.mem

theorem openCount_body (place : chain.Place) (i : Nat) (h : i ≤ place.clause.body.length) :
    openCount chain.lines (place.start + 1 + i) = 1 + openCount place.clause.body i := by
  rw [place.lines_eq, ← place.length_opener, openCount_context _ _ _ i h, place.openCount_opener]

theorem stop_lt_length (place : chain.Place) :
    place.start + 1 + place.clause.body.length < chain.lines.length := by
  rw [place.lines_eq, closer, List.length_append, place.length_opener]
  simp only [List.length_append, List.length_singleton]
  omega

end Place

theorem getElem?_last (chain : Chain) (i : Nat) (h : i + 1 = chain.lines.length) :
    chain.lines[i]? = some chain.closing := by
  rw [lines, List.length_append, List.length_singleton, Nat.add_right_cancel_iff] at h
  rw [h, lines, List.getElem?_append_right (Nat.le_refl _), Nat.sub_self]
  rfl

/-! ### The heads of a chain -/

/-- Inside of a chain is everything between its `#if` and its `#endif`. -/
theorem encloses_of_lt (chain : Chain) (i : Nat) (hpos : 0 < i) (h : i + 1 < chain.lines.length) :
    Encloses chain.lines 0 i := by
  refine ⟨?_, hpos, ?_⟩
  · simp [lines, clauses, chain.opens]
  · intro j hj hj'
    have := chain.one_le_openCount j hj' (by omega)
    rw [openCount_zero]
    omega

theorem isHead_iff (chain : Chain) (i : Nat) :
    IsHead chain.lines 0 i ↔ ∃ place : chain.Place, i = place.start := by
  constructor
  · intro h
    rcases h with rfl | ⟨henc, hsep, hcount⟩
    · exact ⟨⟨[], chain.first, chain.later, rfl⟩, rfl⟩
    · have hlt := lt_length_of_any chain.lines i _ hsep
      rcases chain.exists_place i hlt with hplace | ⟨place, j, hj, rfl⟩ | hlast
      · exact hplace
      · -- An inner directive is under a count of its own.
        rw [place.getElem?_body j hj] at hsep
        rw [place.openCount_body j (by omega), openCount_zero] at hcount
        exact absurd (by omega) (place.balanced_body.inside j hsep)
      · -- The `#endif` counts down, which no head does.
        rw [chain.getElem?_last i hlast] at hsep
        have hweight := chain.closing.weight_of_separates hsep
        rw [chain.closing.weight_of_closes chain.closes] at hweight
        cases hweight
  · intro h
    rcases h with ⟨place, rfl⟩
    -- The first head is the `#if`, any other one of the directives at count one.
    rcases place.eq_first_or with ⟨hearlier, -⟩ | ⟨earlier, hearlier, hlater⟩
    · exact .inl (by rw [Place.start, hearlier]; rfl)
    · have hsep : place.clause.head.separates := chain.separates place.clause (by simp [hlater])
      have hpos : 0 < place.start := by simp [Place.start, hearlier]
      have hstop := place.stop_lt_length
      refine .inr ⟨chain.encloses_of_lt _ hpos (by omega), ?_, ?_⟩
      · rw [place.getElem?_start]
        exact hsep
      · have hcount := (chain.openCount_clauseLines earlier fun _ h => by simp [hlater, h]).1
        rw [← hearlier] at hcount
        rw [place.lines_eq, Place.opener, List.append_assoc, Place.start,
          openCount_append_of_le _ _ _ (Nat.le_refl _), hcount, openCount_zero, Int.zero_add]

end Chain

end DirectiveStrip
