import DirectiveStrip.Proofs.Resolve.Clause

/-!
# What a Chain Keeps

Liveness in a chain whose clauses are in order. The clause that is kept is the
first whose guard holds or that is an `#else`, which can be found from the front.
In order, an `#else` is the last clause, so nothing that comes later has a say.

With that, a balanced list that begins with an `#if` is taken apart: its live
lines are those of the kept branch, followed by those of the rest, and its live
chains fit if the chain itself does, those of the kept branch do one level deeper,
and those of the rest do.

## Main definitions

* `Clause.takes`: The clause is kept when the search comes to it.
* `Chain.InOrder`: No clause is behind an `#else`.
* `Chain.Place.Chosen`: The search comes to this clause and keeps it.

## Theorems

* `liveLines_append`, `chainsFit_append`: Balanced lines one after another.
* `Chain.selected_iff`: A chain in order keeps the clause that is found.
* `Chain.Place.isLive_body_iff`: What is live in a branch of a chain.
* `Chain.liveLines_eq_nil`, `Chain.liveLines_eq_body`: The live lines of a chain.
* `Chain.chainsFit_iff`: When the live chains of a chain fit.
-/

namespace DirectiveStrip

/-! ### Balanced lines one after another -/

section Append

variable (defined : Text → Bool) {before after : List ScannedLine}

/-- Behind balanced lines no chain is open. -/
theorem Balanced.not_isOpen (hbefore : Balanced before) (first : Nat)
    (h : first < before.length) : ¬ IsOpen before first := by
  intro hopen
  -- An open chain would keep the count above zero at the end.
  have hend := hopen.above before.length (by omega) h
  have hstart := hbefore.nonneg first (by omega)
  rw [hbefore.closed] at hend
  omega

theorem Balanced.openChains_eq_zero (hbefore : Balanced before) : openChains before = 0 := by
  unfold openChains
  rw [List.countP_eq_zero]
  intro first hfirst
  rw [decide_eq_true_iff]
  exact hbefore.not_isOpen first (List.mem_range.mp hfirst)

/-- Behind balanced lines, balanced lines are live where they are by themselves. -/
theorem isLive_between (before after : List ScannedLine) (hbefore : Balanced before)
    {body : List ScannedLine} (hbody : Balanced body) (i : Nat) (hi : i < body.length) :
    IsLive defined (before ++ (body ++ after)) (before.length + i) ↔ IsLive defined body i := by
  rw [isLive_context before after defined hbody i hi]
  exact and_iff_right fun first hfirst hopen => absurd hopen (hbefore.not_isOpen first hfirst)

theorem isLive_append_left (hbefore : Balanced before) (i : Nat) (hi : i < before.length) :
    IsLive defined (before ++ after) i ↔ IsLive defined before i := by
  have h := isLive_between defined [] after balanced_nil hbefore i hi
  rw [List.nil_append, List.length_nil, Nat.zero_add] at h
  exact h

theorem isLive_append_right (hbefore : Balanced before) (hafter : Balanced after) (i : Nat)
    (hi : i < after.length) :
    IsLive defined (before ++ after) (before.length + i) ↔ IsLive defined after i := by
  have h := isLive_between defined before [] hbefore hafter i hi
  rw [List.append_nil] at h
  exact h

theorem liveLines_append (hbefore : Balanced before) (hafter : Balanced after) :
    liveLines defined (before ++ after) = liveLines defined before ++ liveLines defined after := by
  unfold liveLines
  rw [liveIn_append, Nat.zero_add]
  congr 1
  · -- Either part is live in the whole where it is live by itself.
    refine liveIn_congr defined _ before 0 0 before ?_
    intro i hi
    rw [Nat.zero_add]
    exact isLive_append_left defined hbefore i hi
  · refine liveIn_congr defined _ after before.length 0 after ?_
    intro i hi
    rw [Nat.zero_add]
    exact isLive_append_right defined hbefore hafter i hi

theorem chainsFit_append (hbefore : Balanced before) (hafter : Balanced after)
    (limit depth : Nat) :
    ChainsFit defined limit depth (before ++ after) ↔
      ChainsFit defined limit depth before ∧ ChainsFit defined limit depth after := by
  have hleft (first : Nat) (hfirst : first < before.length) :
      ChainFits limit depth (before ++ after) first ↔ ChainFits limit depth before first := by
    have h := chainFits_context [] after hbefore limit depth first hfirst
    rw [List.nil_append, List.length_nil, Nat.zero_add] at h
    exact h
  have hright (first : Nat) (hfirst : first < after.length) :
      ChainFits limit depth (before ++ after) (before.length + first) ↔
        ChainFits limit depth after first := by
    have h := chainFits_context before [] hafter limit depth first hfirst
    rw [List.append_nil, hbefore.openChains_eq_zero] at h
    exact h
  constructor
  · intro h
    refine ⟨?_, ?_⟩
    · intro first hopens hlive
      have hlt := lt_length_of_any before first _ hopens
      refine (hleft first hlt).mp (h first ?_ ?_)
      · rw [List.getElem?_append_left hlt]
        exact hopens
      · exact (isLive_append_left defined hbefore first hlt).mpr hlive
    · intro first hopens hlive
      have hlt := lt_length_of_any after first _ hopens
      refine (hright first hlt).mp (h (before.length + first) ?_ ?_)
      · rw [List.getElem?_append_right (by omega), Nat.add_sub_cancel_left]
        exact hopens
      · exact (isLive_append_right defined hbefore hafter first hlt).mpr hlive
  · intro h first hopens hlive
    rcases h with ⟨hb, ha⟩
    have hlen := lt_length_of_any _ first _ hopens
    rw [List.length_append] at hlen
    -- A chain of the whole begins in one of the two.
    rcases Nat.lt_or_ge first before.length with hlt | hge
    · rw [List.getElem?_append_left hlt] at hopens
      rw [isLive_append_left defined hbefore first hlt] at hlive
      exact (hleft first hlt).mpr (hb first hopens hlive)
    · have hlt : first - before.length < after.length := by omega
      rw [List.getElem?_append_right hge] at hopens
      rw [show first = before.length + (first - before.length) by omega] at hlive ⊢
      rw [isLive_append_right defined hbefore hafter _ hlt] at hlive
      exact (hright _ hlt).mpr (ha _ hopens hlive)

end Append

/-! ### Clauses in order -/

/-- The search for a branch ends at this clause: its guard holds, or it is an `#else`. -/
def Clause.takes (defined : Text → Bool) (clause : Clause) : Bool :=
  clause.head.holds defined || clause.head.isElse

namespace Chain

variable {chain : Chain}

/-- No clause comes behind an `#else`. -/
def InOrder (chain : Chain) : Prop :=
  ∀ place : chain.Place, place.clause.head.isElse → place.others = []

/-- In order, an `#else` is last, so a clause before another is none. -/
theorem InOrder.not_isElse (horder : chain.InOrder) (place : chain.Place) (clause : Clause)
    (h : clause ∈ place.earlier) : ¬ clause.head.isElse := by
  intro helse
  rcases place.exists_before_of_mem clause h with ⟨p, rfl, hbefore⟩
  have := hbefore.mem_others
  rw [horder p helse] at this
  cases this

/-- The same, said of positions. -/
theorem inOrder_iff (chain : Chain) :
    chain.InOrder ↔
      ∀ head, IsHead chain.lines 0 head → chain.lines[head]?.any ScannedLine.isElse →
        ∀ other, IsHead chain.lines 0 other → other ≤ head := by
  constructor
  · intro h head hhead helse other hother
    rcases (chain.isHead_iff head).mp hhead with ⟨p, rfl⟩
    rcases (chain.isHead_iff other).mp hother with ⟨q, rfl⟩
    rw [p.getElem?_start] at helse
    rcases p.trichotomy q with rfl | hbefore | hbefore
    · exact Nat.le_refl _
    · have := hbefore.mem_others
      rw [h p helse] at this
      cases this
    · have := hbefore.stop_le_start
      omega
  · intro h p helse
    rcases hothers : p.others with _ | ⟨clause, others⟩
    · rfl
    · rcases p.exists_after_of_mem clause (by simp [hothers]) with ⟨q, -, hbefore⟩
      have := h p.start ((chain.isHead_iff _).mpr ⟨p, rfl⟩)
        (by rw [p.getElem?_start]; exact helse) q.start ((chain.isHead_iff _).mpr ⟨q, rfl⟩)
      have := hbefore.stop_le_start
      omega

/-- The first head of a sort is the head of the first clause of the sort. -/
theorem isFirstHead_iff (sort : ScannedLine → Bool) (chain : Chain) (i : Nat) :
    IsFirstHead sort chain.lines 0 i ↔
      ∃ place : chain.Place, i = place.start ∧ sort place.clause.head ∧
        ∀ clause ∈ place.earlier, ¬ sort clause.head := by
  unfold IsFirstHead
  constructor
  · intro h
    rcases h with ⟨hhead, hsort, hnone⟩
    rcases (chain.isHead_iff i).mp hhead with ⟨place, rfl⟩
    rw [place.getElem?_start] at hsort
    refine ⟨place, rfl, hsort, ?_⟩
    intro clause hclause
    rcases place.exists_before_of_mem clause hclause with ⟨p, rfl, hbefore⟩
    have := hnone p.start (by have := hbefore.stop_le_start; omega)
      ((chain.isHead_iff _).mpr ⟨p, rfl⟩)
    rw [p.getElem?_start] at this
    exact this
  · intro h
    rcases h with ⟨place, rfl, hsort, hnone⟩
    refine ⟨(chain.isHead_iff _).mpr ⟨place, rfl⟩, ?_, ?_⟩
    · rw [place.getElem?_start]
      exact hsort
    · intro other hlt hhead
      rcases (chain.isHead_iff other).mp hhead with ⟨p, rfl⟩
      rw [p.getElem?_start]
      exact hnone _ (p.before_of_start_lt place hlt).mem_earlier

/-- The search from the front comes to this place and ends there. -/
structure Place.Chosen (defined : Text → Bool) (place : chain.Place) : Prop where
  takes : place.clause.takes defined
  passes : ∀ clause ∈ place.earlier, ¬ clause.takes defined

variable (defined : Text → Bool)

/-- A guard that holds somewhere holds somewhere first. -/
theorem exists_isFirstHead (sort : ScannedLine → Bool) (clause : Clause)
    (hclause : clause ∈ chain.clauses) (hsort : sort clause.head) :
    ∃ i < chain.lines.length, IsFirstHead sort chain.lines 0 i := by
  have hfind : (chain.clauses.find? fun clause => sort clause.head).isSome :=
    List.find?_isSome.mpr ⟨clause, hclause, hsort⟩
  rcases Option.isSome_iff_exists.mp hfind with ⟨found, hfound⟩
  rcases List.find?_eq_some_iff_append.mp hfound with ⟨hfits, earlier, others, heq, hnone⟩
  refine ⟨Place.start ⟨earlier, found, others, heq⟩, ?_, ?_⟩
  · have := Place.stop_lt_length ⟨earlier, found, others, heq⟩
    omega
  · refine (chain.isFirstHead_iff sort _).mpr ⟨_, rfl, hfits, ?_⟩
    intro clause hmem
    simpa using hnone clause hmem

/-- A chain in order keeps the clause that the search from the front ends at. -/
theorem selected_iff (horder : chain.InOrder) (place : chain.Place) :
    Selected defined chain.lines 0 place.start ↔ place.Chosen defined := by
  have hnotElse := horder.not_isElse place
  unfold Selected
  constructor
  · intro h
    rcases h with hhold | ⟨helse, hnone⟩
    · -- The first guard that holds, and before it no `#else`.
      rcases (chain.isFirstHead_iff _ _).mp hhold with ⟨p, hstart, hholds, hbefore⟩
      rw [← place.eq_of_start_eq p hstart] at hholds hbefore
      refine ⟨by simp [Clause.takes, hholds], ?_⟩
      intro clause hclause htakes
      rw [Clause.takes, Bool.or_eq_true] at htakes
      exact htakes.elim (hbefore clause hclause) (hnotElse clause hclause)
    · -- The first `#else`, and no guard that holds anywhere.
      rcases (chain.isFirstHead_iff _ _).mp helse with ⟨p, hstart, hisElse, hbefore⟩
      rw [← place.eq_of_start_eq p hstart] at hisElse hbefore
      refine ⟨by simp [Clause.takes, hisElse], ?_⟩
      intro clause hclause htakes
      rw [Clause.takes, Bool.or_eq_true] at htakes
      rcases htakes with hholds | hbad
      · have hmem : clause ∈ chain.clauses := by simp [place.eq, hclause]
        rcases exists_isFirstHead (·.holds defined) clause hmem hholds with ⟨i, hi, hfirst⟩
        exact hnone i hi hfirst
      · exact hbefore clause hclause hbad
  · intro h
    rcases h with ⟨htakes, hpasses⟩
    have hearlier (clause : Clause) (hclause : clause ∈ place.earlier) :
        ¬ clause.head.holds defined := fun hholds =>
      hpasses clause hclause (by simp [Clause.takes, hholds])
    by_cases hholds : place.clause.head.holds defined
    · exact .inl ((chain.isFirstHead_iff _ _).mpr ⟨place, rfl, hholds, hearlier⟩)
    · have helse : place.clause.head.isElse := by simpa [Clause.takes, hholds] using htakes
      refine .inr ⟨(chain.isFirstHead_iff _ _).mpr ⟨place, rfl, helse, hnotElse⟩,
        ?_⟩
      intro other _ hfirst
      -- No guard holds: not before the `#else`, and nothing is behind it.
      rcases (chain.isFirstHead_iff _ _).mp hfirst with ⟨q, -, hq, -⟩
      rcases place.trichotomy q with rfl | hbefore | hbefore
      · exact hholds hq
      · have := hbefore.mem_others
        rw [horder place helse] at this
        cases this
      · exact hearlier q.clause hbefore.mem_earlier hq

/-- A position in a branch is in the kept branch if its own is kept. -/
theorem inSelected_iff (place : chain.Place) (i : Nat) (hi : i < place.clause.body.length) :
    InSelected defined chain.lines 0 (place.start + 1 + i) ↔
      Selected defined chain.lines 0 place.start := by
  have hhead : IsHead chain.lines 0 place.start := (chain.isHead_iff _).mpr ⟨place, rfl⟩
  -- No later head is in front of the position.
  have hlast (other : Nat) (hother : IsHead chain.lines 0 other)
      (hlt : other < place.start + 1 + i + 1) : other ≤ place.start := by
    rcases (chain.isHead_iff other).mp hother with ⟨q, rfl⟩
    rcases Nat.lt_or_ge place.start q.start with hstart | hle
    · have := (place.before_of_start_lt q hstart).stop_le_start
      omega
    · exact hle
  constructor
  · intro h
    rcases h with ⟨head, hlt, hsel, hall⟩
    -- The kept head is neither behind the head of the branch nor before it.
    have hselHead : IsHead chain.lines 0 head := hsel.elim (·.1) (·.1.1)
    have hle := hlast head hselHead (by omega)
    have hge := hall place.start (by omega) hhead
    rw [show place.start = head by omega]
    exact hsel
  · intro hsel
    exact ⟨place.start, by omega, hsel, fun other hlt hother => hlast other hother hlt⟩

namespace Place

/-- What is live in a branch: what is live in it by itself, if the branch is kept. -/
theorem isLive_body_iff (horder : chain.InOrder) (place : chain.Place) (i : Nat)
    (hi : i < place.clause.body.length) :
    IsLive defined chain.lines (place.start + 1 + i) ↔
      place.Chosen defined ∧ IsLive defined place.clause.body i := by
  rw [← selected_iff defined horder place, ← inSelected_iff defined place i hi]
  have h := isLive_context place.opener place.closer defined place.balanced_body i hi
  rw [← place.lines_eq, place.length_opener] at h
  rw [h]
  -- Of the chains open in front of the branch there is only the one at the start.
  refine and_congr_left fun _ => ⟨fun hall => ?_, fun hzero first hfirst hopen => ?_⟩
  · have hlt : 0 < place.opener.length := by
      rw [place.length_opener]
      omega
    exact hall 0 (by omega) ((place.isOpen_opener_iff 0 hlt).mpr rfl)
  · rw [← place.length_opener] at hfirst
    rw [(place.isOpen_opener_iff first hfirst).mp hopen]
    exact hzero

theorem Chosen.unique {p q : chain.Place} (hp : p.Chosen defined) (hq : q.Chosen defined) :
    p = q := by
  rcases p.trichotomy q with heq | hbefore | hbefore
  · exact heq
  · exact absurd hp.takes (hq.passes _ hbefore.mem_earlier)
  · exact absurd hq.takes (hp.passes _ hbefore.mem_earlier)

end Place

theorem exists_chosen_of_find? (clause : Clause)
    (h : chain.clauses.find? (·.takes defined) = some clause) :
    ∃ place : chain.Place, place.clause = clause ∧ place.Chosen defined := by
  rcases List.find?_eq_some_iff_append.mp h with ⟨htakes, earlier, others, heq, hnone⟩
  exact ⟨⟨earlier, clause, others, heq⟩, rfl, htakes, fun clause hmem => by
    simpa using hnone clause hmem⟩

theorem find?_eq_some_of_chosen (place : chain.Place) (h : place.Chosen defined) :
    chain.clauses.find? (·.takes defined) = some place.clause := by
  rw [List.find?_eq_some_iff_append]
  refine ⟨h.takes, place.earlier, place.others, place.eq, ?_⟩
  intro clause hmem
  simpa using h.passes clause hmem

theorem find?_eq_none_of_not_chosen (h : ∀ place : chain.Place, ¬ place.Chosen defined) :
    chain.clauses.find? (·.takes defined) = none := by
  rcases hfind : chain.clauses.find? (·.takes defined) with _ | clause
  · exact hfind
  · rcases exists_chosen_of_find? defined clause hfind with ⟨place, -, hchosen⟩
    exact absurd hchosen (h place)

theorem not_chosen_of_find? (h : chain.clauses.find? (·.takes defined) = none)
    (place : chain.Place) : ¬ place.Chosen defined :=
  fun hchosen => List.find?_eq_none.mp h place.clause place.mem hchosen.takes

/-! ### Live lines and live chains of a chain -/

/-- A live line of a chain that is no directive lies in the kept branch. -/
theorem exists_chosen_of_isSource (horder : chain.InOrder) (i : Nat)
    (hsource : chain.lines[i]?.any ScannedLine.isSource) (hlive : IsLive defined chain.lines i) :
    ∃ place : chain.Place, ∃ j < place.clause.body.length,
      i = place.start + 1 + j ∧ place.Chosen defined := by
  rcases chain.exists_place i (lt_length_of_any _ i _ hsource) with
    ⟨place, rfl⟩ | ⟨place, j, hj, rfl⟩ | hlast
  · -- Heads and the `#endif` are directives, so only branches are left.
    rw [place.getElem?_start] at hsource
    exact absurd (show place.clause.head.isSource from hsource) place.not_isSource_head
  · exact ⟨place, j, hj, rfl, ((place.isLive_body_iff defined horder j hj).mp hlive).1⟩
  · rw [chain.getElem?_last i hlast] at hsource
    exact absurd (show chain.closing.isSource from hsource)
      (chain.closing.not_isSource_of_closes chain.closes)

theorem liveLines_eq_nil (horder : chain.InOrder)
    (hnone : ∀ place : chain.Place, ¬ place.Chosen defined) :
    liveLines defined chain.lines = [] := by
  refine liveIn_eq_nil defined _ 0 _ ?_
  intro i _ hsource hlive
  rw [Nat.zero_add] at hlive
  rcases exists_chosen_of_isSource defined horder i hsource hlive with ⟨place, _, _, _, hchosen⟩
  exact hnone place hchosen

theorem liveLines_eq_body (horder : chain.InOrder) (place : chain.Place)
    (hchosen : place.Chosen defined) :
    liveLines defined chain.lines = liveLines defined place.clause.body := by
  -- Whatever is live is in the branch, so the parts around it contribute nothing.
  have hinside (i : Nat) (hsource : chain.lines[i]?.any ScannedLine.isSource)
      (hlive : IsLive defined chain.lines i) :
      place.start < i ∧ i < place.start + 1 + place.clause.body.length := by
    rcases exists_chosen_of_isSource defined horder i hsource hlive with ⟨q, j, hj, rfl, hq⟩
    rw [Place.Chosen.unique defined hq hchosen] at hj ⊢
    omega
  have hlen := place.length_opener
  have hopener : liveIn defined chain.lines 0 place.opener = [] := by
    refine liveIn_eq_nil defined _ 0 _ ?_
    intro i hi hsource hlive
    rw [Nat.zero_add] at hlive
    have := hinside i (by rw [place.lines_eq, List.getElem?_append_left hi]; exact hsource) hlive
    omega
  have hcloser : liveIn defined chain.lines (place.opener.length + place.clause.body.length)
      place.closer = [] := by
    refine liveIn_eq_nil defined _ _ _ ?_
    intro i _ hsource hlive
    have := hinside _ (by
      rw [place.lines_eq, List.getElem?_append_right (by omega),
        List.getElem?_append_right (by omega)]
      rw [show place.opener.length + place.clause.body.length + i - place.opener.length -
        place.clause.body.length = i by omega]
      exact hsource) hlive
    omega
  have hbody : liveIn defined chain.lines place.opener.length place.clause.body =
      liveLines defined place.clause.body := by
    refine liveIn_congr defined _ _ _ 0 _ ?_
    intro i hi
    rw [hlen, Nat.zero_add, place.isLive_body_iff defined horder i hi]
    exact and_iff_right hchosen
  calc liveLines defined chain.lines
      = liveIn defined chain.lines 0 (place.opener ++ (place.clause.body ++ place.closer)) := by
        rw [liveLines, ← place.lines_eq]
    _ = liveLines defined place.clause.body := by
        rw [liveIn_append, liveIn_append, Nat.zero_add, hopener, hbody, hcloser,
          List.nil_append, List.append_nil]

/-- The live chains of a chain: the chain itself, and those of the kept branch one
    level deeper. -/
theorem chainsFit_iff (limit depth : Nat) :
    ChainsFit defined limit depth chain.lines ↔
      chain.InOrder ∧ depth ≤ limit ∧
        ∀ place : chain.Place, place.Chosen defined →
          ChainsFit defined limit (depth + 1) place.clause.body := by
  -- In front of a branch one chain is open, which makes the one level.
  have hbody (place : chain.Place) (first : Nat) (hfirst : first < place.clause.body.length) :
      ChainFits limit depth chain.lines (place.start + 1 + first) ↔
        ChainFits limit (depth + 1) place.clause.body first := by
    have h := chainFits_context place.opener place.closer place.balanced_body limit depth first
      hfirst
    rw [← place.lines_eq, place.length_opener, place.openChains_opener] at h
    exact h
  constructor
  · -- The chain itself is live, since nothing is around it.
    intro h
    have hzero := h 0 (by simp [lines, clauses, chain.opens])
      fun first hfirst => absurd hfirst (Nat.not_lt_zero first)
    have horder := (chain.inOrder_iff).mpr hzero.ordered
    refine ⟨horder, Nat.le_trans (Nat.le_add_right _ _) hzero.shallow, ?_⟩
    intro place hchosen first hopens hlive
    have hlt := lt_length_of_any _ first _ hopens
    refine (hbody place first hlt).mp (h _ ?_ ?_)
    · rw [place.getElem?_body first hlt]
      exact hopens
    · exact (place.isLive_body_iff defined horder first hlt).mpr ⟨hchosen, hlive⟩
  · intro h first hopens hlive
    rcases h with ⟨horder, hdepth, hkept⟩
    rcases chain.exists_place first (lt_length_of_any _ first _ hopens) with
      ⟨place, rfl⟩ | ⟨place, i, hi, rfl⟩ | hlast
    · rw [place.getElem?_start] at hopens
      rw [place.start_eq_zero_of_opens hopens]
      refine ⟨(chain.inOrder_iff).mp horder, ?_⟩
      exact hdepth
    · rcases (place.isLive_body_iff defined horder i hi).mp hlive with ⟨hchosen, hinner⟩
      rw [place.getElem?_body i hi] at hopens
      exact (hbody place i hi).mpr (hkept place hchosen i hopens hinner)
    · rw [chain.getElem?_last first hlast] at hopens
      have hweight := chain.closing.weight_of_opens hopens
      rw [chain.closing.weight_of_closes chain.closes] at hweight
      cases hweight

end Chain

end DirectiveStrip
