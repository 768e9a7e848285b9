import DirectiveStrip.Proofs.Resolve.Balance

/-!
# Chains in the Middle of a List

Liveness speaks of positions in the whole list, stripping goes on with parts of
it. For a balanced part the two agree. Its chains do not reach out of it, because
a chain that is open at its end would have brought the count below where the part
began. The chains around a position in the part are those inside the part and
those that were open when it began, and the latter have all of it inside.

## Main definitions

* `IsOpen`: A chain is still open behind a list of lines.
* `openChains`: How many are.

## Theorems

* `isHead_context`: A chain inside the part has the heads it has by itself.
* `inSelected_context`: It keeps the same branch.
* `isLive_context`: A position is live if the part is and the position in it is.
* `chainFits_context`: What is asked of a chain is asked of it in the part.
* `liveIn_append`, `liveIn_congr`: The live lines, part by part.
-/

namespace DirectiveStrip

/-! ### Before any context -/

theorem IsHead.le {lines : List ScannedLine} {first i : Nat} (h : IsHead lines first i) :
    first ≤ i := by
  rcases h with rfl | ⟨h, -⟩
  · exact Nat.le_refl _
  · exact Nat.le_of_lt h.before

/-- Behind a list of lines the chain that was opened at `first` is still open. -/
structure IsOpen (lines : List ScannedLine) (first : Nat) : Prop where
  opens : lines[first]?.any ScannedLine.opens
  above : ∀ j < lines.length + 1, first < j → openCount lines first < openCount lines j

instance (lines : List ScannedLine) (first : Nat) : Decidable (IsOpen lines first) :=
  decidable_of_iff
    (lines[first]?.any ScannedLine.opens ∧
      ∀ j < lines.length + 1, first < j → openCount lines first < openCount lines j)
    ⟨fun h => ⟨h.1, h.2⟩, fun h => ⟨h.opens, h.above⟩⟩

/-- The number of chains that are open behind a list of lines. -/
def openChains (lines : List ScannedLine) : Nat :=
  (List.range lines.length).countP fun first => decide (IsOpen lines first)

/-! ### A balanced part of a list -/

section Context

variable (before body after : List ScannedLine)

theorem getElem?_context (i : Nat) (h : i < body.length) :
    (before ++ (body ++ after))[before.length + i]? = body[i]? := by
  rw [List.getElem?_append_right (Nat.le_add_right _ _), Nat.add_sub_cancel_left,
    List.getElem?_append_left h]

theorem openCount_context (i : Nat) (h : i ≤ body.length) :
    openCount (before ++ (body ++ after)) (before.length + i) =
      openCount before before.length + openCount body i := by
  rw [openCount_append, openCount_append_of_le body after i h]

theorem encloses_context (first i : Nat) (h : i < body.length) :
    Encloses (before ++ (body ++ after)) (before.length + first) (before.length + i) ↔
      Encloses body first i := by
  constructor
  · -- What was open in front of the part cancels on both sides of every comparison.
    intro henc
    have hlt : first < i := by
      have := henc.before
      omega
    refine ⟨?_, hlt, ?_⟩
    · rw [← getElem?_context before body after first (by omega)]
      exact henc.opens
    · intro j hj hfirst
      have := henc.above (before.length + j) (by omega) (by omega)
      rw [openCount_context before body after j (by omega),
        openCount_context before body after first (by omega)] at this
      omega
  · intro henc
    have hlt := henc.before
    refine ⟨?_, by omega, ?_⟩
    · rw [getElem?_context before body after first (by omega)]
      exact henc.opens
    · intro j hj hfirst
      have := henc.above (j - before.length) (by omega) (by omega)
      rw [openCount_context before body after first (by omega),
        show j = before.length + (j - before.length) by omega,
        openCount_context before body after _ (by omega)]
      omega

variable {body}

/-- A chain of the part ends in the part. -/
theorem not_encloses_context (hbody : Balanced body) (first i : Nat) (hfirst : first < body.length)
    (hi : before.length + body.length ≤ i) :
    ¬ Encloses (before ++ (body ++ after)) (before.length + first) i := by
  intro henc
  -- At the end of the part the count is back where the part began.
  have hend := henc.above (before.length + body.length) (by omega) (by omega)
  rw [openCount_context before body after body.length (Nat.le_refl _), hbody.closed,
    openCount_context before body after first (by omega)] at hend
  have := hbody.nonneg first (by omega)
  omega

/-- A chain of the part has the heads that it has in the part by itself. -/
theorem isHead_context (hbody : Balanced body) (first other : Nat)
    (hfirst : first < body.length) :
    IsHead (before ++ (body ++ after)) (before.length + first) other ↔
      ∃ i, other = before.length + i ∧ IsHead body first i := by
  constructor
  · intro h
    have hle := h.le
    refine ⟨other - before.length, by omega, ?_⟩
    rcases h with rfl | ⟨henc, hsep, hcount⟩
    · exact .inl (by omega)
    · -- A head behind the part would still have the chain around it.
      have hlt : other - before.length < body.length := by
        by_cases hlt : other - before.length < body.length
        · exact hlt
        · exact absurd henc
            (not_encloses_context before after hbody first other hfirst (by omega))
      rw [show other = before.length + (other - before.length) by omega] at henc hsep hcount
      rw [encloses_context before body after first _ hlt] at henc
      rw [getElem?_context before body after _ hlt] at hsep
      rw [openCount_context before body after _ (by omega),
        openCount_context before body after first (by omega)] at hcount
      exact .inr ⟨henc, hsep, by omega⟩
  · -- The counts of both positions are moved by the same amount.
    intro h
    rcases h with ⟨i, rfl, rfl | ⟨henc, hsep, hcount⟩⟩
    · exact .inl rfl
    · have hlt := lt_length_of_any body i _ hsep
      refine .inr ⟨(encloses_context before body after first i hlt).mpr henc, ?_, ?_⟩
      · rw [getElem?_context before body after i hlt]
        exact hsep
      · rw [openCount_context before body after i (by omega),
          openCount_context before body after first (by omega)]
        omega

/-- Heads of the part lie in the part. -/
theorem IsHead.lt {lines : List ScannedLine} {first i : Nat} (h : IsHead lines first i)
    (hfirst : first < lines.length) : i < lines.length := by
  rcases h with rfl | ⟨-, hsep, -⟩
  · exact hfirst
  · exact lt_length_of_any lines i _ hsep

theorem isFirstHead_context (sort : ScannedLine → Bool) (hbody : Balanced body)
    (first other : Nat) (hfirst : first < body.length) :
    IsFirstHead sort (before ++ (body ++ after)) (before.length + first) other ↔
      ∃ i, other = before.length + i ∧ IsFirstHead sort body first i := by
  unfold IsFirstHead
  constructor
  · intro h
    rcases h with ⟨hhead, hsort, hnone⟩
    rcases (isHead_context before after hbody first other hfirst).mp hhead with ⟨i, rfl, hi⟩
    have hlt := hi.lt hfirst
    refine ⟨i, rfl, hi, ?_, ?_⟩
    · rw [← getElem?_context before body after i hlt]
      exact hsort
    · intro j hj hhead'
      rw [← getElem?_context before body after j (by omega)]
      exact hnone _ (by omega) ((isHead_context before after hbody first _ hfirst).mpr
        ⟨j, rfl, hhead'⟩)
  · intro h
    rcases h with ⟨i, rfl, hi, hsort, hnone⟩
    have hlt := hi.lt hfirst
    refine ⟨(isHead_context before after hbody first _ hfirst).mpr ⟨i, rfl, hi⟩, ?_, ?_⟩
    · rw [getElem?_context before body after i hlt]
      exact hsort
    · intro j hj hhead
      rcases (isHead_context before after hbody first j hfirst).mp hhead with ⟨k, rfl, hk⟩
      rw [getElem?_context before body after k (by omega)]
      exact hnone k (by omega) hk

variable (defined : Text → Bool)

theorem selected_context (hbody : Balanced body) (first other : Nat)
    (hfirst : first < body.length) :
    Selected defined (before ++ (body ++ after)) (before.length + first) other ↔
      ∃ i, other = before.length + i ∧ Selected defined body first i := by
  unfold Selected
  rw [isFirstHead_context before after _ hbody first other hfirst,
    isFirstHead_context before after _ hbody first other hfirst]
  -- Whether any guard holds is asked of the same heads.
  have hnone :
      (∀ k < (before ++ (body ++ after)).length,
          ¬ IsFirstHead (·.holds defined) (before ++ (body ++ after)) (before.length + first) k) ↔
        ∀ k < body.length, ¬ IsFirstHead (·.holds defined) body first k := by
    constructor
    · intro h k hk hhead
      refine h (before.length + k) (by simp only [List.length_append]; omega) ?_
      exact (isFirstHead_context before after _ hbody first _ hfirst).mpr ⟨k, rfl, hhead⟩
    · intro h k _ hhead
      rcases (isFirstHead_context before after _ hbody first k hfirst).mp hhead with ⟨i, -, hi⟩
      exact h i (hi.1.lt hfirst) hi
  rw [hnone]
  constructor
  · intro h
    rcases h with ⟨i, rfl, hi⟩ | ⟨⟨i, rfl, hi⟩, hno⟩
    · exact ⟨i, rfl, .inl hi⟩
    · exact ⟨i, rfl, .inr ⟨hi, hno⟩⟩
  · intro h
    rcases h with ⟨i, rfl, hi | ⟨hi, hno⟩⟩
    · exact .inl ⟨i, rfl, hi⟩
    · exact .inr ⟨⟨i, rfl, hi⟩, hno⟩

/-- A chain of the part keeps the branch that it keeps by itself. -/
theorem inSelected_context (hbody : Balanced body) (first i : Nat)
    (hfirst : first < body.length) :
    InSelected defined (before ++ (body ++ after)) (before.length + first) (before.length + i) ↔
      InSelected defined body first i := by
  unfold InSelected
  constructor
  · intro h
    rcases h with ⟨head, hlt, hsel, hlast⟩
    rcases (selected_context before after defined hbody first head hfirst).mp hsel with
      ⟨k, rfl, hk⟩
    refine ⟨k, by omega, hk, ?_⟩
    intro other hother hhead
    have := hlast (before.length + other) (by omega)
      ((isHead_context before after hbody first _ hfirst).mpr ⟨other, rfl, hhead⟩)
    omega
  · intro h
    rcases h with ⟨head, hlt, hsel, hlast⟩
    refine ⟨before.length + head, by omega,
      (selected_context before after defined hbody first _ hfirst).mpr ⟨head, rfl, hsel⟩, ?_⟩
    -- A head in between would be one in the part.
    intro other hother hhead
    rcases (isHead_context before after hbody first other hfirst).mp hhead with ⟨k, rfl, hk⟩
    have := hlast k (by omega) hk
    omega

/-- A chain from before the part is around a position in it if it was open there. -/
theorem encloses_context_before (hbody : Balanced body) (first i : Nat)
    (hfirst : first < before.length) (hi : i < body.length) :
    Encloses (before ++ (body ++ after)) first (before.length + i) ↔ IsOpen before first := by
  constructor
  · -- Up to the part the counts are those of the lines before it.
    intro henc
    refine ⟨?_, ?_⟩
    · rw [← List.getElem?_append_left hfirst]
      exact henc.opens
    · intro j hj hlt
      have := henc.above j (by omega) hlt
      rw [openCount_append_of_le before _ first (by omega),
        openCount_append_of_le before _ j (by omega)] at this
      exact this
  · intro hopen
    refine ⟨?_, by omega, ?_⟩
    · rw [List.getElem?_append_left hfirst]
      exact hopen.opens
    · intro j hj hlt
      rw [openCount_append_of_le before _ first (by omega)]
      rcases Nat.lt_or_ge j before.length with hj' | hj'
      · rw [openCount_append_of_le before _ j (by omega)]
        exact hopen.above j (by omega) hlt
      · -- In the part the count is at least what it was when the part began.
        have hstart := hopen.above before.length (by omega) hfirst
        have hpart := hbody.nonneg (j - before.length) (by omega)
        rw [show j = before.length + (j - before.length) by omega,
          openCount_context before body after _ (by omega)]
        omega

/-- A position in the part is live if it is so in the part by itself, and the chains
    that were open keep the branch that it is in. -/
theorem isLive_context (hbody : Balanced body) (i : Nat) (hi : i < body.length) :
    IsLive defined (before ++ (body ++ after)) (before.length + i) ↔
      (∀ first < before.length, IsOpen before first →
        InSelected defined (before ++ (body ++ after)) first (before.length + i)) ∧
      IsLive defined body i := by
  constructor
  · intro hlive
    constructor
    · intro first hfirst hopen
      exact hlive first (by omega)
        ((encloses_context_before before after hbody first i hfirst hi).mpr hopen)
    · -- A chain of the part is around the same positions in the whole.
      intro first hfirst henc
      refine (inSelected_context before after defined hbody first i (by omega)).mp ?_
      exact hlive _ (by omega) ((encloses_context before body after first i hi).mpr henc)
  · intro h first hfirst henc
    rcases h with ⟨houter, hinner⟩
    -- The chain was opened before the part or in it.
    rcases Nat.lt_or_ge first before.length with hlt | hge
    · exact houter first hlt
        ((encloses_context_before before after hbody first i hlt hi).mp henc)
    · rw [show first = before.length + (first - before.length) by omega] at henc ⊢
      refine (inSelected_context before after defined hbody _ i (by omega)).mpr ?_
      exact hinner _ (by omega) ((encloses_context before body after _ i hi).mp henc)

theorem enclosing_context (hbody : Balanced body) (i : Nat) (hi : i < body.length) :
    enclosing (before ++ (body ++ after)) (before.length + i) =
      openChains before + enclosing body i := by
  unfold enclosing openChains
  -- First the positions before the part are counted, then those in it.
  rw [List.range_add, List.countP_append, List.countP_map]
  congr 1
  · refine List.countP_congr ?_
    intro first hfirst
    rw [decide_eq_true_iff, decide_eq_true_iff]
    exact encloses_context_before before after hbody first i (List.mem_range.mp hfirst) hi
  · refine List.countP_congr ?_
    intro first _
    rw [Function.comp_apply, decide_eq_true_iff, decide_eq_true_iff]
    exact encloses_context before body after first i hi

theorem chainFits_context (hbody : Balanced body) (limit depth first : Nat)
    (hfirst : first < body.length) :
    ChainFits limit depth (before ++ (body ++ after)) (before.length + first) ↔
      ChainFits limit (depth + openChains before) body first := by
  constructor
  · intro h
    refine ⟨?_, ?_⟩
    · intro head hhead helse other hother
      have hat (k : Nat) (hk : IsHead body first k) :
          IsHead (before ++ (body ++ after)) (before.length + first) (before.length + k) :=
        (isHead_context before after hbody first _ hfirst).mpr ⟨k, rfl, hk⟩
      rw [← getElem?_context before body after head (hhead.lt hfirst)] at helse
      have := h.ordered _ (hat head hhead) helse _ (hat other hother)
      omega
    · have := h.shallow
      rw [enclosing_context before after hbody first hfirst] at this
      omega
  · intro h
    refine ⟨?_, ?_⟩
    · intro head hhead helse other hother
      rcases (isHead_context before after hbody first head hfirst).mp hhead with ⟨k, rfl, hk⟩
      rcases (isHead_context before after hbody first other hfirst).mp hother with ⟨l, rfl, hl⟩
      rw [getElem?_context before body after k (hk.lt hfirst)] at helse
      have := h.ordered k hk helse l hl
      omega
    · have := h.shallow
      rw [enclosing_context before after hbody first hfirst]
      omega

end Context

/-! ### Live lines, part by part -/

section LiveIn

variable (defined : Text → Bool) (whole : List ScannedLine)

theorem liveIn_cons (start : Nat) (scanned : ScannedLine) (part : List ScannedLine) :
    liveIn defined whole start (scanned :: part) =
      (if scanned.isSource ∧ IsLive defined whole start then [scanned] else []) ++
        liveIn defined whole (start + 1) part := by
  unfold liveIn
  rw [List.zipIdx_cons, List.filter_cons]
  by_cases h : scanned.isSource ∧ IsLive defined whole start
  · simp [h]
  · rw [if_neg h, if_neg (by simpa using h), List.nil_append]

theorem liveIn_append (start : Nat) (part part' : List ScannedLine) :
    liveIn defined whole start (part ++ part') =
      liveIn defined whole start part ++ liveIn defined whole (start + part.length) part' := by
  unfold liveIn
  rw [List.zipIdx_append, List.filter_append, List.map_append]

/-- Only the liveness of positions matters, not where they are counted from. -/
theorem liveIn_congr (whole' : List ScannedLine) (start start' : Nat)
    (part : List ScannedLine)
    (h : ∀ i < part.length,
      IsLive defined whole (start + i) ↔ IsLive defined whole' (start' + i)) :
    liveIn defined whole start part = liveIn defined whole' start' part := by
  induction part generalizing start start' with
  | nil => rfl
  | cons scanned rest ih =>
      have hhead := h 0 (by simp)
      have hrest := ih (start + 1) (start' + 1) fun i hi => by
        have := h (i + 1) (by simpa using hi)
        rw [show start + 1 + i = start + (i + 1) by omega,
          show start' + 1 + i = start' + (i + 1) by omega]
        exact this
      rw [liveIn_cons, liveIn_cons, hrest]
      simp only [Nat.add_zero] at hhead
      simp only [hhead]

theorem liveIn_eq_nil (start : Nat) (part : List ScannedLine)
    (h : ∀ i < part.length, part[i]?.any ScannedLine.isSource →
      ¬ IsLive defined whole (start + i)) :
    liveIn defined whole start part = [] := by
  induction part generalizing start with
  | nil => rfl
  | cons scanned rest ih =>
      have hrest := ih (start + 1) fun i hi hsource => by
        rw [show start + 1 + i = start + (i + 1) by omega]
        exact h (i + 1) (by simpa using hi) hsource
      rw [liveIn_cons, hrest, if_neg, List.append_nil]
      intro h
      rcases h with ⟨hsource, hlive⟩
      exact h 0 (by simp) hsource hlive

end LiveIn

end DirectiveStrip
