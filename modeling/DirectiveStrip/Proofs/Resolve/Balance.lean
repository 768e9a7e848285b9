import DirectiveStrip.Proofs.Resolve.Chain

/-!
# Counting Through Lines

One counter decides whether directives pair up. Read line by line it refuses to
go below zero and refuses an `#elif` or `#else` at zero, and that is all that
`Balanced` asks of the positions.

The counter is what the walks over a chain have in common. A walk inside
`nested` inner chains reads on past lines that take the counter from `nested` to
somewhere, and a branch ends at the first line that a counter from zero refuses.

## Main definitions

* `ScannedLine.next`: The counter behind a line.
* `ScannedLine.refusal`: What is wrong with a line that the counter refuses.
* `balance`: The counter behind a list of lines.

## Theorems

* `ScannedLine.passed_cases`, `ScannedLine.refused_cases`: What a line can do to
  the counter.
* `balance_append`: Counting in two parts.
* `balance_eq_some_iff`: The counter is the number of open chains.
* `balance_iff_balanced`: The counter decides whether lines are balanced.
* `exists_body_of_balance`: Where the counter comes down for the first time.
-/

namespace DirectiveStrip

/-! ### The number of open chains -/

theorem lt_length_of_any (lines : List ScannedLine) (i : Nat) (sort : ScannedLine → Bool)
    (h : lines[i]?.any sort) : i < lines.length := by
  by_cases hlt : i < lines.length
  · exact hlt
  · rw [List.getElem?_eq_none (Nat.le_of_not_lt hlt)] at h
    cases h

theorem exists_mem_of_any (lines : List ScannedLine) (i : Nat) (sort : ScannedLine → Bool)
    (h : lines[i]?.any sort) : ∃ scanned ∈ lines, sort scanned := by
  rcases hget : lines[i]? with _ | scanned
  · rw [hget] at h
    cases h
  · rw [hget] at h
    exact ⟨scanned, List.mem_of_getElem? hget, h⟩

@[simp] theorem openCount_zero (lines : List ScannedLine) : openCount lines 0 = 0 := rfl

theorem openCount_cons (scanned : ScannedLine) (lines : List ScannedLine) (i : Nat) :
    openCount (scanned :: lines) (i + 1) = scanned.weight + openCount lines i := by
  unfold openCount
  rw [List.take_succ_cons, List.map_cons, List.sum_cons]

theorem openCount_append (before lines : List ScannedLine) (i : Nat) :
    openCount (before ++ lines) (before.length + i) =
      openCount before before.length + openCount lines i := by
  unfold openCount
  rw [List.take_length_add_append, List.take_length, List.map_append, List.sum_append]

theorem openCount_append_of_le (lines after : List ScannedLine) (i : Nat)
    (h : i ≤ lines.length) : openCount (lines ++ after) i = openCount lines i := by
  unfold openCount
  rw [List.take_append_of_le_length h]

theorem openCount_succ (lines : List ScannedLine) (i : Nat) (scanned : ScannedLine)
    (h : lines[i]? = some scanned) :
    openCount lines (i + 1) = openCount lines i + scanned.weight := by
  unfold openCount
  rw [List.take_add_one, h, Option.toList_some, List.map_append, List.sum_append]
  simp

/-! ### Lines by what they say -/

namespace ScannedLine

variable (scanned : ScannedLine)

theorem opens_cases (h : scanned.opens) : ∃ guard, scanned.reading = .ok (.ifLine guard) := by
  unfold opens at h
  split at h
  · next guard hreading => exact ⟨guard, hreading⟩
  · cases h

theorem closes_cases (h : scanned.closes) :
    ∃ ignored, scanned.reading = .ok (.endifLine ignored) := by
  unfold closes at h
  split at h
  · next ignored hreading => exact ⟨ignored, hreading⟩
  · cases h

theorem separates_cases (h : scanned.separates) :
    (∃ guard, scanned.reading = .ok (.elifLine guard)) ∨
      ∃ ignored, scanned.reading = .ok (.elseLine ignored) := by
  unfold separates at h
  split at h
  · next guard hreading => exact .inl ⟨guard, hreading⟩
  · next ignored hreading => exact .inr ⟨ignored, hreading⟩
  · cases h

theorem weight_of_opens (h : scanned.opens) : scanned.weight = 1 := by
  rcases scanned.opens_cases h with ⟨guard, hreading⟩
  simp [weight, hreading]

theorem weight_of_closes (h : scanned.closes) : scanned.weight = -1 := by
  rcases scanned.closes_cases h with ⟨ignored, hreading⟩
  simp [weight, hreading]

theorem weight_of_separates (h : scanned.separates) : scanned.weight = 0 := by
  rcases scanned.separates_cases h with ⟨guard, hreading⟩ | ⟨ignored, hreading⟩
  · simp [weight, hreading]
  · simp [weight, hreading]

theorem not_isSource_of_opens (h : scanned.opens) : ¬ scanned.isSource := by
  rcases scanned.opens_cases h with ⟨guard, hreading⟩
  simp [isSource, hreading]

theorem not_isSource_of_closes (h : scanned.closes) : ¬ scanned.isSource := by
  rcases scanned.closes_cases h with ⟨ignored, hreading⟩
  simp [isSource, hreading]

theorem not_isSource_of_separates (h : scanned.separates) : ¬ scanned.isSource := by
  rcases scanned.separates_cases h with ⟨guard, hreading⟩ | ⟨ignored, hreading⟩
  · simp [isSource, hreading]
  · simp [isSource, hreading]

theorem not_isElse_of_opens (h : scanned.opens) : scanned.isElse = false := by
  rcases scanned.opens_cases h with ⟨guard, hreading⟩
  simp [isElse, hreading]

end ScannedLine

/-! ### The counter -/

/-- The counter behind a line, unless the line refuses it. -/
def ScannedLine.next (count : Nat) (scanned : ScannedLine) : Option Nat :=
  match scanned.reading with
  | .error _ => none
  | .ok .source => some count
  | .ok (.ifLine _) => some (count + 1)
  | .ok (.elifLine _) | .ok (.elseLine _) => if count = 0 then none else some count
  | .ok (.endifLine _) => if count = 0 then none else some (count - 1)

/-- What a line is refused for: its own fault, or that it is a directive out of place. -/
def ScannedLine.refusal (scanned : ScannedLine) : DirectiveFault :=
  match scanned.reading with
  | .error fault => fault
  | .ok _ => .unexpectedDirective

/-- The ways in which a line passes the counter on. -/
theorem ScannedLine.passed_cases (scanned : ScannedLine) (count count' : Nat)
    (h : scanned.next count = some count') :
    (scanned.reading = .ok .source ∧ count' = count) ∨
      (∃ guard, scanned.reading = .ok (.ifLine guard) ∧ count' = count + 1) ∨
      (count ≠ 0 ∧ scanned.separates ∧ count' = count) ∨
      (count ≠ 0 ∧ scanned.closes ∧ count' = count - 1) := by
  -- A line in error, a source line and an `#if` do not look at the counter.
  unfold next at h
  unfold separates closes
  rcases hreading : scanned.reading with fault | (_ | _ | _ | _ | _) <;>
    simp only [hreading] at h ⊢
  · cases h
  · cases h
    simp
  · cases h
    simp
  all_goals
    by_cases hzero : count = 0
    · rw [if_pos hzero] at h
      cases h
    · rw [if_neg hzero] at h
      cases h
      simp [hzero]

/-- A line that passes outside of every chain is no directive or an `#if`. -/
theorem ScannedLine.next_zero_cases (scanned : ScannedLine) (count : Nat)
    (h : scanned.next 0 = some count) :
    (scanned.reading = .ok .source ∧ count = 0) ∨
      ∃ guard, scanned.reading = .ok (.ifLine guard) ∧ count = 1 := by
  rcases scanned.passed_cases 0 count h with hsource | hopen | ⟨hne, -⟩ | ⟨hne, -⟩
  · exact .inl hsource
  · exact .inr hopen
  · exact absurd rfl hne
  · exact absurd rfl hne

/-- A refused line is in error, or a directive at zero. -/
theorem ScannedLine.refused_cases (scanned : ScannedLine) (count : Nat)
    (h : scanned.next count = none) :
    (∃ fault, scanned.reading = .error fault) ∨
      count = 0 ∧ (scanned.separates ∨ scanned.closes) := by
  unfold next at h
  unfold separates closes
  rcases hreading : scanned.reading with fault | (_ | _ | _ | _ | _) <;>
    simp only [hreading] at h ⊢
  · exact .inl ⟨fault, rfl⟩
  · cases h
  · cases h
  all_goals
    by_cases hzero : count = 0
    · simp [hzero]
    · rw [if_neg hzero] at h
      cases h

/-- The counter behind a list of lines, unless a line refuses it. -/
def balance (count : Nat) : List ScannedLine → Option Nat
  | [] => some count
  | scanned :: rest => (scanned.next count).bind fun count => balance count rest

theorem balance_append (before after : List ScannedLine) (count : Nat) :
    balance count (before ++ after) =
      (balance count before).bind fun count => balance count after := by
  induction before generalizing count with
  | nil => rfl
  | cons scanned rest ih =>
      simp only [List.cons_append, balance, Option.bind_assoc, ih]

/-- A line that can be read moves the counter by its weight. The counter refuses to
    go below zero, and refuses an `#elif` or `#else` at zero. -/
theorem ScannedLine.next_eq_some_iff (scanned : ScannedLine) (count count' : Nat) :
    scanned.next count = some count' ↔
      scanned.reading.isOk ∧ (scanned.separates → (count : Int) ≠ 0) ∧
        (count' : Int) = count + scanned.weight := by
  unfold next weight separates
  rcases scanned.reading with fault | (_ | _ | _ | _ | _)
  · simp [Except.isOk, Except.toBool]
  all_goals
    simp only [Except.isOk, Except.toBool]
    by_cases hzero : count = 0 <;> simp [hzero] <;> omega

/-- The positional form of the counter, from any value to any other. -/
theorem balance_eq_some_iff (lines : List ScannedLine) (count count' : Nat) :
    balance count lines = some count' ↔
      (∀ scanned ∈ lines, scanned.reading.isOk) ∧
        (∀ i ≤ lines.length, 0 ≤ (count : Int) + openCount lines i) ∧
        (count' : Int) = count + openCount lines lines.length ∧
        ∀ i, lines[i]?.any ScannedLine.separates → (count : Int) + openCount lines i ≠ 0 := by
  induction lines generalizing count with
  | nil =>
      simp [balance]
      omega
  | cons scanned rest ih =>
      rw [balance, Option.bind_eq_some_iff]
      constructor
      · -- Every position but the first is one of the rest, under the count behind the line.
        intro h
        rcases h with ⟨middle, hnext, hrest⟩
        rcases (scanned.next_eq_some_iff count middle).mp hnext with ⟨hread, hsep, hweight⟩
        rcases (ih middle).mp hrest with ⟨hreads, hnonneg, hend, hinside⟩
        refine ⟨by simpa [hread] using hreads, ?_, ?_, ?_⟩
        · intro i hi
          cases i with
          | zero => simp
          | succ i =>
              have := hnonneg i (by simpa using hi)
              rw [openCount_cons]
              omega
        · rw [List.length_cons, openCount_cons]
          omega
        · intro i hi
          cases i with
          | zero => simpa using hsep hi
          | succ i =>
              have := hinside i hi
              rw [openCount_cons]
              omega
      · intro h
        rcases h with ⟨hreads, hnonneg, hend, hinside⟩
        -- The counter behind the line is the count there, which is not negative.
        have hfirst := hnonneg 1 (by simp)
        rw [openCount_cons, openCount_zero] at hfirst
        refine ⟨(count + scanned.weight).toNat, ?_, ?_⟩
        · rw [scanned.next_eq_some_iff]
          exact ⟨hreads scanned (by simp), by simpa using hinside 0, by omega⟩
        · rw [ih]
          refine ⟨fun line h => hreads line (by simp [h]), ?_, ?_, ?_⟩
          · intro i hi
            have := hnonneg (i + 1) (by simpa using hi)
            rw [openCount_cons] at this
            omega
          · rw [List.length_cons, openCount_cons] at hend
            omega
          · intro i hi
            have := hinside (i + 1) hi
            rw [openCount_cons] at this
            omega

/-- The counter comes back to zero exactly on balanced lines. -/
theorem balance_iff_balanced (lines : List ScannedLine) :
    balance 0 lines = some 0 ↔ Balanced lines := by
  rw [balance_eq_some_iff]
  constructor
  · intro h
    rcases h with ⟨hreads, hnonneg, hend, hinside⟩
    refine ⟨hreads, ?_, ?_, ?_⟩
    · intro i hi
      simpa using hnonneg i hi
    · simpa using hend.symm
    · intro i hi
      simpa using hinside i hi
  · intro h
    refine ⟨h.readable, ?_, ?_, ?_⟩
    · intro i hi
      simpa using h.nonneg i hi
    · simpa using h.closed.symm
    · intro i hi
      simpa using h.inside i hi

theorem balanced_nil : Balanced [] :=
  (balance_iff_balanced []).mp rfl

theorem balanced_singleton (scanned : ScannedLine) (h : scanned.reading = .ok .source) :
    Balanced [scanned] := by
  rw [← balance_iff_balanced, balance, ScannedLine.next, h]
  rfl

theorem Balanced.append {before after : List ScannedLine} (hbefore : Balanced before) :
    Balanced (before ++ after) ↔ Balanced after := by
  rw [← balance_iff_balanced, balance_append, (balance_iff_balanced before).mpr hbefore,
    Option.bind_some, balance_iff_balanced]

theorem Balanced.of_append {before after : List ScannedLine} (h : Balanced (before ++ after))
    (hafter : Balanced after) : Balanced before := by
  refine ⟨fun scanned hmem => h.readable scanned (List.mem_append_left _ hmem),
    ?_, ?_, ?_⟩
  · intro i hi
    rw [← openCount_append_of_le before after i hi]
    exact h.nonneg i (by rw [List.length_append]; omega)
  · -- What follows comes back to where it began, so that is zero.
    have hwhole := h.closed
    rw [List.length_append, openCount_append, hafter.closed, Int.add_zero] at hwhole
    exact hwhole
  · intro i hsep
    have hlt := lt_length_of_any before i _ hsep
    rw [← openCount_append_of_le before after i (by omega)]
    exact h.inside i (by rw [List.getElem?_append_left hlt]; exact hsep)

/-! ### Where the counter comes down -/

/-- A larger counter is refused nowhere that a smaller one is not. -/
theorem ScannedLine.next_add (scanned : ScannedLine) (count count' extra : Nat)
    (h : scanned.next count = some count') :
    scanned.next (count + extra) = some (count' + extra) := by
  rw [next_eq_some_iff] at h ⊢
  refine ⟨h.1, ?_, ?_⟩
  · intro hsep
    have := h.2.1 hsep
    omega
  · rw [Int.natCast_add, Int.natCast_add, h.2.2]
    omega

theorem balance_add (lines : List ScannedLine) (count count' extra : Nat)
    (h : balance count lines = some count') :
    balance (count + extra) lines = some (count' + extra) := by
  induction lines generalizing count with
  | nil =>
      rw [balance, Option.some.injEq] at h ⊢
      rw [h]
  | cons scanned rest ih =>
      rw [balance, Option.bind_eq_some_iff] at h
      rcases h with ⟨middle, hnext, hrest⟩
      rw [balance, scanned.next_add count middle extra hnext, Option.bind_some]
      exact ih middle hrest

theorem ScannedLine.next_of_separates (scanned : ScannedLine) (count : Nat)
    (h : scanned.separates) : scanned.next (count + 1) = some (count + 1) := by
  rcases scanned.separates_cases h with ⟨guard, hreading⟩ | ⟨ignored, hreading⟩
  · simp [next, hreading]
  · simp [next, hreading]

theorem ScannedLine.next_of_closes (scanned : ScannedLine) (count : Nat)
    (h : scanned.closes) : scanned.next (count + 1) = some count := by
  rcases scanned.closes_cases h with ⟨ignored, hreading⟩
  simp [next, hreading]

/-- Lines that bring the counter down to zero fall into a branch, the line that ends
    it, and what follows. The branch is all that the counter would let pass from one
    below. -/
theorem exists_body_of_balance (lines : List ScannedLine) (count : Nat)
    (h : balance (count + 1) lines = some 0) :
    ∃ body closing rest, lines = body ++ closing :: rest ∧ balance count body = some 0 ∧
      ((closing.separates ∧ balance 1 rest = some 0) ∨
        (closing.closes ∧ balance 0 rest = some 0)) := by
  induction lines generalizing count with
  | nil => cases h
  | cons scanned rest ih =>
      rw [balance, Option.bind_eq_some_iff] at h
      rcases h with ⟨above, hnext, hrest⟩
      rcases hbelow : scanned.next count with _ | below
      · -- Only at zero does one more open chain let a line pass.
        rcases scanned.refused_cases count hbelow with ⟨fault, hreading⟩ | ⟨rfl, hsep | hclose⟩
        · rw [ScannedLine.next, hreading] at hnext
          cases hnext
        · rw [scanned.next_of_separates 0 hsep] at hnext
          cases hnext
          exact ⟨[], scanned, rest, rfl, rfl, .inl ⟨hsep, hrest⟩⟩
        · rw [scanned.next_of_closes 0 hclose] at hnext
          cases hnext
          exact ⟨[], scanned, rest, rfl, rfl, .inr ⟨hclose, hrest⟩⟩
      · -- A line that passes from one below belongs to the branch.
        have habove : above = below + 1 := by
          rw [scanned.next_add count below 1 hbelow, Option.some.injEq] at hnext
          exact hnext.symm
        rw [habove] at hrest
        rcases ih below hrest with ⟨body, closing, tail, rfl, hbody, hkind⟩
        refine ⟨scanned :: body, closing, tail, rfl, ?_, hkind⟩
        rw [balance, hbelow]
        exact hbody

end DirectiveStrip
