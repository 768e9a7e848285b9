import DirectiveStrip.Proofs.Resolve.Balance

/-!
# Walking over a Chain

Three walks read the lines behind an `#if`, each with its own count of the inner
chains it is in. All of them move by the same steps as the counter, so each is
described by the two things the counter can do. Lines that the counter passes
are passed over, whatever is in them. A line that it refuses is an error, or it
is a directive of the chain itself and the walk decides.

A walk that comes to an end has therefore counted from one to zero, which is how
success of the walks entails balanced lines.

The three walks differ in what they keep. They do not differ in where they end or in
what stops them, so `skipChain`, which looks at no guard and keeps nothing, speaks
for all of them.

## Main definitions

* `BranchBody.prepend`: More lines in front of a branch.
* `Selection.ofBody`: The selection of a branch that was collected.

## Theorems

* `skipChain_append`, `findBranch_append`, `collectBody_append`: Lines that the
  counter passes are passed over.
* `collectBody_balanced`, `takeBranch_closing`, `takeBranch_separator`: A balanced
  branch is collected as it is.
* `walked_of_skipChain`, `balance_of_chooseBranch`: A walk that ends has counted
  down.
* `rest_takeBranch`, `rest_findBranch`, `rest_chooseBranch`: The walks end where
  skipping ends, and fail where it fails.
-/

namespace DirectiveStrip

/-- A walk that moves by single steps as the counter does passes over whatever the
    counter passes. -/
theorem walk_append {γ : Type} (walk : Nat → List ScannedLine → γ)
    (hcons : ∀ nested nested' scanned rest, scanned.next nested = some nested' →
      walk nested (scanned :: rest) = walk nested' rest)
    (nested nested' : Nat) (lines rest : List ScannedLine)
    (h : balance nested lines = some nested') :
    walk nested (lines ++ rest) = walk nested' rest := by
  induction lines generalizing nested with
  | nil =>
      rw [balance, Option.some.injEq] at h
      rw [h, List.nil_append]
  | cons scanned lines ih =>
      rw [balance, Option.bind_eq_some_iff] at h
      rcases h with ⟨middle, hnext, hlines⟩
      rw [List.cons_append, hcons nested middle scanned _ hnext, ih middle hlines]

/-! ### Skipping the rest of a chain -/

section Skip

variable (opening : Line) (afterElse : Bool)

theorem skipChain_cons (nested nested' : Nat) (scanned : ScannedLine) (rest : List ScannedLine)
    (h : scanned.next nested = some nested') :
    (skipChain opening afterElse nested (scanned :: rest)).outcome =
      (skipChain opening afterElse nested' rest).outcome := by
  rw [skipChain, Trace.outcome_after]
  rcases scanned.passed_cases nested nested' h with
    ⟨hreading, rfl⟩ | ⟨guard, hreading, rfl⟩ | ⟨hne, hsep, rfl⟩ | ⟨hne, hclose, rfl⟩
  · rw [hreading]
  · rw [hreading]
  · rcases scanned.separates_cases hsep with ⟨guard, hreading⟩ | ⟨ignored, hreading⟩
    · simp only [hreading, if_neg hne]
    · simp only [hreading, if_neg hne]
  · rcases scanned.closes_cases hclose with ⟨ignored, hreading⟩
    simp only [hreading, if_neg hne]

theorem skipChain_append (nested nested' : Nat) (lines rest : List ScannedLine)
    (h : balance nested lines = some nested') :
    (skipChain opening afterElse nested (lines ++ rest)).outcome =
      (skipChain opening afterElse nested' rest).outcome :=
  walk_append (fun nested lines => (skipChain opening afterElse nested lines).outcome)
    (skipChain_cons opening afterElse) nested nested' lines rest h

theorem skipChain_separator (scanned : ScannedLine) (rest : List ScannedLine)
    (h : scanned.separates) :
    (skipChain opening afterElse 0 (scanned :: rest)).outcome =
      if afterElse then .error (scanned.line.error .unexpectedDirective)
      else (skipChain opening scanned.isElse 0 rest).outcome := by
  rw [skipChain, Trace.outcome_after, ScannedLine.isElse]
  rcases scanned.separates_cases h with ⟨guard, hreading⟩ | ⟨ignored, hreading⟩ <;>
    · simp only [hreading, if_true]
      split <;> rfl

theorem skipChain_closing (scanned : ScannedLine) (rest : List ScannedLine)
    (h : scanned.closes) :
    (skipChain opening afterElse 0 (scanned :: rest)).outcome = .ok rest := by
  rcases scanned.closes_cases h with ⟨ignored, hreading⟩
  rw [skipChain, Trace.outcome_after, hreading]
  rfl

/-- Skipping ends behind lines over which the counter has come down to zero. It is one
    above the walk, for the chain that is walked over. -/
theorem walked_of_skipChain (nested : Nat) (lines rest : List ScannedLine)
    (h : (skipChain opening afterElse nested lines).outcome = .ok rest) :
    ∃ walked, lines = walked ++ rest ∧ balance (nested + 1) walked = some 0 := by
  induction lines generalizing nested afterElse with
  | nil => cases h
  | cons scanned tail ih =>
      rcases hnext : scanned.next nested with _ | nested'
      · rcases scanned.refused_cases nested hnext with ⟨fault, hreading⟩ | ⟨rfl, hsep | hclose⟩
        · rw [skipChain, Trace.outcome_after, hreading] at h
          cases h
        · rw [skipChain_separator _ _ _ _ hsep] at h
          split at h
          · cases h
          · rcases ih _ 0 h with ⟨walked, rfl, hwalked⟩
            refine ⟨scanned :: walked, rfl, ?_⟩
            rw [balance, scanned.next_of_separates 0 hsep]
            exact hwalked
        · rw [skipChain_closing _ _ _ _ hclose] at h
          cases h
          refine ⟨[scanned], rfl, ?_⟩
          rw [balance, scanned.next_of_closes 0 hclose]
          rfl
      · -- A line of an inner chain moves both in the same way.
        rw [skipChain_cons _ _ _ _ _ _ hnext] at h
        rcases ih _ nested' h with ⟨walked, rfl, hwalked⟩
        refine ⟨scanned :: walked, rfl, ?_⟩
        rw [balance, scanned.next_add nested nested' 1 hnext]
        exact hwalked

end Skip

/-! ### Collecting a branch -/

/-- More lines in front of a branch. -/
def BranchBody.prepend (lines : List ScannedLine) (body : BranchBody) : BranchBody :=
  { body with
    lines := lines ++ body.lines
    opensChain := lines.any ScannedLine.opens || body.opensChain }

section Collect

variable (opening : Line)

theorem collectBody_cons (nested nested' : Nat) (scanned : ScannedLine)
    (rest : List ScannedLine) (h : scanned.next nested = some nested') :
    (collectBody opening nested (scanned :: rest)).outcome =
      (collectBody opening nested' rest).outcome.map (BranchBody.prepend [scanned]) := by
  rw [collectBody, Trace.outcome_after]
  -- In front of a branch goes one line, and an `#if` is remembered.
  have hprepend : BranchBody.prepend [scanned] = fun body : BranchBody =>
      { body.cons scanned with opensChain := scanned.opens || body.opensChain } := by
    funext body
    simp [BranchBody.prepend, BranchBody.cons]
  unfold ScannedLine.opens at hprepend
  rw [hprepend]
  rcases scanned.passed_cases nested nested' h with
    ⟨hreading, rfl⟩ | ⟨guard, hreading, rfl⟩ | ⟨hne, hsep, rfl⟩ | ⟨hne, hclose, rfl⟩
  · rw [hreading]
    rfl
  · rw [hreading]
    rfl
  · rcases scanned.separates_cases hsep with ⟨guard, hreading⟩ | ⟨ignored, hreading⟩ <;>
      · simp only [hreading, if_neg hne]
        rfl
  · rcases scanned.closes_cases hclose with ⟨ignored, hreading⟩
    simp only [hreading, if_neg hne]
    rfl

theorem collectBody_append (nested nested' : Nat) (lines rest : List ScannedLine)
    (h : balance nested lines = some nested') :
    (collectBody opening nested (lines ++ rest)).outcome =
      (collectBody opening nested' rest).outcome.map (BranchBody.prepend lines) := by
  induction lines generalizing nested with
  | nil =>
      rw [balance, Option.some.injEq] at h
      rw [h, List.nil_append]
      rcases (collectBody opening nested' rest).outcome with error | body <;> rfl
  | cons scanned lines ih =>
      rw [balance, Option.bind_eq_some_iff] at h
      rcases h with ⟨middle, hnext, hlines⟩
      rw [List.cons_append, collectBody_cons opening nested middle _ _ hnext, ih middle hlines]
      rcases (collectBody opening nested' rest).outcome with error | body
      · rfl
      · simp [Except.map, BranchBody.prepend, Bool.or_assoc]

theorem collectBody_closing (scanned : ScannedLine) (rest : List ScannedLine)
    (h : scanned.separates ∨ scanned.closes) :
    (collectBody opening 0 (scanned :: rest)).outcome = .ok ⟨[], false, scanned, rest⟩ := by
  rw [collectBody, Trace.outcome_after]
  rcases h with hsep | hclose
  · rcases scanned.separates_cases hsep with ⟨guard, hreading⟩ | ⟨ignored, hreading⟩ <;>
      · rw [hreading]
        rfl
  · rcases scanned.closes_cases hclose with ⟨ignored, hreading⟩
    rw [hreading]
    rfl

/-- A balanced branch is collected as it is. -/
theorem collectBody_balanced (lines : List ScannedLine) (hlines : Balanced lines)
    (closing : ScannedLine) (rest : List ScannedLine)
    (h : closing.separates ∨ closing.closes) :
    (collectBody opening 0 (lines ++ closing :: rest)).outcome =
      .ok ⟨lines, lines.any ScannedLine.opens, closing, rest⟩ := by
  rw [collectBody_append opening 0 0 lines _ ((balance_iff_balanced lines).mpr hlines),
    collectBody_closing opening closing rest h]
  simp [Except.map, BranchBody.prepend]

/-- The selection of a branch behind `head`, up to a line that ends it. -/
def Selection.ofBody (head : Line) (lines : List ScannedLine) (closing : ScannedLine)
    (rest : List ScannedLine) : Selection :=
  { branch? := some
      { start := head.stop, stop := closing.line.start, firstLine := head.number + 1
        lines, opensChain := lines.any ScannedLine.opens }
    rest }

theorem takeBranch_closing (head : Line) (afterElse : Bool) (lines : List ScannedLine)
    (hlines : Balanced lines) (closing : ScannedLine) (rest : List ScannedLine)
    (h : closing.closes) :
    (takeBranch opening head afterElse (lines ++ closing :: rest)).outcome =
      .ok (Selection.ofBody head lines closing rest) := by
  rw [takeBranch, Trace.outcome_bind_of_eq_ok _
    (collectBody_balanced opening lines hlines closing rest (.inr h))]
  rcases closing.closes_cases h with ⟨ignored, hreading⟩
  simp only [hreading]
  rfl

theorem takeBranch_separator (head : Line) (afterElse : Bool) (lines : List ScannedLine)
    (hlines : Balanced lines) (closing : ScannedLine) (rest : List ScannedLine)
    (h : closing.separates) :
    (takeBranch opening head afterElse (lines ++ closing :: rest)).outcome =
      if afterElse then .error (closing.line.error .unexpectedDirective)
      else ((skipChain opening closing.isElse 0 rest).map
        (Selection.ofBody head lines closing)).outcome := by
  rw [takeBranch, Trace.outcome_bind_of_eq_ok _
    (collectBody_balanced opening lines hlines closing rest (.inl h)), ScannedLine.isElse]
  rcases closing.separates_cases h with ⟨guard, hreading⟩ | ⟨ignored, hreading⟩ <;>
    · simp only [hreading]
      split <;> rfl

/-- A branch ends at a directive of its chain. -/
theorem closing_of_collectBody (nested : Nat) (lines : List ScannedLine) (body : BranchBody)
    (h : (collectBody opening nested lines).outcome = .ok body) :
    body.closing.separates ∨ body.closing.closes := by
  induction lines generalizing nested body with
  | nil => cases h
  | cons scanned tail ih =>
      rcases hnext : scanned.next nested with _ | nested'
      · rcases scanned.refused_cases nested hnext with ⟨fault, hreading⟩ | ⟨rfl, hkind⟩
        · rw [collectBody, Trace.outcome_after, hreading] at h
          cases h
        · rw [collectBody_closing _ _ _ hkind] at h
          cases h
          exact hkind
      · -- The line belongs to the branch, and the rest is collected behind it.
        rw [collectBody_cons _ _ _ _ _ hnext] at h
        rcases hinner : (collectBody opening nested' tail).outcome with error | inner
        · rw [hinner] at h
          cases h
        · rw [hinner] at h
          cases h
          exact ih nested' inner hinner

/-- Skipping a chain is collecting a branch and skipping on from the line that ends it. -/
theorem skipChain_of_collectBody (afterElse : Bool) (nested : Nat) (lines : List ScannedLine) :
    (skipChain opening afterElse nested lines).outcome =
      (collectBody opening nested lines).outcome.bind fun body =>
        (skipChain opening afterElse 0 (body.closing :: body.rest)).outcome := by
  induction lines generalizing nested with
  | nil => rfl
  | cons scanned rest ih =>
      rcases hnext : scanned.next nested with _ | nested'
      · rcases scanned.refused_cases nested hnext with ⟨fault, hreading⟩ | ⟨rfl, hkind⟩
        · rw [skipChain, collectBody, Trace.outcome_after, Trace.outcome_after, hreading]
          rfl
        · rw [collectBody_closing opening scanned rest hkind]
          rfl
      · rw [skipChain_cons _ _ _ _ _ _ hnext, ih, collectBody_cons _ _ _ _ _ hnext]
        rcases (collectBody opening nested' rest).outcome with error | body <;> rfl

/-- Taking a branch comes out where skipping does, in success and in failure. -/
theorem rest_takeBranch (head : Line) (afterElse : Bool) (lines : List ScannedLine) :
    (takeBranch opening head afterElse lines).outcome.map Selection.rest =
      (skipChain opening afterElse 0 lines).outcome := by
  rw [skipChain_of_collectBody, takeBranch, Trace.outcome_bind]
  rcases hbody : (collectBody opening 0 lines).outcome with error | body
  · rfl
  · simp only [Except.bind]
    rcases closing_of_collectBody opening 0 lines body hbody with hsep | hclose
    · rw [skipChain_separator _ _ _ _ hsep, ScannedLine.isElse]
      rcases body.closing.separates_cases hsep with ⟨guard, hreading⟩ | ⟨ignored, hreading⟩ <;>
        · simp only [hreading]
          split
          · rfl
          · rw [Trace.outcome_map]
            rcases (skipChain _ _ _ _).outcome with error | rest <;> rfl
    · rw [skipChain_closing _ _ _ _ hclose]
      rcases body.closing.closes_cases hclose with ⟨ignored, hreading⟩
      simp only [hreading]
      rfl

end Collect

/-! ### Finding a branch -/

section Find

variable (defined : Text → Bool) (opening : Line)

theorem findBranch_cons (nested nested' : Nat) (scanned : ScannedLine)
    (rest : List ScannedLine) (h : scanned.next nested = some nested') :
    (findBranch defined opening nested (scanned :: rest)).outcome =
      (findBranch defined opening nested' rest).outcome := by
  rw [findBranch, Trace.outcome_after]
  rcases scanned.passed_cases nested nested' h with
    ⟨hreading, rfl⟩ | ⟨guard, hreading, rfl⟩ | ⟨hne, hsep, rfl⟩ | ⟨hne, hclose, rfl⟩
  · rw [hreading]
  · rw [hreading]
  · rcases scanned.separates_cases hsep with ⟨guard, hreading⟩ | ⟨ignored, hreading⟩
    · simp only [hreading, if_neg hne]
    · simp only [hreading, if_neg hne]
  · rcases scanned.closes_cases hclose with ⟨ignored, hreading⟩
    simp only [hreading, if_neg hne]

theorem findBranch_append (nested nested' : Nat) (lines rest : List ScannedLine)
    (h : balance nested lines = some nested') :
    (findBranch defined opening nested (lines ++ rest)).outcome =
      (findBranch defined opening nested' rest).outcome :=
  walk_append (fun nested lines => (findBranch defined opening nested lines).outcome)
    (findBranch_cons defined opening) nested nested' lines rest h

/-- At a directive of the chain the search ends, or it goes on behind it. -/
theorem findBranch_separator (scanned : ScannedLine) (rest : List ScannedLine)
    (h : scanned.separates) :
    (findBranch defined opening 0 (scanned :: rest)).outcome =
      if scanned.holds defined || scanned.isElse then
        (takeBranch opening scanned.line scanned.isElse rest).outcome
      else (findBranch defined opening 0 rest).outcome := by
  rw [findBranch, Trace.outcome_after, ScannedLine.holds, ScannedLine.isElse]
  rcases scanned.separates_cases h with ⟨guard, hreading⟩ | ⟨ignored, hreading⟩
  · simp only [hreading, if_true, Trace.outcome_after, Bool.or_false, Guard.holds]
    split <;> rfl
  · simp only [hreading, if_true, Trace.outcome_after, Bool.or_true]

theorem findBranch_closing (scanned : ScannedLine) (rest : List ScannedLine)
    (h : scanned.closes) :
    (findBranch defined opening 0 (scanned :: rest)).outcome = .ok ⟨none, rest⟩ := by
  rcases scanned.closes_cases h with ⟨ignored, hreading⟩
  rw [findBranch, Trace.outcome_after, hreading]
  rfl

/-- So does looking for a branch, whatever the guards say. Up to the branch that is taken
    there was no `#else`. -/
theorem rest_findBranch (nested : Nat) (lines : List ScannedLine) :
    (findBranch defined opening nested lines).outcome.map Selection.rest =
      (skipChain opening false nested lines).outcome := by
  induction lines generalizing nested with
  | nil => rfl
  | cons scanned rest ih =>
      rcases hnext : scanned.next nested with _ | nested'
      · rcases scanned.refused_cases nested hnext with ⟨fault, hreading⟩ | ⟨rfl, hsep | hclose⟩
        · rw [findBranch, skipChain, Trace.outcome_after, Trace.outcome_after, hreading]
          rfl
        · rw [findBranch_separator _ _ _ _ hsep, skipChain_separator _ _ _ _ hsep]
          simp only [Bool.false_eq_true, if_false]
          by_cases htakes : scanned.holds defined || scanned.isElse
          · rw [if_pos htakes, rest_takeBranch]
          · -- A directive that is passed is no `#else`.
            have helse : scanned.isElse = false := by
              rw [Bool.not_eq_true, Bool.or_eq_false_iff] at htakes
              exact htakes.2
            rw [if_neg htakes, ih, helse]
        · rw [findBranch_closing _ _ _ _ hclose, skipChain_closing _ _ _ _ hclose]
          rfl
      · rw [findBranch_cons _ _ _ _ _ _ hnext, skipChain_cons _ _ _ _ _ _ hnext, ih]

/-- Where a chain ends, and what is wrong with it, does not depend on its guards. -/
theorem rest_chooseBranch (guard : Guard) (lines : List ScannedLine) :
    (chooseBranch defined opening guard lines).outcome.map Selection.rest =
      (skipChain opening false 0 lines).outcome := by
  rw [chooseBranch, Trace.outcome_after]
  split
  · exact rest_takeBranch opening opening false lines
  · exact rest_findBranch defined opening 0 lines

theorem balance_of_chooseBranch (guard : Guard) (lines : List ScannedLine)
    (selection : Selection)
    (h : (chooseBranch defined opening guard lines).outcome = .ok selection) :
    balance 1 lines = balance 0 selection.rest := by
  have hskip := rest_chooseBranch defined opening guard lines
  rw [h] at hskip
  rcases walked_of_skipChain opening false 0 lines _ hskip.symm with ⟨walked, rfl, hwalked⟩
  rw [balance_append, hwalked, Option.bind_some]

end Find

end DirectiveStrip
