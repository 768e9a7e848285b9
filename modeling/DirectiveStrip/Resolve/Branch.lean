import DirectiveStrip.Resolve.Event

/-!
# Choosing a branch

The lines from an `#if` to its `#endif` form a chain, with `#elif` and `#else` between its branches.
At most one branch is kept: the first whose guard holds, or else the one after `#else`. This module
walks the lines of one chain. Chains inside the chain are passed over by counting, and what is
wrong with their structure goes unnoticed here.

Choosing reads every line of the chain up to its `#endif`, so a line that cannot be read is reported
even in a branch that is dropped. The walk over the chosen branch remembers whether a chain is
opened in it, because only then is there anything left to resolve.

## Main definitions

* `collectBody`: The lines up to the end of a branch.
* `skipChain`: The lines after the `#endif` of a chain, past its remaining branches.
* `takeBranch`: Collect a branch that was chosen and skip the rest of its chain.
* `findBranch`: Go on to the first later branch that is to be taken.
* `chooseBranch`: The branch of a chain that is kept, if any, and the lines after the chain.

## Theorems

* `length_chooseBranch`: Neither the branch nor what follows is longer than the lines walked.
-/

namespace DirectiveStrip

/-- What reading a line reports: trailing text that is ignored. -/
def ScannedLine.notes (scanned : ScannedLine) : List Event :=
  match scanned.reading with
  | .ok (.elseLine ignored) | .ok (.endifLine ignored) =>
    if ignored.isEmpty then [] else [.ignoredText scanned.line.number ignored]
  | _ => []

/-- The lines of a branch with the line that ends it and the lines behind that. -/
structure BranchBody where
  lines : List ScannedLine
  /-- An `#if` is among the lines. -/
  opensChain : Bool
  /-- The `#elif`, `#else` or `#endif` that ends the branch. -/
  closing : ScannedLine
  rest : List ScannedLine

/-- One more line in front of a branch. -/
def BranchBody.cons (scanned : ScannedLine) (body : BranchBody) : BranchBody :=
  { body with lines := scanned :: body.lines }

/-- The lines up to the first `#elif`, `#else` or `#endif` outside `nested` inner chains. The end of
    the lines is an error of the line that opened the chain. -/
def collectBody (opening : Line) (nested : Nat) : List ScannedLine → Resolution BranchBody
  | [] => .fail (opening.error .missingEndIf)
  | scanned :: rest =>
    .after scanned.notes <|
      match scanned.reading with
      | .error fault => .fail (scanned.line.error fault)
      | .ok .source => (collectBody opening nested rest).map (.cons scanned)
      | .ok (.ifLine _) =>
        (collectBody opening (nested + 1) rest).map fun body =>
          { body.cons scanned with opensChain := true }
      | .ok (.elifLine _) | .ok (.elseLine _) =>
        if nested = 0 then .done ⟨[], false, scanned, rest⟩
        else (collectBody opening nested rest).map (.cons scanned)
      | .ok (.endifLine _) =>
        if nested = 0 then .done ⟨[], false, scanned, rest⟩
        else (collectBody opening (nested - 1) rest).map (.cons scanned)

/-- The lines after the `#endif` that ends a chain, inside `nested` inner chains of it. After an
    `#else`, another branch of the chain is an error. -/
def skipChain (opening : Line) (afterElse : Bool) (nested : Nat) :
    List ScannedLine → Resolution (List ScannedLine)
  | [] => .fail (opening.error .missingEndIf)
  | scanned :: rest =>
    .after scanned.notes <|
      match scanned.reading with
      | .error fault => .fail (scanned.line.error fault)
      | .ok .source => skipChain opening afterElse nested rest
      | .ok (.ifLine _) => skipChain opening afterElse (nested + 1) rest
      | .ok (.elifLine _) =>
        if nested = 0 then
          if afterElse then .fail (scanned.line.error .unexpectedDirective)
          else skipChain opening false nested rest
        else skipChain opening afterElse nested rest
      | .ok (.elseLine _) =>
        if nested = 0 then
          if afterElse then .fail (scanned.line.error .unexpectedDirective)
          else skipChain opening true nested rest
        else skipChain opening afterElse nested rest
      | .ok (.endifLine _) =>
        if nested = 0 then .done rest else skipChain opening afterElse (nested - 1) rest

/-- A branch that is kept. -/
structure Branch where
  /-- Byte offset of its first line. -/
  start : Nat
  /-- Byte offset just past its last line. -/
  stop : Nat
  /-- The number of its first line. -/
  firstLine : Nat
  lines : List ScannedLine
  /-- An `#if` is among the lines. -/
  opensChain : Bool

/-- The outcome of a chain: the branch that is kept, if any, and the lines after the `#endif`. -/
structure Selection where
  branch? : Option Branch
  rest : List ScannedLine

/-- Keep the branch that follows the directive line `head`, and pass over the rest of its chain.
    `afterElse` tells whether the directive is an `#else`. -/
def takeBranch (opening head : Line) (afterElse : Bool) (lines : List ScannedLine) :
    Resolution Selection :=
  (collectBody opening 0 lines).bind fun body =>
    let selection (rest : List ScannedLine) : Selection :=
      { branch? := some
          { start := head.stop, stop := body.closing.line.start, firstLine := head.number + 1
            lines := body.lines, opensChain := body.opensChain }
        rest }
    match body.closing.reading with
    | .ok (.elifLine _) =>
      if afterElse then .fail (body.closing.line.error .unexpectedDirective)
      else (skipChain opening false 0 body.rest).map selection
    | .ok (.elseLine _) =>
      if afterElse then .fail (body.closing.line.error .unexpectedDirective)
      else (skipChain opening true 0 body.rest).map selection
    | _ => .done (selection body.rest)

/-- After a guard that does not hold: go on, inside `nested` inner chains, to the first `#elif`
    whose guard holds or to the `#else`, and keep that branch. -/
def findBranch (defined : Text → Bool) (opening : Line) (nested : Nat) :
    List ScannedLine → Resolution Selection
  | [] => .fail (opening.error .missingEndIf)
  | scanned :: rest =>
    .after scanned.notes <|
      match scanned.reading with
      | .error fault => .fail (scanned.line.error fault)
      | .ok .source => findBranch defined opening nested rest
      | .ok (.ifLine _) => findBranch defined opening (nested + 1) rest
      | .ok (.elifLine guard) =>
        if nested = 0 then
          let evaluation := guard.evaluate defined
          .after [.evaluated .elifDirective scanned.line.number guard evaluation] <|
            if evaluation.value then takeBranch opening scanned.line false rest
            else findBranch defined opening nested rest
        else findBranch defined opening nested rest
      | .ok (.elseLine _) =>
        if nested = 0 then
          .after [.elseTaken scanned.line.number] (takeBranch opening scanned.line true rest)
        else findBranch defined opening nested rest
      | .ok (.endifLine _) =>
        if nested = 0 then
          .after [.noBranchTaken scanned.line.number opening.number] (.done ⟨none, rest⟩)
        else findBranch defined opening (nested - 1) rest

/-- Choose the branch of the chain that `opening` opens with this guard. -/
def chooseBranch (defined : Text → Bool) (opening : Line) (guard : Guard)
    (lines : List ScannedLine) : Resolution Selection :=
  let evaluation := guard.evaluate defined
  .after [.evaluated .ifDirective opening.number guard evaluation] <|
    if evaluation.value then takeBranch opening opening false lines
    else findBranch defined opening 0 lines

/-! ### Nothing gets longer -/

/-- The line that ends a branch belongs to neither part. -/
theorem length_collectBody {opening : Line} {nested : Nat} {lines : List ScannedLine}
    {body : BranchBody} (h : (collectBody opening nested lines).outcome = .ok body) :
    body.lines.length + body.rest.length < lines.length := by
  induction lines generalizing nested body with
  | nil => cases h
  | cons scanned rest ih =>
    have hcons {n : Nat} {f : BranchBody → BranchBody}
        (hb : ((collectBody opening n rest).map f).outcome = .ok body)
        (hf : ∀ b, (f b).lines = scanned :: b.lines ∧ (f b).rest = b.rest) :
        body.lines.length + body.rest.length < (scanned :: rest).length := by
      obtain ⟨inner, hinner, rfl⟩ := Trace.outcome_map_eq_ok hb
      have := ih hinner
      simp only [(hf inner).1, (hf inner).2, List.length_cons]
      omega
    have hplain {n : Nat}
        (hb : ((collectBody opening n rest).map (.cons scanned)).outcome = .ok body) :=
      hcons hb fun _ => ⟨rfl, rfl⟩
    have hstop
        (hb : (Trace.done ⟨[], false, scanned, rest⟩ : Resolution BranchBody).outcome = .ok body) :
        body.lines.length + body.rest.length < (scanned :: rest).length := by
      cases hb
      simp
    rw [collectBody, Trace.outcome_after] at h
    split at h
    · cases h
    · exact hplain h
    · exact hcons h fun _ => ⟨rfl, rfl⟩
    · split at h
      · exact hstop h
      · exact hplain h
    · split at h
      · exact hstop h
      · exact hplain h
    · split at h
      · exact hstop h
      · exact hplain h

theorem length_skipChain {opening : Line} {afterElse : Bool} {nested : Nat}
    {lines rest : List ScannedLine}
    (h : (skipChain opening afterElse nested lines).outcome = .ok rest) :
    rest.length < lines.length := by
  induction lines generalizing nested afterElse with
  | nil => cases h
  | cons scanned tail ih =>
    have hstep {e : Bool} {n : Nat} (hs : (skipChain opening e n tail).outcome = .ok rest) :
        rest.length < (scanned :: tail).length :=
      Nat.lt_succ_of_lt (ih hs)
    rw [skipChain, Trace.outcome_after] at h
    split at h
    · cases h
    · exact hstep h
    · exact hstep h
    · split at h
      · split at h
        · cases h
        · exact hstep h
      · exact hstep h
    · split at h
      · split at h
        · cases h
        · exact hstep h
      · exact hstep h
    · split at h
      · cases h
        simp
      · exact hstep h

/-- Neither the chosen branch nor what follows the chain exceeds the lines walked. -/
def Selection.Within (selection : Selection) (size : Nat) : Prop :=
  selection.rest.length ≤ size ∧ ∀ branch ∈ selection.branch?, branch.lines.length ≤ size

theorem length_takeBranch {opening head : Line} {afterElse : Bool} {lines : List ScannedLine}
    {selection : Selection}
    (h : (takeBranch opening head afterElse lines).outcome = .ok selection) :
    selection.Within lines.length := by
  obtain ⟨body, hbody, h⟩ := Trace.outcome_bind_eq_ok h
  have hsize := length_collectBody hbody
  have hskip {e : Bool} {f : List ScannedLine → Selection}
      (hs : ((skipChain opening e 0 body.rest).map f).outcome = .ok selection)
      (hf : ∀ rest, (f rest).rest = rest ∧
        ∀ branch ∈ (f rest).branch?, branch.lines = body.lines) :
      selection.Within lines.length := by
    obtain ⟨rest, hrest, rfl⟩ := Trace.outcome_map_eq_ok hs
    have := length_skipChain hrest
    refine ⟨by rw [(hf rest).1]; omega, fun branch hb => ?_⟩
    rw [(hf rest).2 branch hb]
    omega
  dsimp only at h
  split at h
  · split at h
    · cases h
    · exact hskip h fun rest => ⟨rfl, by simp⟩
  · split at h
    · cases h
    · exact hskip h fun rest => ⟨rfl, by simp⟩
  · cases h
    exact ⟨by dsimp only; omega, by simp; omega⟩

theorem Selection.Within.succ {selection : Selection} {size : Nat} (h : selection.Within size) :
    selection.Within (size + 1) :=
  ⟨Nat.le_succ_of_le h.1, fun branch hb => Nat.le_succ_of_le (h.2 branch hb)⟩

theorem length_findBranch {defined : Text → Bool} {opening : Line} {nested : Nat}
    {lines : List ScannedLine} {selection : Selection}
    (h : (findBranch defined opening nested lines).outcome = .ok selection) :
    selection.Within lines.length := by
  induction lines generalizing nested with
  | nil => cases h
  | cons scanned rest ih =>
    have hstep {n : Nat} (hs : (findBranch defined opening n rest).outcome = .ok selection) :
        selection.Within (scanned :: rest).length := (ih hs).succ
    rw [findBranch, Trace.outcome_after] at h
    split at h
    · cases h
    · exact hstep h
    · exact hstep h
    · split at h
      · rw [Trace.outcome_after] at h
        split at h
        · exact (length_takeBranch h).succ
        · exact hstep h
      · exact hstep h
    · split at h
      · exact (length_takeBranch h).succ
      · exact hstep h
    · split at h
      · cases h
        exact ⟨by simp, by simp⟩
      · exact hstep h

theorem length_chooseBranch {defined : Text → Bool} {opening : Line} {guard : Guard}
    {lines : List ScannedLine} {selection : Selection}
    (h : (chooseBranch defined opening guard lines).outcome = .ok selection) :
    selection.Within lines.length := by
  rw [chooseBranch, Trace.outcome_after] at h
  split at h
  · exact length_takeBranch h
  · exact length_findBranch h

end DirectiveStrip
