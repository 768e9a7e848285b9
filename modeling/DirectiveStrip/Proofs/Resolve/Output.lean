import DirectiveStrip.Proofs.Resolve.Choice
import DirectiveStrip.Proofs.Resolve.Events

/-!
# Output

Of all that happens, only copying is output, and the walks over a chain copy
nothing. So the output of resolving comes from three places: a line outside every
chain, a branch without chains in it, and a branch that is resolved in turn.

The steps of `resolveLines` are put as equations, one for each thing that can
come next, so that proofs about resolving need not open it.

## Main definitions

* `Runs`: Resolving succeeds under a condition, and with this output.

## Theorems

* `output_chooseBranch`: Choosing a branch puts nothing out.
* `resolveLines_source`, `resolveLines_none`, `resolveLines_some`: The steps of
  resolving.
* `resolveLines_refused`, `resolveLines_error`: Where resolving ends.
* `Runs.bind`: One part after another.
-/

namespace DirectiveStrip

/-! ### The output of a part -/

namespace Resolution

variable {α β : Type}

theorem output_after (events : List Event) (resolution : Resolution α) :
    output (resolution.after events) = events.flatMap Event.output ++ output resolution :=
  view_after Event.output events resolution

theorem output_bind_of_eq_ok {resolution : Resolution α} {value : α}
    (next : α → Resolution β) (h : resolution.outcome = .ok value) :
    output (resolution.bind next) = output resolution ++ output (next value) := by
  rw [Trace.bind, h]
  exact output_after _ _

end Resolution

open Resolution

theorem Event.output_of_isChoosing (event : Event) (h : event.isChoosing) : event.output = [] := by
  cases event with
  | copied start text => cases h
  | _ => rfl

theorem output_notes (scanned : ScannedLine) : scanned.notes.flatMap Event.output = [] :=
  flatMap_notes Event.output
    (fun event hnote => event.output_of_isChoosing (event.isChoosing_of_isNote hnote)) scanned

/-- Nothing is put out while a branch is chosen. -/
theorem output_chooseBranch (defined : Text → Bool) (opening : Line) (guard : Guard)
    (lines : List ScannedLine) : output (chooseBranch defined opening guard lines) = [] :=
  view_eq_nil Event.output _ _ (only_chooseBranch defined opening guard lines)
    Event.output_of_isChoosing

/-! ### Steps of resolving -/

section Steps

variable (defined : Text → Bool) (limit depth : Nat) (scanned : ScannedLine)
  (lines : List ScannedLine)

theorem resolveLines_source (h : scanned.reading = .ok .source) :
    resolveLines defined limit depth (scanned :: lines) =
      .after scanned.notes (.after [.copied scanned.line.start scanned.line.text]
        (resolveLines defined limit depth lines)) := by
  rw [resolveLines, h]

/-- Outside of every chain resolving refuses what the counter refuses at zero. -/
theorem resolveLines_refused (h : scanned.next 0 = none) :
    resolveLines defined limit depth (scanned :: lines) =
      .after scanned.notes (.fail (scanned.line.error scanned.refusal)) := by
  rw [resolveLines, ScannedLine.refusal]
  rcases scanned.refused_cases 0 h with ⟨fault, hreading⟩ | ⟨-, hsep | hclose⟩
  · rw [hreading]
  · rcases scanned.separates_cases hsep with ⟨guard, hreading⟩ | ⟨ignored, hreading⟩ <;>
      rw [hreading]
  · rcases scanned.closes_cases hclose with ⟨ignored, hreading⟩
    rw [hreading]

variable (guard : Guard) (h : scanned.reading = .ok (.ifLine guard))

include h

/-- A chain whose branch cannot be chosen ends everything. -/
theorem resolveLines_error (error : DirectiveError)
    (hchoice : (chooseBranch defined scanned.line guard lines).outcome = .error error) :
    resolveLines defined limit depth (scanned :: lines) =
      .after scanned.notes
        ⟨(chooseBranch defined scanned.line guard lines).events, .error error⟩ := by
  rw [resolveLines]
  simp only [h]
  split
  · next _ herror =>
    rw [hchoice] at herror
    cases herror
    rfl
  · next hok =>
    rw [hchoice] at hok
    cases hok
  · next hok =>
    rw [hchoice] at hok
    cases hok

/-- A chain without a kept branch leaves nothing. -/
theorem resolveLines_none (rest : List ScannedLine)
    (hchoice : (chooseBranch defined scanned.line guard lines).outcome = .ok ⟨none, rest⟩) :
    resolveLines defined limit depth (scanned :: lines) =
      .after scanned.notes (.after (chooseBranch defined scanned.line guard lines).events
        (resolveLines defined limit depth rest)) := by
  rw [resolveLines]
  simp only [h]
  split
  · next _ herror =>
    rw [hchoice] at herror
    cases herror
  · next hok =>
    rw [hchoice] at hok
    cases hok
    rfl
  · next hok =>
    rw [hchoice] at hok
    cases hok

/-- A chain with a kept branch is replaced by it, resolved if a chain is in it. -/
theorem resolveLines_some (branch : Branch) (rest : List ScannedLine)
    (hchoice : (chooseBranch defined scanned.line guard lines).outcome =
      .ok ⟨some branch, rest⟩) :
    resolveLines defined limit depth (scanned :: lines) =
      .after scanned.notes (.after (chooseBranch defined scanned.line guard lines).events
        (.after [.keeping branch.start branch.stop scanned.line.number]
          (if branch.opensChain then
            if limit ≤ depth then .fail (scanned.line.error (.nestingTooDeep limit))
            else
              .after [.resolving (depth + 1) branch.start branch.stop branch.firstLine]
                ((resolveLines defined limit (depth + 1) branch.lines).bind fun () =>
                  resolveLines defined limit depth rest)
          else
            .after [.copied branch.start (branch.lines.flatMap (·.line.text))]
              (resolveLines defined limit depth rest)))) := by
  rw [resolveLines]
  simp only [h]
  split
  · next _ herror =>
    rw [hchoice] at herror
    cases herror
  · next hok =>
    rw [hchoice] at hok
    cases hok
  · next hok =>
    rw [hchoice] at hok
    cases hok
    rfl

end Steps

/-! ### Success and output together -/

/-- Success exactly under a condition, and with one output. -/
structure Runs (resolution : Resolution Unit) (condition : Prop) (text : Text) : Prop where
  succeeds_iff : resolution.outcome = .ok () ↔ condition
  output_eq : resolution.outcome = .ok () → output resolution = text

theorem Runs.after {resolution : Resolution Unit} {condition : Prop} {text : Text}
    (h : Runs resolution condition text) (events : List Event) :
    Runs (resolution.after events) condition (events.flatMap Event.output ++ text) := by
  refine ⟨h.succeeds_iff, ?_⟩
  intro hok
  rw [output_after, h.output_eq hok]

theorem Runs.congr {resolution : Resolution Unit} {condition condition' : Prop} {text : Text}
    (h : Runs resolution condition text) (hiff : condition ↔ condition') :
    Runs resolution condition' text :=
  ⟨h.succeeds_iff.trans hiff, h.output_eq⟩

theorem runs_error {resolution : Resolution Unit} (error : DirectiveError) (condition : Prop)
    (text : Text) (h : resolution.outcome = .error error) (hno : ¬ condition) :
    Runs resolution condition text := by
  refine ⟨⟨?_, fun hcondition => absurd hcondition hno⟩, ?_⟩
  · intro hok
    rw [h] at hok
    cases hok
  · intro hok
    rw [h] at hok
    cases hok

theorem Runs.bind {first second : Resolution Unit} {condition condition' : Prop}
    {text text' : Text} (hfirst : Runs first condition text)
    (hsecond : Runs second condition' text') :
    Runs (first.bind fun () => second) (condition ∧ condition') (text ++ text') := by
  rcases hout : first.outcome with error | _
  · -- The first part fails, so its condition does not hold, nor do both.
    have hno : ¬ condition := fun hcondition => by
      rw [hfirst.succeeds_iff.mpr hcondition] at hout
      cases hout
    have herror : (first.bind fun () => second).outcome = .error error := by
      rw [Trace.bind, hout]
    refine ⟨⟨?_, fun hboth => absurd hboth.1 hno⟩, ?_⟩
    · intro hok
      rw [herror] at hok
      cases hok
    · intro hok
      rw [herror] at hok
      cases hok
  · have hyes := hfirst.succeeds_iff.mp hout
    have hsame := Trace.outcome_bind_of_eq_ok (fun () => second) hout
    refine ⟨?_, ?_⟩
    · rw [hsame, hsecond.succeeds_iff]
      exact (and_iff_right hyes).symm
    · intro hok
      rw [hsame] at hok
      rw [output_bind_of_eq_ok _ hout, hfirst.output_eq hout, hsecond.output_eq hok]

end DirectiveStrip
