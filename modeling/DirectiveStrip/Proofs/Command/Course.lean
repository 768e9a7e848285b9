import DirectiveStrip.Command.Run

/-!
# The Course of a Run

A run goes through its steps in a fixed order: the options are checked, the settings are
loaded, and then one of a few things is done. This module says once what has to have gone
well for each way a run can end, and what it has printed and written by then. What holds of
every run that succeeds can then be read off case by case, without another look at the steps.

There are two layers. Arguments that are no options never get to the steps, and a step that
fails ends the run.

## Main definitions

* `StripsTo`: What the input of a run is stripped to.
* `Course`: The ways in which the steps can all succeed.
* `Invocation.start`: What there is before the first step.

## Theorems

* `course_of_perform`: What has succeeded in a run that succeeds.
* `run_perform_of_explain`: A run that explains a guard.
* `run_of_parse_eq_ok`, `run_of_parse_eq_error`: The two layers.
* `Failure.exitCode_ne_zero`: No failure has the exit code of success.
-/

namespace DirectiveStrip

/-- To put an error in other words does not turn it into a success. -/
theorem Trace.outcome_rephrase_eq_ok {σ τ ε δ α : Type} {events : σ → List τ} {error : ε → δ}
    {trace : Trace σ ε α} {value : α} (h : (trace.rephrase events error).outcome = .ok value) :
    trace.outcome = .ok value := by
  rcases trace with ⟨_, _ | first⟩
  · cases h
  · cases h
    rfl

theorem eq_ok_of_mapError_eq_ok {ε δ α : Type} {error : ε → δ} {result : Except ε α} {value : α}
    (h : result.mapError error = .ok value) : result = .ok value := by
  cases result with
  | error => cases h
  | ok first => cases h; rfl

/-! ### What options ask for -/

/-- The input of a run is read and stripped. -/
structure StripsTo (invocation : Invocation) (plan : Plan) (input source output : Text) :
    Prop where
  read : readInput invocation.files invocation.standardInput input = .ok source
  strip : (strip plan.settings plan.defined source).outcome = .ok output

/-- The ways in which a run does what its options ask for, once the settings are loaded. -/
inductive Course (toolkit : Toolkit) (invocation : Invocation) (options : Options) (plan : Plan)
    (before : Effects) : Effects → Prop where
  | explains (expression : Text) (after : Effects) (hexplain : options.explain? = some expression)
      (hguard : (toolkit.explainGuard options plan expression).run before = .ok () after) :
      Course toolkit invocation options plan before after
  | previews (input : Text) (hexplain : options.explain? = none)
      (hinput : options.input? = some input) (hdryRun : options.dryRun = true) :
      Course toolkit invocation options plan before (before.note (dryRun options plan input))
  | checks (input source output log : Text) (hexplain : options.explain? = none)
      (hinput : options.input? = some input) (hdryRun : options.dryRun = false)
      (hstrips : StripsTo invocation plan input source output) (hcheck : options.check = true) :
      Course toolkit invocation options plan before (before.note log)
  | delivers (input source output log : Text) (after : Effects) (hexplain : options.explain? = none)
      (hinput : options.input? = some input) (hdryRun : options.dryRun = false)
      (hstrips : StripsTo invocation plan input source output) (hcheck : options.check = false)
      (hdeliver : (toolkit.deliver invocation options plan input output
        (byteSize source - byteSize output)).run (before.note log) = .ok () after) :
      Course toolkit invocation options plan before
        (after.note (summary invocation options plan input (byteSize source - byteSize output)))

/-- What there is before the first step. -/
def Invocation.start (invocation : Invocation) : Effects := { files := invocation.files }

section Perform

variable {toolkit : Toolkit} {invocation : Invocation} {options : Options} {plan : Plan}
  {before after : Effects}

open DirectiveStrip.Action

theorem course_of_stripInput {input : Text} (hfiles : before.files = invocation.files)
    (hexplain : options.explain? = none) (hinput : options.input? = some input)
    (hdryRun : options.dryRun = false)
    (h : (toolkit.stripInput invocation options plan input).run before = .ok () after) :
    Course toolkit invocation options plan before after := by
  rcases run_bind_eq_ok h with ⟨_, _, hget, hrest⟩
  cases hget
  rcases run_bind_eq_ok hrest with ⟨source, _, hread, hstripping⟩
  rcases run_ofExcept_eq_ok hread with ⟨hsource, rfl⟩
  rcases run_bind_eq_ok hstripping with ⟨output, _, hstrip, hending⟩
  rcases run_follow_eq_ok hstrip with ⟨houtput, rfl⟩
  rw [hfiles] at hsource
  have hstrips : StripsTo invocation plan input source output :=
    ⟨eq_ok_of_mapError_eq_ok hsource, Trace.outcome_rephrase_eq_ok houtput⟩
  by_cases hcheck : options.check
  · rw [if_pos hcheck] at hending
    rcases run_follow_eq_ok hending with ⟨-, rfl⟩
    rw [Effects.note_note]
    exact .checks input source output _ hexplain hinput hdryRun hstrips hcheck
  · rw [if_neg hcheck] at hending
    rcases run_bind_eq_ok hending with ⟨_, delivered, hdeliver, hnote⟩
    cases hnote
    exact .delivers input source output _ delivered hexplain hinput hdryRun hstrips
      (Bool.eq_false_iff.mpr hcheck) hdeliver

theorem course_of_perform
    (h : (toolkit.perform invocation options).run invocation.start = .ok () after) :
    validateOptions invocation.files options = .ok () ∧
      ∃ plan log, (toolkit.loadPlan invocation.files options).outcome = .ok plan ∧
        Course toolkit invocation options plan (invocation.start.note log) after := by
  rcases run_bind_eq_ok h with ⟨_, _, hget, hrest⟩
  cases hget
  rcases run_bind_eq_ok hrest with ⟨_, _, hcheck, hloading⟩
  rcases run_ofExcept_eq_ok hcheck with ⟨hvalid, rfl⟩
  rcases run_bind_eq_ok hloading with ⟨plan, _, hload, hwork⟩
  rcases run_follow_eq_ok hload with ⟨hplan, rfl⟩
  refine ⟨hvalid, plan, (toolkit.loadPlan invocation.files options).events.flatMap
    (toolkit.entry invocation options), hplan, ?_⟩
  rcases hexplain : options.explain? with _ | expression
  · rcases hinput : options.input? with _ | input
    · rw [hexplain, hinput] at hwork
      cases hwork
    · rw [hexplain, hinput] at hwork
      dsimp only at hwork
      by_cases hdryRun : options.dryRun
      · rw [if_pos hdryRun] at hwork
        cases hwork
        exact .previews input hexplain hinput hdryRun
      · rw [if_neg hdryRun] at hwork
        exact course_of_stripInput rfl hexplain hinput (Bool.eq_false_iff.mpr hdryRun) hwork
  · rw [hexplain] at hwork
    exact .explains expression after hexplain hwork

/-- With the settings loaded, all that is left to do is to explain the guard. -/
theorem run_perform_of_explain {expression : Text}
    (hvalid : validateOptions invocation.files options = .ok ())
    (hplan : (toolkit.loadPlan invocation.files options).outcome = .ok plan)
    (hexplain : options.explain? = some expression) :
    ∃ log, (toolkit.perform invocation options).run invocation.start =
      (toolkit.explainGuard options plan expression).run (invocation.start.note log) := by
  have hcheck : (Action.ofExcept (validateOptions invocation.files options)).run invocation.start =
      .ok () invocation.start := by
    rw [run_ofExcept, hvalid]
  have hload := run_follow (toolkit.entry invocation options)
    (toolkit.loadPlan invocation.files options) invocation.start
  rw [hplan] at hload
  refine ⟨(toolkit.loadPlan invocation.files options).events.flatMap
    (toolkit.entry invocation options), ?_⟩
  unfold Toolkit.perform
  rw [run_bind_of_eq_ok _ (EStateM.run_get _)]
  refine (run_bind_of_eq_ok _ hcheck).trans ((run_bind_of_eq_ok _ hload).trans ?_)
  rw [hexplain]

/-! ### Around the steps -/

theorem Failure.exitCode_ne_zero (failure : Failure) : failure.exitCode ≠ 0 := by
  cases failure <;> exact Nat.succ_ne_zero _

theorem execute_of_eq_ok
    (h : (toolkit.perform invocation options).run invocation.start = .ok () after) :
    toolkit.execute invocation options = { after with exitCode := 0 } := by
  unfold Invocation.start at h
  rw [Toolkit.execute, h]

theorem execute_of_eq_error {failure : Failure}
    (h : (toolkit.perform invocation options).run invocation.start = .error failure after) :
    toolkit.execute invocation options =
      { after.note (failureLine options failure) with exitCode := failure.exitCode } := by
  unfold Invocation.start at h
  rw [Toolkit.execute, h]

theorem run_of_parse_eq_ok (h : toolkit.parseArguments invocation.arguments = .ok options) :
    toolkit.run invocation = toolkit.execute invocation options := by
  rw [Toolkit.run, h]

/-- Arguments that are no options may ask for help. Nothing is done about anything else. -/
theorem run_of_parse_eq_error {interruption : Interruption}
    (h : toolkit.parseArguments invocation.arguments = .error interruption) :
    (toolkit.run invocation).files = invocation.files ∧
      ((toolkit.run invocation).exitCode ≠ 0 → (toolkit.run invocation).standardOutput = []) := by
  rw [Toolkit.run, h]
  cases interruption with
  | help | version => exact ⟨rfl, fun hexit => absurd rfl hexit⟩
  | usage error => exact ⟨rfl, fun _ => rfl⟩

end Perform

end DirectiveStrip
