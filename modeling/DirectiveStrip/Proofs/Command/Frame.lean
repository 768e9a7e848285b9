import DirectiveStrip.Proofs.Command.Course

/-!
# What a Run Leaves Alone

A failure does not take back what was printed or written before it. That a run which fails
has printed nothing and left every file as it was is therefore a matter of order: whatever
may fail has to come before anything is printed or written, and what comes behind must not
fail any more. `LeavesAlone` is said of steps that may come first, `FailsClean` of those
that may come last, and the steps of a run are put together in this way
(`failsClean_perform`).

A run writes to one file at most, and a run that does has written the whole output to the
file that was named for it. That file is not the one the input was read from. Options that
name one file twice are refused, but that is only found out of files that are there. It is
enough: what was read is there, so the input is a file, and an output file that is not there
is another one.

## Main definitions

* `Effects.Undisturbed`: Nothing was printed and no file was written.
* `Action.LeavesAlone`: An action that does neither.
* `Action.FailsClean`: An action that has done neither if it fails.
* `FileSystem.Wrote`: Two file systems that differ in one file that was written.
* `IsOutputFile`: The file that options name for the output.

## Theorems

* `Action.failsClean_bind`, `Action.failsClean_bind_of_succeeds`: The two ways to put actions
  together.
* `failsClean_perform`: A run that fails has printed nothing and left every file alone.
* `FileSystem.wrote_of_write`: Writing a file changes nothing else.
* `isOutputFile_of_write`: The file written is not the input.
* `course_files`: What each way to succeed does to the files.
* `runCommand_frame`: What any run does to the files.
-/

namespace DirectiveStrip

/-! ### Actions that fail -/

/-- Files and standard output are as they were. -/
structure Effects.Undisturbed (before after : Effects) : Prop where
  files : after.files = before.files
  standardOutput : after.standardOutput = before.standardOutput

theorem Effects.Undisturbed.trans {before middle after : Effects}
    (h : before.Undisturbed middle) (h' : middle.Undisturbed after) : before.Undisturbed after :=
  ⟨h'.files.trans h.files, h'.standardOutput.trans h.standardOutput⟩

namespace Action

variable {α β : Type} {first : Action α} {next : α → Action β}

/-- However the action ends, it has printed nothing and written nothing. -/
structure LeavesAlone (action : Action α) : Prop where
  of_ok : ∀ before value after, action.run before = .ok value after → before.Undisturbed after
  of_error : ∀ before failure after,
    action.run before = .error failure after → before.Undisturbed after

/-- If the action fails, it has printed nothing and written nothing. -/
def FailsClean (action : Action α) : Prop :=
  ∀ before failure after, action.run before = .error failure after → before.Undisturbed after

/-- The action does not fail. -/
def Succeeds (action : Action α) : Prop :=
  ∀ before, ∃ value after, action.run before = .ok value after

theorem leavesAlone_get : LeavesAlone (get : Action Effects) where
  of_ok before value after h := by
    cases h
    exact ⟨rfl, rfl⟩
  of_error before failure after h := by cases h

theorem leavesAlone_ofExcept (result : Except Failure α) : LeavesAlone (ofExcept result) where
  of_ok before value after h := by
    rcases run_ofExcept_eq_ok h with ⟨-, rfl⟩
    exact ⟨rfl, rfl⟩
  of_error before failure after h := by
    rw [run_ofExcept] at h
    cases result with
    | ok value => cases h
    | error failure => cases h; exact ⟨rfl, rfl⟩

theorem leavesAlone_note (text : Text) : LeavesAlone (note text) where
  of_ok before value after h := by
    cases h
    exact ⟨rfl, rfl⟩
  of_error before failure after h := by cases h

theorem leavesAlone_bind (hfirst : LeavesAlone first) (hnext : ∀ a, LeavesAlone (next a)) :
    LeavesAlone (first >>= next) where
  of_ok before value after h := by
    rcases run_bind_eq_ok h with ⟨a, middle, hok, hrest⟩
    exact (hfirst.of_ok _ _ _ hok).trans ((hnext a).of_ok _ _ _ hrest)
  of_error before failure after h := by
    rcases run_bind_eq_error h with herror | ⟨a, middle, hok, hrest⟩
    · exact hfirst.of_error _ _ _ herror
    · exact (hfirst.of_ok _ _ _ hok).trans ((hnext a).of_error _ _ _ hrest)

theorem leavesAlone_follow (log : LogRecord → Text) (trace : Trace LogRecord Failure α) :
    LeavesAlone (follow log trace) :=
  leavesAlone_bind (leavesAlone_note _) fun _ => leavesAlone_ofExcept _

/-- Actions that print and write nothing may come first. -/
theorem failsClean_bind (hfirst : LeavesAlone first) (hnext : ∀ a, FailsClean (next a)) :
    FailsClean (first >>= next) := by
  intro before failure after h
  rcases run_bind_eq_error h with herror | ⟨a, middle, hok, hrest⟩
  · exact hfirst.of_error _ _ _ herror
  · exact (hfirst.of_ok _ _ _ hok).trans (hnext a _ _ _ hrest)

/-- Actions that cannot fail may come last. -/
theorem failsClean_bind_of_succeeds (hfirst : FailsClean first)
    (hnext : ∀ a, Succeeds (next a)) : FailsClean (first >>= next) := by
  intro before failure after h
  rcases run_bind_eq_error h with herror | ⟨a, middle, -, hrest⟩
  · exact hfirst _ _ _ herror
  · rcases hnext a middle with ⟨value, _, hsucceeds⟩
    rw [hsucceeds] at hrest
    cases hrest

theorem LeavesAlone.failsClean {action : Action α} (h : LeavesAlone action) : FailsClean action :=
  h.of_error

theorem Succeeds.failsClean {action : Action α} (h : Succeeds action) : FailsClean action := by
  intro before failure after herror
  rcases h before with ⟨value, _, hok⟩
  rw [hok] at herror
  cases herror

theorem succeeds_print (text : Text) : Succeeds (print text) :=
  fun before => ⟨(), before.print text, rfl⟩

theorem succeeds_note (text : Text) : Succeeds (note text) :=
  fun before => ⟨(), before.note text, rfl⟩

theorem failsClean_throw (failure : Failure) : FailsClean (throw failure : Action α) := by
  intro before _ after h
  cases h
  exact ⟨rfl, rfl⟩

theorem failsClean_writeFile (path : Text) (content : ByteArray) :
    FailsClean (writeFile path content) := by
  intro before failure after h
  rw [run_writeFile] at h
  split at h
  · cases h
  · cases h
    exact ⟨rfl, rfl⟩

end Action

section FailsClean

variable (toolkit : Toolkit) (invocation : Invocation) (options : Options) (plan : Plan)

open DirectiveStrip.Action

/-- A guard is refused before anything is shown of it. -/
theorem failsClean_explainGuard (expression : Text) :
    FailsClean (toolkit.explainGuard options plan expression) := by
  unfold Toolkit.explainGuard
  rcases Guard.parse defaultNestingLimit expression with error | guard
  · exact failsClean_throw _
  · dsimp only
    split
    · exact (succeeds_print _).failsClean
    · split
      · exact (succeeds_print _).failsClean
      · exact failsClean_bind_of_succeeds (succeeds_print _).failsClean fun _ => succeeds_print _

/-- The result goes to one place only, so that nothing is left behind if it cannot go there. -/
theorem failsClean_deliver (input output : Text) (removed : Nat) :
    FailsClean (toolkit.deliver invocation options plan input output removed) := by
  unfold Toolkit.deliver
  split
  · exact (succeeds_print _).failsClean
  · split
    · exact (succeeds_print _).failsClean
    · split
      · exact (succeeds_print _).failsClean
      · exact failsClean_writeFile _ _

theorem failsClean_stripInput (input : Text) :
    FailsClean (toolkit.stripInput invocation options plan input) := by
  -- To read and to strip comes first, and behind the delivery there is only the summary.
  refine failsClean_bind leavesAlone_get fun _ => failsClean_bind (leavesAlone_ofExcept _) fun _ =>
    failsClean_bind (leavesAlone_follow _ _) fun _ => ?_
  split
  · exact (leavesAlone_follow _ _).failsClean
  · exact failsClean_bind_of_succeeds (failsClean_deliver _ _ _ _ _ _ _) fun _ => succeeds_note _

/-- A run that fails has printed nothing and left every file alone. -/
theorem failsClean_perform : FailsClean (toolkit.perform invocation options) := by
  -- The options are checked and the settings are loaded before anything else is done.
  refine failsClean_bind leavesAlone_get fun _ => failsClean_bind (leavesAlone_ofExcept _) fun _ =>
    failsClean_bind (leavesAlone_follow _ _) fun plan => ?_
  split
  · exact failsClean_explainGuard _ _ _ _
  · exact failsClean_throw _
  · split
    · exact (succeeds_note _).failsClean
    · exact failsClean_stripInput _ _ _ _ _

end FailsClean

/-! ### Files -/

/-- Of two steps, one after the other, both have to succeed. -/
theorem exists_of_bind_eq_ok {ε α β : Type} {first : Except ε α} {next : α → Except ε β} {value : β}
    (h : first >>= next = .ok value) : ∃ a, first = .ok a ∧ next a = .ok value := by
  rcases first with error | a
  · cases h
  · exact ⟨a, rfl, h⟩

namespace FileSystem

/-- The second file system is the first one with a file written, and with no other change. -/
structure Wrote (path : Path) (content : ByteArray) (before after : FileSystem) : Prop where
  written : after.lookup? path = some (.file content)
  others : ∀ other, other ≠ path → after.lookup? other = before.lookup? other
  workingDirectory : after.workingDirectory = before.workingDirectory

theorem wrote_insert (path : Path) (content : ByteArray) (files : FileSystem) :
    Wrote path content files (files.insert path (.file content)) :=
  ⟨files.lookup?_insert_self path _, fun _ h => files.lookup?_insert_of_ne _ h, rfl⟩

variable (files : FileSystem) (text : Text)

/-- What can be opened for writing is where its path leads, and it is no directory. -/
theorem locate_of_locateForWriting (path : Path) (h : files.locateForWriting text = .ok path) :
    files.locate text = .ok path ∧ files.lookup? path ≠ some .directory := by
  unfold locateForWriting at h
  rcases exists_of_bind_eq_ok h with ⟨_, -, h⟩
  dsimp only at h
  split at h
  · rcases exists_of_bind_eq_ok h with ⟨_, -, h⟩
    cases h
  · rcases exists_of_bind_eq_ok h with ⟨target, hwalk, h⟩
    split at h
    · cases h
    · next hfile =>
        cases h
        exact ⟨hwalk, hfile⟩

theorem wrote_of_write (content : ByteArray) (after : FileSystem)
    (h : files.write text content = .ok after) :
    ∃ path, files.locate text = .ok path ∧ files.lookup? path ≠ some .directory ∧
      Wrote path content files after := by
  unfold write at h
  rcases exists_of_bind_eq_ok h with ⟨path, hpath, h⟩
  cases h
  rcases files.locate_of_locateForWriting text path hpath with ⟨hlocate, hfile⟩
  exact ⟨path, hlocate, hfile, wrote_insert path content files⟩

/-- What was read is a file. -/
theorem exists_file_of_readText (content : Text) (h : files.readText text = .ok content) :
    ∃ path bytes, files.locate text = .ok path ∧ files.lookup? path = some (.file bytes) := by
  unfold readText at h
  rcases exists_of_bind_eq_ok h with ⟨bytes, hread, -⟩
  unfold read at hread
  rcases exists_of_bind_eq_ok hread with ⟨_, -, hread⟩
  rcases exists_of_bind_eq_ok hread with ⟨path, hlocate, hread⟩
  split at hread
  · cases hread
  · cases hread
  · next content hlookup => exact ⟨path, content, hlocate, hlookup⟩

theorem resolve?_of_lookup? (path : Path) (hlocate : files.locate text = .ok path)
    (h : (files.lookup? path).isSome) : files.resolve? text = some path := by
  unfold resolve?
  rw [hlocate]
  exact if_pos h

end FileSystem

/-! ### The output file -/

/-- The file that options name for the output. A standard stream is not one, and neither is
    the file that is named for the input. -/
structure IsOutputFile (files : FileSystem) (options : Options) (path : Path) : Prop where
  named : ∃ target, options.output? = some target ∧ isStandardStream target = false ∧
    files.locate target = .ok path
  apart : ∀ input, options.input? = some input → isStandardStream input = false →
    files.locate input ≠ .ok path

/-- Options that are valid do not name the file that was read as the one to be written. -/
theorem isOutputFile_of_write (invocation : Invocation) (options : Options) (input : Text)
    (source target : Text) (path : Path)
    (hvalid : validateOptions invocation.files options = .ok ())
    (hinput : options.input? = some input)
    (hread : readInput invocation.files invocation.standardInput input = .ok source)
    (houtput : options.output? = some target) (hstream : isStandardStream target = false)
    (hlocate : invocation.files.locate target = .ok path) :
    IsOutputFile invocation.files options path := by
  refine ⟨⟨target, houtput, hstream, hlocate⟩, ?_⟩
  intro other hother hfile hsame
  rw [hinput, Option.some.injEq] at hother
  rw [← hother] at hfile hsame
  rw [readInput, if_neg (by simp [hfile])] at hread
  rcases invocation.files.exists_file_of_readText input source hread with
    ⟨read, bytes, hread, hlookup⟩
  rw [hsame, Except.ok.injEq] at hread
  rw [← hread] at hlookup
  -- Both paths then lead to something, and to the same.
  have hfound : (invocation.files.lookup? path).isSome := by rw [hlookup]; rfl
  have hshared : sharedFile? invocation.files options = some path := by
    unfold sharedFile?
    rw [hinput, houtput]
    dsimp only
    rw [hfile, hstream, invocation.files.resolve?_of_lookup? input path hsame hfound,
      invocation.files.resolve?_of_lookup? target path hlocate hfound]
    simp
  rw [validateOptions, hshared] at hvalid
  cases hvalid

/-! ### Runs -/

section Course

variable {toolkit : Toolkit} {invocation : Invocation} {options : Options} {plan : Plan}
  {before after : Effects}

/-- Of all the places for a result only an output file is a file. -/
theorem files_of_deliver {input output : Text} {removed : Nat}
    (h : (toolkit.deliver invocation options plan input output removed).run before =
      .ok () after) :
    after.files = before.files ∨
      ∃ target, options.output? = some target ∧ isStandardStream target = false ∧
        before.files.write target (encodeText output) = .ok after.files := by
  unfold Toolkit.deliver at h
  by_cases hjson : options.json
  · rw [if_pos hjson] at h
    cases h
    exact .inl rfl
  · rw [if_neg hjson] at h
    rcases houtput : options.output? with _ | target
    · rw [houtput] at h
      cases h
      exact .inl rfl
    · rw [houtput] at h
      dsimp only at h
      by_cases hstream : isStandardStream target
      · rw [if_pos hstream] at h
        cases h
        exact .inl rfl
      · rw [if_neg hstream, Action.run_writeFile] at h
        rcases hwrite : before.files.write target (encodeText output) with error | files
        · rw [hwrite] at h
          cases h
        · rw [hwrite] at h
          cases h
          exact .inr ⟨target, rfl, Bool.eq_false_iff.mpr hstream, hwrite⟩

/-- A guard is explained without looking at a file. -/
theorem files_of_explainGuard {expression : Text}
    (h : (toolkit.explainGuard options plan expression).run before = .ok () after) :
    after.files = before.files := by
  unfold Toolkit.explainGuard at h
  split at h
  · cases h
  · dsimp only at h
    split at h
    · cases h
      rfl
    · split at h
      · cases h
        rfl
      · cases h
        rfl

/-- A file was written with what the input was stripped to, and it was not the input. -/
structure WritesOutput (toolkit : Toolkit) (invocation : Invocation) (options : Options)
    (after : FileSystem) (plan : Plan) (input source output : Text) (path : Path) : Prop where
  loads : (toolkit.loadPlan invocation.files options).outcome = .ok plan
  reads : options.input? = some input
  strips : StripsTo invocation plan input source output
  outputFile : IsOutputFile invocation.files options path
  file : invocation.files.lookup? path ≠ some .directory
  wrote : FileSystem.Wrote path (encodeText output) invocation.files after

/-- A run writes a file only if it is neither to check nor to preview nor to explain. -/
theorem course_files (hfiles : before.files = invocation.files)
    (hvalid : validateOptions invocation.files options = .ok ())
    (hplan : (toolkit.loadPlan invocation.files options).outcome = .ok plan)
    (h : Course toolkit invocation options plan before after) :
    after.files = invocation.files ∨
      (options.check = false ∧ options.dryRun = false ∧ options.explain? = none ∧
        ∃ input source output path,
          WritesOutput toolkit invocation options after.files plan input source output path) := by
  cases h with
  | explains expression _ _ hguard => exact .inl ((files_of_explainGuard hguard).trans hfiles)
  | previews | checks => exact .inl hfiles
  | delivers input source output log delivered hexplain hinput hdryRun hstrips hcheck hdeliver =>
      have hdelivered := files_of_deliver hdeliver
      rw [Effects.files_note, hfiles] at hdelivered
      rcases hdelivered with hsame | ⟨target, houtput, hstream, hwrite⟩
      · exact .inl hsame
      · rcases invocation.files.wrote_of_write target _ _ hwrite with ⟨path, hlocate, hfile, hwrote⟩
        have hpath := isOutputFile_of_write invocation options input source target path hvalid
          hinput hstrips.read houtput hstream hlocate
        exact .inr ⟨hcheck, hdryRun, hexplain, input, source, output, path, hplan, hinput, hstrips,
          hpath, hfile, hwrote⟩

end Course

/-- A run that fails prints nothing and leaves every file alone, and so does a run that is
    only to check, to preview or to explain. Any other run may write the output file, with
    what the input was stripped to, and leaves every other file alone. -/
theorem runCommand_frame (toolkit : Toolkit) (invocation : Invocation) :
    ((toolkit.run invocation).exitCode ≠ 0 →
      (toolkit.run invocation).standardOutput = [] ∧
        (toolkit.run invocation).files = invocation.files) ∧
    (∀ options, toolkit.parseArguments invocation.arguments = .ok options →
      options.check = true ∨ options.dryRun = true ∨ options.explain?.isSome →
        (toolkit.run invocation).files = invocation.files) ∧
    ((toolkit.run invocation).files = invocation.files ∨
      ∃ options plan input source output path,
        toolkit.parseArguments invocation.arguments = .ok options ∧
          WritesOutput toolkit invocation options (toolkit.run invocation).files plan input source
            output path) := by
  rcases hparse : toolkit.parseArguments invocation.arguments with interruption | options
  · rcases run_of_parse_eq_error hparse with ⟨hfiles, hexit⟩
    exact ⟨fun hne => ⟨hexit hne, hfiles⟩, fun _ _ _ => hfiles, .inl hfiles⟩
  · rw [run_of_parse_eq_ok hparse]
    rcases hperform : (toolkit.perform invocation options).run invocation.start with
      ⟨_, after⟩ | ⟨failure, after⟩
    · rw [execute_of_eq_ok hperform]
      rcases course_of_perform hperform with ⟨hvalid, plan, log, hplan, hcourse⟩
      have hfiles := course_files rfl hvalid hplan hcourse
      refine ⟨fun hne => absurd rfl hne, ?_, ?_⟩
      · intro other hother hmode
        cases hother
        rcases hfiles with hsame | ⟨hcheck, hdryRun, hexplain, -⟩
        · exact hsame
        · simp [hcheck, hdryRun, hexplain] at hmode
      · rcases hfiles with hsame | ⟨-, -, -, input, source, output, path, hwrites⟩
        · exact .inl hsame
        · exact .inr ⟨options, plan, input, source, output, path, rfl, hwrites⟩
    · rw [execute_of_eq_error hperform]
      have hclean := failsClean_perform toolkit invocation options _ _ _ hperform
      exact ⟨fun _ => ⟨hclean.standardOutput, hclean.files⟩, fun _ _ _ => hclean.files,
        .inl hclean.files⟩

/-- A run beside one file, which has a chain with a single branch. -/
def sampleRun (arguments : List String) : Invocation :=
  { arguments := arguments.map String.toList
    files := ⟨[], [([], .directory), (["in".toList],
      .file (encodeText "#if A\nx\n#endif\n".toList))]⟩ }

/-- A run that writes beside its input, and one that fails because it would write to it. -/
theorem runCommand_frame_beside_input :
    ((runCommand (sampleRun ["in", "-o", "out", "-DA"])).files.lookup? ["out".toList] =
        some (.file (encodeText "x\n".toList)) ∧
      ∃ options plan input source output path,
        Options.parse (sampleRun ["in", "-o", "out", "-DA"]).arguments = .ok options ∧
          WritesOutput .standard (sampleRun ["in", "-o", "out", "-DA"]) options
            (runCommand (sampleRun ["in", "-o", "out", "-DA"])).files plan input source output
            path) ∧
      (runCommand (sampleRun ["in", "-o", "./in"])).exitCode = 4 ∧
      (runCommand (sampleRun ["in", "-o", "./in"])).standardOutput = [] ∧
      (runCommand (sampleRun ["in", "-o", "./in"])).files = (sampleRun []).files := by
  have hwrites := runCommand_frame .standard (sampleRun ["in", "-o", "out", "-DA"])
  have hfails := runCommand_frame .standard (sampleRun ["in", "-o", "./in"])
  refine ⟨⟨by decide +kernel, hwrites.2.2.resolve_left ?_⟩, by decide +kernel, hfails.1 ?_⟩
  · decide +kernel
  · decide +kernel

end DirectiveStrip
