import DirectiveStrip.Proofs.Command.Frame
import Mathlib.Control.Monad.Basic

/-!
# Where the Result Goes

A run that strips can be told to put the result into a file, and if it succeeds it says
that it did: the last line about a verbose run names the file, and so does the report in
JSON. The report is a way to show the result as well, and the two do not go together. With
a report the result is in the report, and the file that the report names is not written.

Without a report the file is there afterwards and holds what the input was stripped to. It
is found by the same path by which it was written, since the way to it leads through
directories only, and none of them was written over.

## Main definitions

* `NamesOutput`: A run that succeeds with an output file named.

## Theorems

* `FileSystem.read_of_write`: What was written is read afterwards.
* `delivers_of_namesOutput`: A run that names an output file delivers its result.
* `outputFile_infix_stripReport`, `target_suffix_summary`: Where the file is named.
* `output_file_holds_result_iff`: When the file that is named holds the result.
* `output_file_missing_with_report`: A report of a file that is not there.
-/

namespace DirectiveStrip

/-! ### Reading what was written -/

namespace FileSystem

variable {files after : FileSystem} {path : Path} {content : ByteArray}

/-- A path leads where it led before a file was written, since it leads through
    directories. -/
theorem Wrote.walk_eq (h : Wrote path content files after)
    (hfile : files.lookup? path ≠ some .directory) (start target : Path) (names : List Text)
    (hwalk : files.walk start names = .ok target) : after.walk start names = .ok target := by
  induction names generalizing start with
  | nil => exact hwalk
  | cons name names ih =>
      rcases exists_of_bind_eq_ok hwalk with ⟨next, hnext, hrest⟩
      have hdirectory : files.lookup? start = some .directory := by
        unfold descend at hnext
        split at hnext
        · cases hnext
        · cases hnext
        · next hlookup => exact hlookup
      have hsame : after.descend start name = files.descend start name := by
        have hne : start ≠ path := by
          rintro rfl
          exact hfile hdirectory
        rw [descend, descend, h.others start hne]
      show (after.descend start name).bind _ = _
      rw [hsame, hnext]
      exact ih next hrest

/-- What was written to a file is read from it afterwards. -/
theorem read_of_write (text : Text) (h : files.write text content = .ok after) :
    after.read text = .ok content := by
  rcases files.wrote_of_write text content after h with ⟨path, hlocate, hfile, hwrote⟩
  have hlength : checkLength text = .ok () := by
    unfold write locateForWriting at h
    rcases exists_of_bind_eq_ok h with ⟨_, h, -⟩
    rcases exists_of_bind_eq_ok h with ⟨_, hlength, -⟩
    exact hlength
  have hafter : after.locate text = .ok path := by
    unfold locate startOf at hlocate ⊢
    rw [hwrote.workingDirectory]
    exact hwrote.walk_eq hfile _ _ _ hlocate
  unfold read
  simp only [hlength, hafter, hwrote.written, bind, Except.bind]

end FileSystem

/-! ### Runs that name an output file -/

/-- A run that succeeds, with an output file named, and that is neither to check nor to
    preview nor to explain. -/
structure NamesOutput (toolkit : Toolkit) (invocation : Invocation) (options : Options)
    (target : Text) : Prop where
  parses : toolkit.parseArguments invocation.arguments = .ok options
  succeeds : (toolkit.run invocation).exitCode = 0
  output : options.output? = some target
  file : isStandardStream target = false
  check : options.check = false
  dryRun : options.dryRun = false
  explain : options.explain? = none

/-- Such a run has stripped its input and delivered the result. -/
theorem delivers_of_namesOutput (toolkit : Toolkit) (invocation : Invocation) (options : Options)
    (target : Text) (h : NamesOutput toolkit invocation options target) :
    ∃ plan input source output before delivered,
      (toolkit.loadPlan invocation.files options).outcome = .ok plan ∧
      options.input? = some input ∧ StripsTo invocation plan input source output ∧
      invocation.start.Undisturbed before ∧
      (toolkit.deliver invocation options plan input output
        (byteSize source - byteSize output)).run before = .ok () delivered ∧
      (toolkit.run invocation).standardOutput = delivered.standardOutput ∧
      (toolkit.run invocation).files = delivered.files ∧
      summary invocation options plan input (byteSize source - byteSize output) <:+
        (toolkit.run invocation).standardError := by
  have hsucceeds := h.succeeds
  rw [run_of_parse_eq_ok h.parses] at hsucceeds ⊢
  rcases hperform : (toolkit.perform invocation options).run invocation.start with
    ⟨_, after⟩ | ⟨failure, after⟩
  · rw [execute_of_eq_ok hperform]
    rcases course_of_perform hperform with ⟨-, plan, log, hplan, hcourse⟩
    cases hcourse with
    | explains expression _ hexplain _ =>
        rw [h.explain] at hexplain
        cases hexplain
    | previews input _ _ hdryRun =>
        rw [h.dryRun] at hdryRun
        cases hdryRun
    | checks input source output _ _ _ _ _ hcheck =>
        rw [h.check] at hcheck
        cases hcheck
    | delivers input source output more delivered _ hinput _ hstrips _ hdeliver =>
        exact ⟨plan, input, source, output, (invocation.start.note log).note more, delivered,
          hplan, hinput, hstrips, ⟨rfl, rfl⟩, hdeliver, rfl, rfl, List.suffix_append _ _⟩
  · rw [execute_of_eq_error hperform] at hsucceeds
    exact absurd hsucceeds failure.exitCode_ne_zero

/-- A report of a run names the output file. -/
theorem outputFile_infix_stripReport (toolkit : Toolkit) (invocation : Invocation)
    (options : Options) (plan : Plan) (input output target : Text) (removed : Nat)
    (htarget : options.output? = some target) (hfile : isStandardStream target = false) :
    fieldLine "output_file" (.text target) <:+:
      toolkit.stripReport invocation options plan input output removed := by
  unfold Toolkit.stripReport
  rw [htarget]
  simp only [displayOutput, hfile, Bool.false_eq_true, if_false, String.toList_ofList]
  exact (toolkit.report.fieldLine_infix _ _ _ (by simp)).trans (List.prefix_append _ _).isInfix

/-- A verbose run names it in its last line. -/
theorem target_suffix_summary (invocation : Invocation) (options : Options) (plan : Plan)
    (input target : Text) (removed : Nat) (htarget : options.output? = some target)
    (hfile : isStandardStream target = false) (hverbose : options.verbosity ≠ 0)
    (hquiet : options.quiet = false) :
    (" Stripped " ++ displayInput input ++ " -> ").toList ++ target ++ ['\n'] <:+
      summary invocation options plan input removed := by
  unfold summary Options.displayTarget
  rw [if_neg (by simp [hverbose, hquiet]), htarget]
  simp only [displayOutput, hfile, Bool.false_eq_true, if_false, List.flatMap_cons,
    List.flatMap_nil, List.append_nil, String.toList_append, String.toList_ofList]
  -- The first three lines are about something else, and the last may begin with a mark.
  refine List.IsSuffix.trans ?_ ((List.suffix_append _ _).trans
    ((List.suffix_append _ _).trans (List.suffix_append _ _)))
  simp only [List.append_assoc]
  exact List.suffix_append _ _

/-- A run that succeeds with an output file named and nothing else to do strips its input.
    Afterwards the file holds the result, unless the result was to be reported: then no file
    is written, although the report and the last line of a verbose run name it. -/
theorem output_file_holds_result_iff (toolkit : Toolkit) (invocation : Invocation)
    (options : Options) (target : Text) (h : NamesOutput toolkit invocation options target) :
    ∃ plan input source output,
      (toolkit.loadPlan invocation.files options).outcome = .ok plan ∧
      options.input? = some input ∧ StripsTo invocation plan input source output ∧
      ((toolkit.run invocation).files.read target = .ok (encodeText output) ↔
        options.json = false ∨ invocation.files.read target = .ok (encodeText output)) ∧
      (options.json = false → (toolkit.run invocation).standardOutput = []) ∧
      (options.json = true → (toolkit.run invocation).files = invocation.files ∧
        fieldLine "output_file" (.text target) <:+: (toolkit.run invocation).standardOutput) ∧
      (options.verbosity ≠ 0 → options.quiet = false →
        (" Stripped " ++ displayInput input ++ " -> ").toList ++ target ++ ['\n'] <:+
          (toolkit.run invocation).standardError) := by
  rcases delivers_of_namesOutput toolkit invocation options target h with
    ⟨plan, input, source, output, before, delivered, hplan, hinput, hstrips, hbefore, hdeliver,
      houtput, hfiles, hsummary⟩
  have hlast (hverbose : options.verbosity ≠ 0) (hquiet : options.quiet = false) :=
    (target_suffix_summary invocation options plan input target
      (byteSize source - byteSize output) h.output h.file hverbose hquiet).trans hsummary
  refine ⟨plan, input, source, output, hplan, hinput, hstrips, ?_⟩
  rw [houtput, hfiles]
  have hstart : before.files = invocation.files := hbefore.files
  unfold Toolkit.deliver at hdeliver
  by_cases hjson : options.json
  · rw [if_pos hjson] at hdeliver
    cases hdeliver
    refine ⟨?_, by simp [hjson], fun _ => ⟨hstart, ?_⟩, hlast⟩
    · rw [Effects.files_print, hstart]
      exact ⟨.inr, fun hread => hread.resolve_left (by simp [hjson])⟩
    · exact (outputFile_infix_stripReport toolkit invocation options plan input output target _
        h.output h.file).trans (List.suffix_append _ _).isInfix
  · rw [if_neg hjson, h.output] at hdeliver
    dsimp only at hdeliver
    rw [if_neg (by simp [h.file]), Action.run_writeFile, hstart] at hdeliver
    rcases hwrite : invocation.files.write target (encodeText output) with error | after
    · rw [hwrite] at hdeliver
      cases hdeliver
    · rw [hwrite] at hdeliver
      cases hdeliver
      refine ⟨⟨fun _ => .inl (Bool.eq_false_iff.mpr hjson), fun _ => ?_⟩,
        fun _ => hbefore.standardOutput, fun htrue => absurd htrue hjson, hlast⟩
      exact FileSystem.read_of_write target hwrite

/-- The file is not there before. A verbose run without a report writes it and says so. -/
theorem output_file_holds_result_of_verbose_run :
    NamesOutput .standard (sampleRun ["in", "-o", "out", "-v", "-DA"])
        { input? := some "in".toList, output? := some "out".toList, symbols := [['A']]
          verbosity := 1 } "out".toList ∧
      (sampleRun ["in", "-o", "out", "-v", "-DA"]).files.read "out".toList = .error .notFound ∧
      (runCommand (sampleRun ["in", "-o", "out", "-v", "-DA"])).files.read "out".toList =
        .ok (encodeText "x\n".toList) ∧
      " Stripped in -> out\n".toList <:+
        (runCommand (sampleRun ["in", "-o", "out", "-v", "-DA"])).standardError := by
  have hnames : NamesOutput .standard (sampleRun ["in", "-o", "out", "-v", "-DA"])
      { input? := some "in".toList, output? := some "out".toList, symbols := [['A']]
        verbosity := 1 } "out".toList :=
    ⟨by decide +kernel, by decide +kernel, rfl, by decide +kernel, rfl, rfl, rfl⟩
  have hplan : (Toolkit.standard.loadPlan (sampleRun []).files { symbols := [['A']] }).outcome =
      .ok ⟨{}, [['A']]⟩ := by
    decide +kernel
  have hsource : readInput (sampleRun []).files .empty "in".toList =
      .ok "#if A\nx\n#endif\n".toList := by
    decide +kernel
  have hstrip : (strip {} (Plan.defined ⟨{}, [['A']]⟩) "#if A\nx\n#endif\n".toList).outcome =
      .ok "x\n".toList := by
    decide +kernel
  rcases output_file_holds_result_iff _ _ _ _ hnames with
    ⟨plan, input, source, output, hloaded, hinput, hstrips, hholds, -, -, hlast⟩
  cases hloaded.symm.trans hplan
  cases hinput
  cases hstrips.read.symm.trans hsource
  cases hstrips.strip.symm.trans hstrip
  exact ⟨hnames, by decide +kernel, hholds.mpr (.inl rfl), hlast (by decide) rfl⟩

/-- With a report the run succeeds, and the report names a file that is not there. -/
theorem output_file_missing_with_report :
    NamesOutput .standard (sampleRun ["in", "-o", "out", "--json", "-DA"])
        { input? := some "in".toList, output? := some "out".toList, symbols := [['A']]
          json := true } "out".toList ∧
      (Toolkit.standard.loadPlan (sampleRun ["in", "-o", "out", "--json", "-DA"]).files
        { input? := some "in".toList, output? := some "out".toList, symbols := [['A']]
          json := true }).outcome = .ok ⟨{}, [['A']]⟩ ∧
      StripsTo (sampleRun ["in", "-o", "out", "--json", "-DA"]) ⟨{}, [['A']]⟩ "in".toList
        "#if A\nx\n#endif\n".toList "x\n".toList ∧
      fieldLine "output_file" (.text "out".toList) <:+:
        (runCommand (sampleRun ["in", "-o", "out", "--json", "-DA"])).standardOutput ∧
      (runCommand (sampleRun ["in", "-o", "out", "--json", "-DA"])).files.read "out".toList =
        .error .notFound :=
  ⟨⟨by decide +kernel, by decide +kernel, rfl, by decide +kernel, rfl, rfl, rfl⟩,
    by decide +kernel, ⟨by decide +kernel, by decide +kernel⟩, by decide +kernel,
    by decide +kernel⟩

end DirectiveStrip
