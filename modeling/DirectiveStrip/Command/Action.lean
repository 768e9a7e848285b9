import DirectiveStrip.Command.Failure
import DirectiveStrip.Command.Log
import DirectiveStrip.Trace

/-!
# Actions

A run of the command prints to two streams and may write a file, and it does so while it goes along.
A step that fails ends the run, but it does not take back what the steps before it have done: what
is printed stays printed, and what is written stays written.

So an action carries the files and both streams with it, and there is a state behind it whether it
succeeded or failed. Whether a failing run has printed or written anything depends on the order in
which its steps come.

## Main definitions

* `Effects`: What a run has printed and written so far.
* `Action`: A part of a run.
* `Action.print`, `Action.note`: Print to standard output, and to standard error.
* `Action.writeFile`: Write a file.
* `Action.follow`: Carry out a computation and log what it reports.

## Theorems

* `Action.run_bind_eq_ok`: A sequence succeeds only if both parts do.
* `Action.run_writeFile`, `Action.run_follow`: What an action comes to.
-/

namespace DirectiveStrip

/-- What a run has printed and written so far. -/
structure Effects where
  files : FileSystem
  standardOutput : Text := []
  standardError : Text := []

namespace Effects

/-- The effects with a text printed to standard output. -/
def print (effects : Effects) (text : Text) : Effects :=
  { effects with standardOutput := effects.standardOutput ++ text }

/-- The effects with a text printed to standard error. -/
def note (effects : Effects) (text : Text) : Effects :=
  { effects with standardError := effects.standardError ++ text }

variable (effects : Effects) (text : Text)

@[simp] theorem files_print : (effects.print text).files = effects.files := rfl

@[simp] theorem standardOutput_print :
    (effects.print text).standardOutput = effects.standardOutput ++ text := rfl

@[simp] theorem files_note : (effects.note text).files = effects.files := rfl

@[simp] theorem standardOutput_note :
    (effects.note text).standardOutput = effects.standardOutput := rfl

@[simp] theorem standardError_note :
    (effects.note text).standardError = effects.standardError ++ text := rfl

theorem note_note (more : Text) : (effects.note text).note more = effects.note (text ++ more) := by
  simp [note]

end Effects

/-- A part of a run. What it has printed and written is there whether it fails or not. -/
abbrev Action (α : Type) := EStateM Failure Effects α

namespace Action

variable {α β : Type}

/-- Print to standard output. -/
def print (text : Text) : Action Unit := modify (·.print text)

/-- Print to standard error. -/
def note (text : Text) : Action Unit := modify (·.note text)

/-- Write a file. A file that cannot be written stays as it is. -/
def writeFile (path : Text) (content : ByteArray) : Action Unit := do
  let effects ← get
  match effects.files.write path content with
  | .ok files => set { effects with files }
  | .error error => throw (.unwritableOutput path error)

/-- What has been found out without any effect. -/
def ofExcept : Except Failure α → Action α
  | .ok value => pure value
  | .error failure => throw failure

/-- Carry out a computation and log what it reports, whether it succeeds or not. -/
def follow (log : LogRecord → Text) (trace : Trace LogRecord Failure α) : Action α := do
  note (trace.events.flatMap log)
  ofExcept trace.outcome

variable {before after : Effects}

/-- What is printed in front of a failure stays printed. -/
example (text : Text) (failure : Failure) :
    (do print text; throw failure : Action Unit).run before =
      .error failure (before.print text) := rfl

theorem run_bind_eq_ok {first : Action α} {next : α → Action β} {value : β}
    (h : (first >>= next).run before = .ok value after) :
    ∃ a middle, first.run before = .ok a middle ∧ (next a).run middle = .ok value after := by
  rw [EStateM.run_bind] at h
  split at h
  · next a middle hfirst => exact ⟨a, middle, hfirst, h⟩
  · cases h

theorem run_bind_eq_error {first : Action α} {next : α → Action β} {failure : Failure}
    (h : (first >>= next).run before = .error failure after) :
    first.run before = .error failure after ∨
      ∃ a middle, first.run before = .ok a middle ∧ (next a).run middle = .error failure after := by
  rw [EStateM.run_bind] at h
  split at h
  · next a middle hfirst => exact .inr ⟨a, middle, hfirst, h⟩
  · next error middle hfirst =>
      cases h
      exact .inl hfirst

theorem run_bind_of_eq_ok {first : Action α} {a : α} {middle : Effects} (next : α → Action β)
    (h : first.run before = .ok a middle) : (first >>= next).run before = (next a).run middle := by
  rw [EStateM.run_bind, h]

theorem run_ofExcept (result : Except Failure α) (before : Effects) :
    (ofExcept result).run before =
      match result with
      | .ok value => .ok value before
      | .error failure => .error failure before := by
  cases result <;> rfl

theorem run_ofExcept_eq_ok {result : Except Failure α} {value : α}
    (h : (ofExcept result).run before = .ok value after) :
    result = .ok value ∧ after = before := by
  rw [run_ofExcept] at h
  cases result with
  | ok value => cases h; exact ⟨rfl, rfl⟩
  | error failure => cases h

theorem run_follow (log : LogRecord → Text) (trace : Trace LogRecord Failure α)
    (before : Effects) :
    (follow log trace).run before =
      match trace.outcome with
      | .ok value => .ok value (before.note (trace.events.flatMap log))
      | .error failure => .error failure (before.note (trace.events.flatMap log)) :=
  run_ofExcept trace.outcome (before.note (trace.events.flatMap log))

/-- What a computation reports is in the log, and nothing else has happened. -/
theorem run_follow_eq_ok {log : LogRecord → Text} {trace : Trace LogRecord Failure α} {value : α}
    (h : (follow log trace).run before = .ok value after) :
    trace.outcome = .ok value ∧ after = before.note (trace.events.flatMap log) :=
  run_ofExcept_eq_ok h

theorem run_writeFile (path : Text) (content : ByteArray) (before : Effects) :
    (writeFile path content).run before =
      match before.files.write path content with
      | .ok files => .ok () { before with files }
      | .error error => .error (.unwritableOutput path error) before := by
  rw [writeFile, EStateM.run_bind, EStateM.run_get]
  dsimp only
  cases before.files.write path content <;> rfl

end Action

end DirectiveStrip
