import DirectiveStrip.Line.Scan
import DirectiveStrip.Trace

/-!
# What happens during stripping

Stripping is described by the sequence of things it does: guards it evaluates, stretches it
descends into, text it copies. The output is read off the copies and the diagnostics off the rest,
so one account serves both. The account also survives a failure, when there is no output at all.

## Main definitions

* `Event`: One thing that happens.
* `Resolution`: A part of stripping, with its events.
* `Resolution.output`: The text that was copied.
* `Resolution.asked`: The symbols that were looked up.
-/

namespace DirectiveStrip

/-- Which directive a guard belongs to. -/
inductive GuardedDirective where
  | ifDirective
  | elifDirective
deriving DecidableEq, Repr

/-- The keyword of the directive. -/
def GuardedDirective.keyword : GuardedDirective → String
  | ifDirective => "if"
  | elifDirective => "elif"

/-- One thing that happens while a source is stripped. -/
inductive Event where
  /-- The lines between two offsets are resolved, inside `depth` chains. -/
  | resolving (depth start stop firstLine : Nat)
  /-- A line was read whose trailing text is ignored. -/
  | ignoredText (line : Nat) (text : Text)
  /-- The guard of a line was evaluated. -/
  | evaluated (directive : GuardedDirective) (line : Nat) (guard : Guard) (evaluation : Evaluation)
  /-- No guard held, and the chain has an `#else`. -/
  | elseTaken (line : Nat)
  /-- No guard held, and the chain ended at `line` without an `#else`. -/
  | noBranchTaken (line openingLine : Nat)
  /-- The lines between two offsets are the chosen branch of a chain. -/
  | keeping (start stop openingLine : Nat)
  /-- Text at an offset of the source becomes output. -/
  | copied (start : Nat) (text : Text)
  /-- Stripping is done; so many bytes were kept. -/
  | finished (kept total : Nat)
deriving DecidableEq, Repr

namespace Event

/-- The output that an event adds. -/
def output : Event → Text
  | copied _ text => text
  | _ => []

/-- The symbols that an event looks up. -/
def asked : Event → List Text
  | evaluated _ _ _ evaluation => evaluation.asked
  | _ => []

end Event

/-- A part of stripping: its events, and a value or the error that ended it. -/
abbrev Resolution (α : Type) := Trace Event DirectiveError α

namespace Resolution

variable {α : Type}

/-- Everything that was copied. -/
def output (resolution : Resolution α) : Text :=
  resolution.events.flatMap Event.output

/-- The symbols that were looked up, in order. -/
def asked (resolution : Resolution α) : List Text :=
  resolution.events.flatMap Event.asked

end Resolution

end DirectiveStrip
