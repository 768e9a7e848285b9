import DirectiveStrip.Guard.Parser

/-!
# Settings

What a user can choose about stripping: where lines end, whether text after `#else` and `#endif` is
tolerated, what happens to directives that are not conditional, and how deep things may nest.

Every choice has two spellings: the name under which settings files and command lines know it, and
the label under which reports show it.

## Main definitions

* `LineEnding`: Which character sequences end a line.
* `TrailingText`: What to do with text after `#else` and `#endif`.
* `UnknownDirectives`: What to do with other directives.
* `Settings`: All choices together, with their defaults.
* `Settings.strict`: The defaults with trailing text rejected.
* `Settings.describe`: All choices in one line.
-/

namespace DirectiveStrip

/-- Which character sequences end a line. -/
inductive LineEnding where
  /-- A line feed. -/
  | lf
  /-- A carriage return and a line feed. -/
  | crLf
  /-- A carriage return. -/
  | cr
  /-- Any of the three; a carriage return and a line feed in a row are one ending. -/
  | auto
deriving DecidableEq, Repr

namespace LineEnding

/-- The name of a line ending in settings. -/
def name : LineEnding → String
  | lf => "lf"
  | crLf => "crlf"
  | cr => "cr"
  | auto => "auto"

/-- The line ending in reports. -/
def label : LineEnding → String
  | lf => "Lf"
  | crLf => "CrLf"
  | cr => "Cr"
  | auto => "Auto"

/-- The line endings there are. -/
def all : List LineEnding := [lf, crLf, cr, auto]

/-- The line ending of this name. -/
def ofName? (name : String) : Option LineEnding :=
  all.find? (·.name == name)

end LineEnding

/-- What to do with text after `#else` and `#endif`. -/
inductive TrailingText where
  /-- Drop it with the line. -/
  | ignore
  /-- Fail. -/
  | reject
deriving DecidableEq, Repr

namespace TrailingText

/-- The name of the choice in settings. -/
def name : TrailingText → String
  | ignore => "ignore"
  | reject => "reject"

/-- The choice in reports. -/
def label : TrailingText → String
  | ignore => "Ignore"
  | reject => "Reject"

/-- The choices there are. -/
def all : List TrailingText := [ignore, reject]

/-- The choice of this name. -/
def ofName? (name : String) : Option TrailingText :=
  all.find? (·.name == name)

end TrailingText

/-- What to do with `#` lines that are none of `#if`, `#elif`, `#else` and `#endif`. -/
inductive UnknownDirectives where
  /-- Fail. -/
  | reject
  /-- Keep them as plain source lines. -/
  | passThrough
deriving DecidableEq, Repr

namespace UnknownDirectives

/-- The name of the choice in settings. -/
def name : UnknownDirectives → String
  | reject => "reject"
  | passThrough => "pass-through"

/-- The choice in reports. -/
def label : UnknownDirectives → String
  | reject => "Reject"
  | passThrough => "PassThrough"

/-- The choices there are. -/
def all : List UnknownDirectives := [reject, passThrough]

/-- The choice of this name. -/
def ofName? (name : String) : Option UnknownDirectives :=
  all.find? (·.name == name)

end UnknownDirectives

/-- How a source text is to be stripped. -/
structure Settings where
  lineEnding : LineEnding := .auto
  trailingText : TrailingText := .ignore
  unknownDirectives : UnknownDirectives := .reject
  /-- How many chains may enclose a chain, and how deep the brackets of a guard may nest. -/
  nestingLimit : Nat := defaultNestingLimit
  /-- How many tokens a guard is expected to have at most. It is only a hint and changes nothing. -/
  tokenCapacity : Nat := 32
deriving DecidableEq, Repr

namespace Settings

/-- The defaults, except that text after `#else` and `#endif` is an error. -/
def strict : Settings := { trailingText := .reject }

/-- All choices in one line, for reports. -/
def describe (settings : Settings) : String :=
  "UndefineConfig \x7b line_ending: " ++ settings.lineEnding.label
    ++ ", trailing_text: " ++ settings.trailingText.label
    ++ ", unknown_directives: " ++ settings.unknownDirectives.label
    ++ ", nesting_limit: " ++ toString settings.nestingLimit
    ++ ", token_capacity: " ++ toString settings.tokenCapacity ++ " \x7d"

end Settings

end DirectiveStrip
