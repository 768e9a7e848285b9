import DirectiveStrip.Resolve.Event
import DirectiveStrip.Text.Quoted

/-!
# Logging

The command can report on its own work. A record has a level and a target, the part of the program
that speaks, and a filter decides which records are shown. The filter starts from one level for
everything. The environment can replace that level, or set levels for single targets.

## Main definitions

* `LogLevel`: How important a record is.
* `LogRecord`: One entry of the log.
* `LogFilter`: Which records are shown.
* `LogFilter.extend`: A filter with the directives of a specification added.
* `LogFilter.ofLevel`: The filter of a run.
* `Event.records`: What the log says about an event of stripping.
* `LogFilter.entry`: The entry of a record that a filter shows.
-/

namespace DirectiveStrip

/-- How important a record is. -/
inductive LogLevel where
  | error
  | warn
  | info
  | debug
  | trace
deriving DecidableEq, Repr

namespace LogLevel

/-- Later levels are more detailed. -/
def detail : LogLevel → Nat
  | error => 1
  | warn => 2
  | info => 3
  | debug => 4
  | trace => 5

/-- The level in a log line, filled up to five characters. -/
def label : LogLevel → String
  | error => "ERROR"
  | warn => "WARN "
  | info => "INFO "
  | debug => "DEBUG"
  | trace => "TRACE"

/-- The name of the level in a specification. -/
def name : LogLevel → String
  | error => "error"
  | warn => "warn"
  | info => "info"
  | debug => "debug"
  | trace => "trace"

/-- The levels there are. -/
def all : List LogLevel := [error, warn, info, debug, trace]

end LogLevel

/-- One entry of the log. -/
structure LogRecord where
  level : LogLevel
  target : String
  message : String
deriving DecidableEq, Repr

/-- The target of the command itself. -/
def commandTarget : String := "ifstrip"

/-- The target of reading lines. -/
def lineTarget : String := "ifstrip::line"

/-- The target of resolving chains. -/
def transformTarget : String := "ifstrip::transform"

/-- Which records of a target are shown: none of them, or those up to a level of detail. -/
abbrev LogThreshold := Option LogLevel

/-- A threshold for the targets that begin with a given text. -/
structure LogDirective where
  /-- The text, or none for a threshold that is for everything. -/
  target? : Option Text
  threshold : LogThreshold
deriving DecidableEq, Repr

namespace LogDirective

/-- Whether the directive is about a target. -/
def covers (directive : LogDirective) (target : Text) : Bool :=
  match directive.target? with
  | none => true
  | some start => start.isPrefixOf target

/-- How closely the directive describes its targets. -/
def precision (directive : LogDirective) : Nat :=
  match directive.target? with
  | none => 0
  | some start => start.length

end LogDirective

/-- Thresholds for targets. -/
abbrev LogFilter := List LogDirective

/-- A name of a threshold: a level, in upper or lower case, or `off`. -/
def LogThreshold.ofName? (name : Text) : Option LogThreshold :=
  let name := String.ofList (name.map Char.toLower)
  if name = "off" then some none else (LogLevel.all.find? (·.name = name)).map some

namespace LogFilter

/-- The directive that decides about a target: the most precise one, and the latest among equals. -/
def decisive? (filter : LogFilter) (target : Text) : Option LogDirective :=
  filter.foldl (fun best? directive =>
    if !directive.covers target then best?
    else
      match best? with
      | some best => if directive.precision < best.precision then some best else some directive
      | none => some directive) none

/-- Whether a record is shown. -/
def shows (filter : LogFilter) (record : LogRecord) : Bool :=
  match (filter.decisive? record.target.toList).bind (·.threshold) with
  | some level => record.level.detail ≤ level.detail
  | none => false

/-- Put a directive in place of one for the same targets, or add it. -/
def put (filter : LogFilter) (directive : LogDirective) : LogFilter :=
  if filter.any (·.target? = directive.target?) then
    filter.map fun other => if other.target? = directive.target? then directive else other
  else filter ++ [directive]

/-- The directive that one part of a specification spells: a threshold for everything, a target to
    be shown in full, or a target with its threshold. -/
def directive? (part : Text) : Option LogDirective :=
  match splitAt '=' part with
  | [word] =>
    match LogThreshold.ofName? word with
    | some threshold => some ⟨none, threshold⟩
    | none => some ⟨some word, some .trace⟩
  | [target, []] => some ⟨some target, some .trace⟩
  | [target, name] =>
    (LogThreshold.ofName? (trim name)).map fun threshold => ⟨some target, threshold⟩
  | _ => none

/-- The filter with the directives of a specification, which are separated by commas. -/
def extend (filter : LogFilter) (specification : Text) : LogFilter :=
  let parts := ((splitAt ',' specification).map trim).filter (!·.isEmpty)
  (parts.filterMap directive?).foldl put filter

/-- The filter that begins with one level for everything. The environment has the last word. -/
def ofLevel (level : LogLevel) (specification? : Option Text) : LogFilter :=
  let filter : LogFilter := [⟨none, some level⟩]
  match specification? with
  | some specification => filter.extend specification
  | none => filter

end LogFilter

/-- A byte range in words. -/
def describeRange (start stop : Nat) : String :=
  toString start ++ ".." ++ toString stop

/-- What the log says about an event of stripping. Copying text goes unmentioned. -/
def Event.records : Event → List LogRecord
  | resolving depth start stop firstLine =>
    [⟨.trace, transformTarget, "depth " ++ toString depth ++ ": resolving bytes "
      ++ describeRange start stop ++ " from line " ++ toString firstLine⟩]
  | ignoredText line text =>
    [⟨.debug, lineTarget, "line " ++ toString line ++ ": ignoring text after directive: "
      ++ String.ofList (quote text)⟩]
  | evaluated directive line guard evaluation =>
    [⟨.debug, transformTarget, "line " ++ toString line ++ ": #" ++ directive.keyword ++ " "
      ++ String.ofList guard.render ++ " is " ++ toString evaluation.value⟩]
  | elseTaken line => [⟨.debug, transformTarget, "line " ++ toString line ++ ": #else taken"⟩]
  | noBranchTaken line openingLine =>
    [⟨.debug, transformTarget, "line " ++ toString line ++ ": no branch taken for #if on line "
      ++ toString openingLine⟩]
  | keeping start stop openingLine =>
    [⟨.trace, transformTarget, "keeping bytes " ++ describeRange start stop
      ++ " of the chain opened on line " ++ toString openingLine⟩]
  | copied _ _ => []
  | finished kept total =>
    [⟨.debug, transformTarget, "kept " ++ toString kept ++ " of " ++ toString total ++ " bytes ("
      ++ toString (total - kept) ++ " removed)"⟩]

/-- A message with the lines after its first set in by four spaces. -/
def indentMessage (message : String) : String :=
  String.ofList (joinWith ('\n' :: List.replicate 4 ' ') (splitAt '\n' message.toList))

/-- A record as an entry of the log. An entry is one line unless its message has several. -/
def LogRecord.render (record : LogRecord) : String :=
  "[" ++ record.level.label ++ " " ++ record.target ++ "] " ++ indentMessage record.message ++ "\n"

/-- The entry of a record, if the filter shows it. -/
def LogFilter.entry (filter : LogFilter) (record : LogRecord) : Text :=
  if filter.shows record then record.render.toList else []

end DirectiveStrip
