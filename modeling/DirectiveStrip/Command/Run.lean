import DirectiveStrip.Command.Action
import DirectiveStrip.Command.Toolkit
import DirectiveStrip.Resolve.Strip

/-!
# Running the command

A run of the command is a function: from its arguments, its standard input and the file system to an
exit code, two output streams and a new file system.

The steps of a run come in a fixed order, and the first to fail decides. Arguments that make no
sense together are refused before any file is read; settings are read before the guard or the
source; and the output file is opened last. Each step prints and writes as it goes, and a failure
takes nothing back.

With a report in JSON the result goes into the report and nowhere else, even if an output file is
named.

## Main definitions

* `Invocation`: What a run is given.
* `Outcome`: What a run leaves behind.
* `Plan`: Settings and symbols of a run.
* `validateOptions`: Options that make no sense together.
* `Toolkit.loadPlan`: Settings and symbols from a settings file and the options.
* `Toolkit.explainGuard`, `dryRun`, `Toolkit.stripInput`: The three things a run can do.
* `Toolkit.perform`: Everything that options ask for.
* `Toolkit.run`: A run with given tools.
* `runCommand`: A run of the command.
-/

namespace DirectiveStrip

/-- What a run of the command is given. -/
structure Invocation where
  arguments : List Text
  standardInput : ByteArray := .empty
  /-- What the environment says about logging. -/
  logSpecification? : Option Text := none
  files : FileSystem
  /-- How long stripping takes, in nanoseconds. -/
  elapsed : Nat := 0

/-- What a run of the command leaves behind. -/
structure Outcome extends Effects where
  exitCode : Nat

/-! ### Symbols -/

/-- A symbol put into an ordered list without repetitions. -/
def insertSymbol (name : Text) : List Text → List Text
  | [] => [name]
  | first :: rest =>
    if name = first then first :: rest
    else if name < first then name :: first :: rest
    else first :: insertSymbol name rest

/-- Symbols in order, each once. -/
def orderSymbols (names : List Text) : List Text :=
  names.foldr insertSymbol []

/-- A symbol can be defined if it is a guard that stands for itself. -/
def isSymbol (name : Text) : Bool :=
  match Guard.parse defaultNestingLimit name with
  | .ok (.symbol parsed) => parsed = name
  | _ => false

/-- Symbols for a reader. -/
def displaySymbols (symbols : List Text) : Text :=
  if symbols.isEmpty then "(none)".toList else joinWith [',', ' '] symbols

/-! ### Options and settings -/

/-- The file that is both input and output, if they are one. Paths that lead nowhere are no files.
    -/
def sharedFile? (files : FileSystem) (options : Options) : Option Path :=
  match options.input?, options.output? with
  | some input, some output =>
    if isStandardStream input || isStandardStream output then none
    else
      match files.resolve? input, files.resolve? output with
      | some source, some target => if source = target then some target else none
      | _, _ => none
  | _, _ => none

/-- Refuse options that make no sense together. -/
def validateOptions (files : FileSystem) (options : Options) : Except Failure Unit :=
  match sharedFile? files options with
  | some path => .error (.sameFile path)
  | none =>
    if options.nestingLimit? = some 0 then .error .zeroNestingLimit
    else
      match options.symbols.find? (!isSymbol ·) with
      | some name => .error (.invalidSymbol name)
      | none => .ok ()

/-- Settings and symbols of a run. -/
structure Plan where
  settings : Settings
  /-- The symbols to define, in order. -/
  symbols : List Text
deriving DecidableEq, Repr

/-- The symbols that are defined. -/
def Plan.defined (plan : Plan) (name : Text) : Bool :=
  plan.symbols.contains name

/-- The contents of a settings file. -/
def Toolkit.readSettingsFile (toolkit : Toolkit) (files : FileSystem) (path : Text) :
    Except Failure SettingsFile :=
  match files.readText path with
  | .error error => .error (.unreadableSettings path error)
  | .ok text =>
    match toolkit.parseSettings? text with
    | none => .error (.invalidSettings path)
    | some contents => .ok contents

/-- Settings with those that the options give in place of them. -/
def Options.override (options : Options) (settings : Settings) : Settings :=
  { settings with
    lineEnding := options.lineEnding?.getD settings.lineEnding
    trailingText := if options.strictTrailingText then .reject else settings.trailingText
    unknownDirectives :=
      if options.passUnknownDirectives then .passThrough else settings.unknownDirectives
    nestingLimit := options.nestingLimit?.getD settings.nestingLimit }

/-- A record of the command itself. -/
def commandRecord (level : LogLevel) (message : String) : LogRecord :=
  ⟨level, commandTarget, message⟩

/-- A set of symbols for the log. -/
def quoteSymbols (symbols : List Text) : Text :=
  '\x7b' :: joinWith [',', ' '] (symbols.map quote) ++ ['\x7d']

/-- What the settings file says, with what the options say in place of it. Symbols of both count. -/
def Toolkit.loadPlan (toolkit : Toolkit) (files : FileSystem) (options : Options) :
    Trace LogRecord Failure Plan := do
  let contents : SettingsFile ←
    match options.settingsFile? with
    | none => pure { symbols := [], settings := {} }
    | some path =>
      let contents ← Trace.ofExcept (toolkit.readSettingsFile files path)
      Trace.emit (commandRecord .debug ("loaded " ++ toString contents.symbols.length
        ++ " symbols from " ++ String.ofList path))
      pure contents
  let settings := options.override contents.settings
  let symbols := orderSymbols (contents.symbols ++ options.symbols)
  Trace.emit (commandRecord .debug ("symbols: " ++ String.ofList (quoteSymbols symbols)))
  Trace.emit (commandRecord .debug ("config: " ++ settings.describe))
  return { settings, symbols }

/-! ### What a run can do -/

/-- Show the parsed form of a guard and its value. Brackets may nest as deep as they may by default,
    whatever the settings say. -/
def Toolkit.explainGuard (toolkit : Toolkit) (options : Options) (plan : Plan)
    (expression : Text) : Action Unit :=
  match Guard.parse defaultNestingLimit expression with
  | .error error => throw (.invalidGuard error)
  | .ok guard => do
    let value := guard.holds plan.defined
    if options.json then
      Action.print (toolkit.report.render
        [("canonical", .text guard.render), ("expression", .text expression),
         ("referenced_symbols", .texts guard.symbols), ("symbols", .texts plan.symbols),
         ("value", .flag value)] ++ ['\n'])
    else if options.quiet then Action.print (toString value ++ "\n").toList
    else
      Action.print (guard.render ++ ['\n'])
      Action.print (toString value ++ "\n").toList

/-- Where the result goes, for messages. -/
def Options.displayTarget (options : Options) : String :=
  match options.output? with
  | some path => displayOutput path
  | none => "stdout"

/-- Say what would be done. -/
def dryRun (options : Options) (plan : Plan) (input : Text) : Text :=
  let lines :=
    ["Dry run: would strip " ++ displayInput input ++ " -> " ++ options.displayTarget,
     "Symbols: " ++ String.ofList (displaySymbols plan.symbols),
     "Line ending: " ++ plan.settings.lineEnding.label,
     "Trailing text: " ++ plan.settings.trailingText.label,
     "Unknown directives: " ++ plan.settings.unknownDirectives.label,
     "Nesting limit: " ++ toString plan.settings.nestingLimit]
    ++ (if options.check then ["Mode: check only"] else [])
    ++ (if options.json then ["Output format: JSON"] else [])
  lines.flatMap fun line => line.toList ++ ['\n']

/-- The source to strip. -/
def readInput (files : FileSystem) (standardInput : ByteArray) (input : Text) :
    Except FileError Text :=
  if isStandardStream input then
    match decodeText? standardInput with
    | some source => .ok source
    | none => .error .notText
  else files.readText input

/-- Digits of a fraction without zeros at the end, behind a point; at least one of them if a digit
    is to be kept. -/
def fractionDigits (places fraction : Nat) (keepOne : Bool) : Text :=
  let digits := Nat.toDigits 10 fraction
  let padded := List.replicate (places - digits.length) '0' ++ digits
  let trimmed := (padded.reverse.dropWhile (· == '0')).reverse
  if trimmed.isEmpty then if keepOne then ['.', '0'] else [] else '.' :: trimmed

/-- Nanoseconds in milliseconds, as a decimal fraction. -/
def milliseconds (elapsed : Nat) : Text :=
  (toString (elapsed / 1000000)).toList ++ fractionDigits 6 (elapsed % 1000000) true

/-- Nanoseconds for a reader, in the largest unit that they fill. -/
def displayDuration (elapsed : Nat) : Text :=
  let inUnit (places size : Nat) (unit : String) : Text :=
    (toString (elapsed / size)).toList ++ fractionDigits places (elapsed % size) false
      ++ unit.toList
  if 1000000000 ≤ elapsed then inUnit 9 1000000000 "s"
  else if 1000000 ≤ elapsed then inUnit 6 1000000 "ms"
  else if 1000 ≤ elapsed then inUnit 3 1000 "µs"
  else (toString elapsed ++ "ns").toList

/-- The result of stripping as a report. -/
def Toolkit.stripReport (toolkit : Toolkit) (invocation : Invocation) (options : Options)
    (plan : Plan) (input output : Text) (removed : Nat) : Text :=
  let target := match options.output? with
    | some path => ReportValue.text (displayOutput path).toList
    | none => .nothing
  toolkit.report.render
    [("input_file", .text (displayInput input).toList), ("output", .text output),
     ("output_file", target), ("processing_time_ms", .decimal (milliseconds invocation.elapsed)),
     ("removed_bytes", .count removed), ("success", .flag true),
     ("symbols", .texts plan.symbols)] ++ ['\n']

/-- Put the result where the options want it: into a report, into a file, or to standard output. -/
def Toolkit.deliver (toolkit : Toolkit) (invocation : Invocation) (options : Options) (plan : Plan)
    (input output : Text) (removed : Nat) : Action Unit :=
  if options.json then
    Action.print (toolkit.stripReport invocation options plan input output removed)
  else
    match options.output? with
    | none => Action.print output
    | some path =>
      if isStandardStream path then Action.print output
      else Action.writeFile path (encodeText output)

/-- A mark in a colour, if colours are wanted. -/
def colored (options : Options) (code mark : String) : String :=
  if options.forceColor then "\x1b[" ++ code ++ "m" ++ mark ++ "\x1b[0m" else mark

/-- What a successful run says about itself if it is asked to. -/
def summary (invocation : Invocation) (options : Options) (plan : Plan) (input : Text)
    (removed : Nat) : Text :=
  if options.verbosity = 0 || options.quiet then []
  else
    let lines :=
      ["Symbols: " ++ String.ofList (displaySymbols plan.symbols),
       "Removed: " ++ toString removed ++ " bytes",
       "Processing time: " ++ String.ofList (displayDuration invocation.elapsed),
       colored options "32" "✓" ++ " Stripped " ++ displayInput input ++ " -> "
         ++ options.displayTarget]
    lines.flatMap fun line => line.toList ++ ['\n']

/-- The level of the log: errors only if the run is to be quiet, and more detail the more verbose it
    is to be. -/
def Options.logLevel (options : Options) : LogLevel :=
  if options.quiet then .error
  else if options.verbosity = 0 then .warn
  else if options.verbosity = 1 then .debug
  else .trace

/-- What the log of a run says about a record. -/
def Toolkit.entry (toolkit : Toolkit) (invocation : Invocation) (options : Options) :
    LogRecord → Text :=
  toolkit.logEntry options.logLevel invocation.logSpecification?

/-- Strip the input and deliver the result, unless the input is only to be checked. -/
def Toolkit.stripInput (toolkit : Toolkit) (invocation : Invocation) (options : Options)
    (plan : Plan) (input : Text) : Action Unit := do
  let effects ← get
  let source ← Action.ofExcept
    ((readInput effects.files invocation.standardInput input).mapError (.unreadableInput input))
  let output ← Action.follow (toolkit.entry invocation options)
    ((strip plan.settings plan.defined source).rephrase Event.records (.refusedSource input))
  if options.check then
    Action.follow (toolkit.entry invocation options)
      (Trace.emit (commandRecord .info (displayInput input ++ " is valid")))
  else
    let removed := byteSize source - byteSize output
    toolkit.deliver invocation options plan input output removed
    Action.note (summary invocation options plan input removed)

/-- Everything that options ask for. -/
def Toolkit.perform (toolkit : Toolkit) (invocation : Invocation) (options : Options) :
    Action Unit := do
  let effects ← get
  Action.ofExcept (validateOptions effects.files options)
  let plan ← Action.follow (toolkit.entry invocation options)
    (toolkit.loadPlan effects.files options)
  match options.explain?, options.input? with
  | some expression, _ => toolkit.explainGuard options plan expression
  | none, none => throw .missingInput
  | none, some input =>
    if options.dryRun then Action.note (dryRun options plan input)
    else toolkit.stripInput invocation options plan input

/-! ### A run -/

/-- The line that announces a failure. -/
def failureLine (options : Options) (failure : Failure) : Text :=
  (colored options "1;31" "Error:" ++ " " ++ failure.message ++ "\n").toList

/-- Carry out what options ask for. A failure is announced behind everything else. -/
def Toolkit.execute (toolkit : Toolkit) (invocation : Invocation) (options : Options) : Outcome :=
  match (toolkit.perform invocation options).run { files := invocation.files } with
  | .ok () effects => { effects with exitCode := 0 }
  | .error failure effects =>
    { effects.note (failureLine options failure) with exitCode := failure.exitCode }

/-- The name and the version of the command. -/
def versionText : String := "ifstrip 0.1.0\n"

/-- How the command is called. -/
def usageText : String :=
  "Usage: ifstrip [OPTIONS] [INPUT]\n"

/-- What the command does and which options it has. -/
def helpText : String :=
  "Strip #if/#elif/#else/#endif blocks for a set of defined symbols\n\n" ++ usageText ++ "
Arguments:
  [INPUT]  Input source file to process (use '-' for stdin)

Options:
  -o, --output <OUTPUT>            Output file (use '-' for stdout, default: stdout)
  -D, --define <SYMBOL>            Define a symbol (repeatable, or a comma separated list)
      --config <FILE>              Read symbols and options from a JSON file (flags take precedence)
      --line-ending <LINE_ENDING>  Line terminator convention: auto, lf, crlf or cr [default: auto]
      --strict-trailing-text       Fail on text after #else or #endif instead of ignoring it
      --pass-unknown-directives    Copy unknown directives such as #region or #pragma through unchanged
      --nesting-limit <N>          Maximum directive and expression nesting depth [default: 128]
      --check                      Validate the input without writing any output
      --explain <EXPR>             Print the parsed form of a guard expression and its value, then exit
      --json                       Output the result in JSON format
  -v, --verbose...                 Increase verbosity (-v debug, -vv trace; RUST_LOG overrides)
  -q, --quiet                      Suppress non-error output (quiet mode)
  -n, --dry-run                    Show what would happen without actually processing
      --no-color                   Disable colored output
      --force-color                Force colored output even when not a terminal
  -h, --help                       Print help
  -V, --version                    Print version
"

/-- What is left behind if the arguments are no options. -/
def Interruption.outcome (interruption : Interruption) (files : FileSystem) : Outcome :=
  match interruption with
  | .help => { exitCode := 0, standardOutput := helpText.toList, files }
  | .version => { exitCode := 0, standardOutput := versionText.toList, files }
  | .usage error =>
    { exitCode := 2
      standardError := ("error: " ++ error.message ++ "\n\n" ++ usageText).toList
      files }

/-- A run with these tools. -/
def Toolkit.run (toolkit : Toolkit) (invocation : Invocation) : Outcome :=
  match toolkit.parseArguments invocation.arguments with
  | .ok options => toolkit.execute invocation options
  | .error interruption => interruption.outcome invocation.files

/-- A run of the command. -/
def runCommand (invocation : Invocation) : Outcome :=
  Toolkit.standard.run invocation

end DirectiveStrip
