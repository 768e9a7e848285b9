import DirectiveStrip.Settings
import DirectiveStrip.Text.Digits

/-!
# Command line options

The options of the command and how they are written. Flags stand alone; the other options take a
value, which is either attached or the next argument. Short flags can be run together behind one
dash, and the last of them may take a value. Two dashes by themselves end the options, and a single
dash is an ordinary value.

Arguments are read one at a time, from left to right. Asking for help or for the version ends the
reading at once, so it wins over any mistake further right and over options that exclude each other.

## Main definitions

* `Options`: What the arguments ask for.
* `Flag`, `ValueOption`: The options without and with a value.
* `UsageError`: A mistake in the arguments.
* `Interruption`: Why reading the arguments ends early.
* `ArgumentReader`: What has been read so far.
* `Options.parse`: The options that arguments spell.
-/

namespace DirectiveStrip

/-- What the arguments ask for. -/
structure Options where
  /-- The source to strip; a dash for standard input. -/
  input? : Option Text := none
  /-- Where to put the result; a dash for standard output. -/
  output? : Option Text := none
  /-- Symbols to define. -/
  symbols : List Text := []
  /-- A settings file. -/
  settingsFile? : Option Text := none
  lineEnding? : Option LineEnding := none
  strictTrailingText : Bool := false
  passUnknownDirectives : Bool := false
  nestingLimit? : Option Nat := none
  /-- Only find out whether the source can be stripped. -/
  check : Bool := false
  /-- A guard to explain, instead of stripping anything. -/
  explain? : Option Text := none
  json : Bool := false
  verbosity : Nat := 0
  quiet : Bool := false
  dryRun : Bool := false
  noColor : Bool := false
  forceColor : Bool := false
deriving DecidableEq, Repr

/-- The options without a value. -/
inductive Flag where
  | strictTrailingText
  | passUnknownDirectives
  | check
  | json
  | verbose
  | quiet
  | dryRun
  | noColor
  | forceColor
  | help
  | version
deriving DecidableEq, Repr

namespace Flag

/-- The name behind two dashes. -/
def name : Flag → String
  | strictTrailingText => "strict-trailing-text"
  | passUnknownDirectives => "pass-unknown-directives"
  | check => "check"
  | json => "json"
  | verbose => "verbose"
  | quiet => "quiet"
  | dryRun => "dry-run"
  | noColor => "no-color"
  | forceColor => "force-color"
  | help => "help"
  | version => "version"

/-- The letter behind one dash, if there is one. -/
def letter? : Flag → Option Char
  | verbose => some 'v'
  | quiet => some 'q'
  | dryRun => some 'n'
  | help => some 'h'
  | version => some 'V'
  | strictTrailingText | passUnknownDirectives | check | json | noColor | forceColor => none

/-- The flags there are. -/
def all : List Flag :=
  [strictTrailingText, passUnknownDirectives, check, json, verbose, quiet, dryRun, noColor,
   forceColor, help, version]

/-- The flag of this name. -/
def ofName? (name : Text) : Option Flag :=
  all.find? (·.name.toList = name)

/-- The flag of this letter. -/
def ofLetter? (letter : Char) : Option Flag :=
  all.find? (·.letter? = some letter)

end Flag

/-- The options with a value. -/
inductive ValueOption where
  | output
  | define
  | config
  | lineEnding
  | nestingLimit
  | explain
deriving DecidableEq, Repr

namespace ValueOption

/-- The name behind two dashes. -/
def name : ValueOption → String
  | output => "output"
  | define => "define"
  | config => "config"
  | lineEnding => "line-ending"
  | nestingLimit => "nesting-limit"
  | explain => "explain"

/-- The letter behind one dash, if there is one. -/
def letter? : ValueOption → Option Char
  | output => some 'o'
  | define => some 'D'
  | config | lineEnding | nestingLimit | explain => none

/-- The options with a value there are. -/
def all : List ValueOption := [output, define, config, lineEnding, nestingLimit, explain]

/-- The option of this name. -/
def ofName? (name : Text) : Option ValueOption :=
  all.find? (·.name.toList = name)

/-- The option of this letter. -/
def ofLetter? (letter : Char) : Option ValueOption :=
  all.find? (·.letter? = some letter)

end ValueOption

/-- A mistake in the arguments. -/
inductive UsageError where
  /-- No arguments at all. -/
  | noArguments
  | unexpectedArgument (argument : Text)
  | missingValue (option : String)
  | invalidValue (option : String) (value : Text)
  /-- A value for a flag. -/
  | unneededValue (flag : String)
  /-- An option given twice. -/
  | repeated (option : String)
  /-- Two options that exclude each other. -/
  | conflict (first second : String)
  /-- Nothing to strip and nothing to explain. -/
  | missingInput
deriving DecidableEq, Repr

/-- The mistake in words. -/
def UsageError.message : UsageError → String
  | noArguments => "no arguments given"
  | unexpectedArgument argument => "unexpected argument '" ++ String.ofList argument ++ "' found"
  | missingValue option => "a value is required for '" ++ option ++ "' but none was supplied"
  | invalidValue option value =>
    "invalid value '" ++ String.ofList value ++ "' for '" ++ option ++ "'"
  | unneededValue flag => "'" ++ flag ++ "' takes no value"
  | repeated option => "'" ++ option ++ "' cannot be used multiple times"
  | conflict first second => "'" ++ first ++ "' cannot be used with '" ++ second ++ "'"
  | missingInput => "an input file is required"

/-- Why reading the arguments ends early. -/
inductive Interruption where
  | help
  | version
  | usage (error : UsageError)
deriving DecidableEq, Repr

namespace Options

/-- A number in decimal digits, with an optional plus sign, that a setting can have. -/
def readCount? (text : Text) : Option Nat :=
  let digits := match text with
    | '+' :: rest => rest
    | _ => text
  if digits.isEmpty || !digits.all isDigit then none
  else (some (natOfDigits 10 digits)).filter (· ≤ largestWord)

/-- A value for an option that must not have one yet. -/
def once {α : Type} (option : String) (current? : Option α) (value : α) :
    Except Interruption (Option α) :=
  if current?.isSome then .error (.usage (.repeated option)) else .ok (some value)

/-- A path, which must not be empty. -/
def readPath (option : String) (value : Text) : Except Interruption Text :=
  if value.isEmpty then .error (.usage (.invalidValue option value)) else .ok value

/-- A value that is read, or refused. -/
def readOr {α : Type} (option : String) (value : Text) : Option α → Except Interruption α
  | some a => .ok a
  | none => .error (.usage (.invalidValue option value))

/-- The options with a value given to one of them. Symbols accumulate, and a value can list several
    with commas between them. -/
def assign (options : Options) (option : ValueOption) (value : Text) :
    Except Interruption Options := do
  let name := option.name
  match option with
  | .output =>
    return { options with output? := ← once name options.output? (← readPath name value) }
  | .define => return { options with symbols := options.symbols ++ splitAt ',' value }
  | .config =>
    return { options with
      settingsFile? := ← once name options.settingsFile? (← readPath name value) }
  | .lineEnding =>
    let ending ← readOr name value (LineEnding.ofName? (String.ofList value))
    return { options with lineEnding? := ← once name options.lineEnding? ending }
  | .nestingLimit =>
    let limit ← readOr name value (readCount? value)
    return { options with nestingLimit? := ← once name options.nestingLimit? limit }
  | .explain => return { options with explain? := ← once name options.explain? value }

/-- Set a flag that must not be set yet. -/
def raise (flag : Flag) (current : Bool) : Except Interruption Bool :=
  if current then .error (.usage (.repeated flag.name)) else .ok true

/-- The options with a flag given. Only the flag for verbosity may be repeated. -/
def set (options : Options) (flag : Flag) : Except Interruption Options := do
  match flag with
  | .strictTrailingText =>
    return { options with strictTrailingText := ← raise flag options.strictTrailingText }
  | .passUnknownDirectives =>
    return { options with passUnknownDirectives := ← raise flag options.passUnknownDirectives }
  | .check => return { options with check := ← raise flag options.check }
  | .json => return { options with json := ← raise flag options.json }
  | .verbose => return { options with verbosity := options.verbosity + 1 }
  | .quiet => return { options with quiet := ← raise flag options.quiet }
  | .dryRun => return { options with dryRun := ← raise flag options.dryRun }
  | .noColor => return { options with noColor := ← raise flag options.noColor }
  | .forceColor => return { options with forceColor := ← raise flag options.forceColor }
  | .help => .error .help
  | .version => .error .version

/-- The options with an argument that belongs to none of them. There can only be one. -/
def place (options : Options) (argument : Text) : Except Interruption Options := do
  if options.input?.isSome then .error (.usage (.unexpectedArgument argument))
  return { options with input? := some (← readPath "input" argument) }

/-- Refuse options that exclude each other, and a command that has nothing to do. -/
def validate (options : Options) : Except UsageError Options :=
  if options.explain?.isSome && options.check then .error (.conflict "explain" "check")
  else if options.explain?.isSome && options.dryRun then .error (.conflict "explain" "dry-run")
  else if options.noColor && options.forceColor then .error (.conflict "no-color" "force-color")
  else if options.input?.isNone && options.explain?.isNone then .error .missingInput
  else .ok options

end Options

/-- What has been read of the arguments. -/
structure ArgumentReader where
  options : Options := {}
  /-- An option that waits for its value. -/
  pending? : Option ValueOption := none
  /-- The options are over. -/
  onlyInput : Bool := false

namespace ArgumentReader

/-- Refuse to go on while an option waits for its value. -/
def settled (reader : ArgumentReader) : Except Interruption Unit :=
  match reader.pending? with
  | some option => .error (.usage (.missingValue option.name))
  | none => .ok ()

/-- An argument behind two dashes: a name, and possibly a value after an equals sign. -/
def readLong (reader : ArgumentReader) (argument : Text) : Except Interruption ArgumentReader := do
  let name := argument.takeWhile (· != '=')
  let attached? := (argument.dropWhile (· != '=')).tail?
  match ValueOption.ofName? name, attached? with
  | some option, some value =>
    return { reader with options := ← reader.options.assign option value }
  | some option, none => return { reader with pending? := some option }
  | none, _ =>
    match Flag.ofName? name, attached? with
    | some flag, none => return { reader with options := ← reader.options.set flag }
    | some flag, some _ => .error (.usage (.unneededValue flag.name))
    | none, _ => .error (.usage (.unexpectedArgument ('-' :: '-' :: argument)))

/-- An argument behind one dash: letters of flags, and possibly the letter of an option with a
    value, which is what follows it, an equals sign apart, or else the next argument. -/
def readShort (reader : ArgumentReader) : Text → Except Interruption ArgumentReader
  | [] => .ok reader
  | letter :: rest =>
    match ValueOption.ofLetter? letter with
    | some option =>
      match rest with
      | [] => .ok { reader with pending? := some option }
      | '=' :: value => do return { reader with options := ← reader.options.assign option value }
      | value => do return { reader with options := ← reader.options.assign option value }
    | none =>
      match Flag.ofLetter? letter with
      | some flag => do
        let options ← reader.options.set flag
        { reader with options }.readShort rest
      | none => .error (.usage (.unexpectedArgument ['-', letter]))

/-- An argument that is not an option: the value that an option waits for, or the input. -/
def readPlain (reader : ArgumentReader) (argument : Text) : Except Interruption ArgumentReader := do
  match reader.pending? with
  | some option =>
    return { reader with options := ← reader.options.assign option argument, pending? := none }
  | none => return { reader with options := ← reader.options.place argument }

/-- Read the next argument. -/
def next (reader : ArgumentReader) (argument : Text) : Except Interruption ArgumentReader :=
  if reader.onlyInput then reader.readPlain argument
  else
    match argument with
    | ['-', '-'] => do
      reader.settled
      return { reader with onlyInput := true }
    | '-' :: '-' :: long => do
      reader.settled
      reader.readLong long
    | '-' :: letter :: letters => do
      reader.settled
      reader.readShort (letter :: letters)
    | _ => reader.readPlain argument

end ArgumentReader

/-- The options that arguments spell, or why there are none. -/
def Options.parse (arguments : List Text) : Except Interruption Options := do
  if arguments.isEmpty then .error (.usage .noArguments)
  let reader ← arguments.foldlM ArgumentReader.next {}
  reader.settled
  match reader.options.validate with
  | .ok options => .ok options
  | .error error => .error (.usage error)

end DirectiveStrip
